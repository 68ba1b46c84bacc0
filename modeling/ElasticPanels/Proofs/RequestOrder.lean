import ElasticPanels.Proofs.ComposedRequests
import ElasticPanels.Proofs.FailedRequests

/-!
# The order of requests

Requests arrive one after the other, each with the reactions that the search server will show to it
(`Arrival`).  As long as no reply sets a cookie, all that a request leaves behind for later ones is
what it has counted, and nobody looks at that but a request for the counters.  So the order of
requests makes no difference to what is asked for each of them, to their answers, and to the
counters in the end (`Service.independent_of_order`).
-/

namespace ElasticPanels

open Session

/-! ## Counters -/

namespace Telemetry

variable {events other : List Event}

theorem counters_of_perm (h : events.Perm other) (name : String)
    (labelled : List (List (String × String) × Event)) :
    counters name labelled events = counters name labelled other := by
  simp only [counters, h.count_eq]

theorem batchSamples_of_perm (h : events.Perm other) :
    batchSamples events = batchSamples other := by
  have sizes : (batchSizes events).Perm (batchSizes other) := h.filterMap _
  have total : (batchSizes events).foldr Nat.add 0 = (batchSizes other).foldr Nat.add 0 :=
    sizes.sum_eq
  simp only [batchSamples, sizes.countP_eq, sizes.length_eq, total]

/-- The counters do not tell in which order the events happened. -/
theorem samples_of_perm (h : events.Perm other) : samples events = samples other := by
  simp only [samples, searchSamples, failureSamples, lookupSamples, counters_of_perm h,
    batchSamples_of_perm h]

theorem exposition_of_perm (h : events.Perm other) : exposition events = exposition other := by
  simp only [exposition, searchSamples, failureSamples, lookupSamples, counters_of_perm h,
    batchSamples_of_perm h]

end Telemetry

/-! ## Arrivals -/

/-- A request to the service, with what the search server will do meanwhile. -/
structure Visit where
  request : Incoming
  upstream : List Reaction

/-- No reply to the requests of the visit sets a cookie. -/
def Visit.IsQuiet (v : Visit) : Prop := ∀ reaction ∈ v.upstream, reaction.SetsNoCookie

/-- A journal without a record, but with a jar, in which the visit is met. -/
def Visit.alone (jar : Http.CookieJar) (v : Visit) : Journal := ⟨0, v.upstream, [], [], [], jar⟩

/-- A visit at some time. -/
structure Arrival where
  visit : Visit
  time : ℤ

/-- The journal with which the arrival is met. -/
def Arrival.begun (a : Arrival) (j : Journal) : Journal :=
  { j with now := a.time, pending := a.visit.upstream }

namespace Service

variable (s : Service)

/-- The journal after an arrival. -/
def receive (j : Journal) (a : Arrival) : Journal :=
  ((s.handle a.visit.request).run.run (a.begun j)).2

/-- The journal after some arrivals. -/
def receiveAll (j : Journal) (arrivals : List Arrival) : Journal := arrivals.foldl s.receive j

/-- What becomes of a visit that comes alone. -/
def outcome (jar : Http.CookieJar) (v : Visit) : Outcome Response × Journal :=
  (s.handle v.request).run.run (v.alone jar)

/-- The events that a visit adds to what is counted. -/
def counted (jar : Http.CookieJar) (v : Visit) : List Telemetry.Event :=
  (s.outcome jar v).2.events

variable {s}

/-- Showing the counters leaves everything as it is. -/
theorem run_of_readsCounters {r : Incoming} (reads : r.ReadsCounters) (j : Journal) :
    ((s.handle r).run.run j).2 = j := by
  obtain ⟨method, path | path⟩ := reads
  · have metrics : Endpoint.ofPath? r.path = some .metrics := by rw [path]; decide
    rw [handle_of_endpoint metrics method]
    rfl
  · have counters : Endpoint.ofPath? r.path = some .counters := by rw [path]; decide
    have number (kind : SearchKind) : (searches kind).run.run j =
        (.ok (.float (.ofInt (j.events.count (.search kind)))), j) := rfl
    rw [handle_of_endpoint counters method, serve, run_bind_of_ok (number _),
      run_bind_of_ok (number _), Response.ofJson]
    cases Text.Encoding.utf8.require _ <;> rfl

section

variable {v : Visit} (quiet : v.IsQuiet)
include quiet

/-- What a quiet visit does depends on the jar alone: neither the time nor what has been recorded
before it makes a difference, unless it asks for the counters. -/
theorem run_of_quiet (unread : ¬ v.request.ReadsCounters) (j : Journal) (time : ℤ) :
    s.Responds v.request ((Arrival.mk v time).begun j) (s.outcome j.jar v).1
        (s.outcome j.jar v).2.sent ∧
      (s.receive j ⟨v, time⟩).events = j.events ++ s.counted j.jar v ∧
      (s.receive j ⟨v, time⟩).jar = j.jar := by
  have composed : Composed (s.Directs v.request) true (s.handle v.request) :=
    composed_handle unread (.inl rfl)
  have run := composed.run_of_quiet (i := (Arrival.mk v time).begun j) (j := v.alone j.jar) rfl rfl
    quiet
  have alone : (v.alone j.jar).fresh = v.alone j.jar := rfl
  rw [alone] at run
  rw [Responds, receive, counted, outcome, and_assoc]
  exact run

/-- A quiet visit leaves the jar as it is and adds its events to what is counted. -/
theorem receive_of_quiet (j : Journal) (time : ℤ) :
    (s.receive j ⟨v, time⟩).jar = j.jar ∧
      (s.receive j ⟨v, time⟩).events = j.events ++ s.counted j.jar v := by
  by_cases reads : v.request.ReadsCounters
  · have same : s.receive j ⟨v, time⟩ = (Arrival.mk v time).begun j := run_of_readsCounters reads _
    have none : s.counted j.jar v = [] := congrArg Journal.events (run_of_readsCounters reads _)
    rw [same, none, List.append_nil]
    exact ⟨rfl, rfl⟩
  · obtain ⟨-, events, jar⟩ := run_of_quiet quiet reads j time
    exact ⟨jar, events⟩

end

/-- Quiet visits leave the jar as it is, and each adds its events to what is counted. -/
theorem receiveAll_of_quiet {arrivals : List Arrival} (quiet : ∀ a ∈ arrivals, a.visit.IsQuiet)
    (j : Journal) : (s.receiveAll j arrivals).jar = j.jar ∧
      (s.receiveAll j arrivals).events =
        j.events ++ (arrivals.map Arrival.visit).flatMap (s.counted j.jar) := by
  induction arrivals generalizing j with
  | nil => exact ⟨rfl, (List.append_nil _).symm⟩
  | cons a arrivals ih =>
    obtain ⟨first, later⟩ := List.forall_mem_cons.1 quiet
    obtain ⟨jar, events⟩ := receive_of_quiet (s := s) first j a.time
    obtain ⟨kept, added⟩ := ih later (s.receive j a)
    have step : s.receiveAll j (a :: arrivals) = s.receiveAll (s.receive j a) arrivals := rfl
    rw [jar] at kept added
    rw [step, kept, added, events, List.map_cons, List.flatMap_cons, List.append_assoc]
    exact ⟨rfl, rfl⟩

/-- The order in which requests arrive makes no difference, as long as no reply sets a cookie: each
request, unless it asks for the counters, gets the same answer and has the same requests sent for it
in both orders, whatever arrived before it, and in the end the counters are the same. -/
theorem independent_of_order (s : Service) (j : Journal) {arrivals other : List Arrival}
    (reordered : (arrivals.map Arrival.visit).Perm (other.map Arrival.visit))
    (quiet : ∀ a ∈ arrivals, a.visit.IsQuiet) :
    (∀ (before : List Arrival) (a : Arrival) (after before' : List Arrival) (a' : Arrival)
        (after' : List Arrival), arrivals = before ++ a :: after → other = before' ++ a' :: after' →
      a.visit = a'.visit → ¬ a.visit.request.ReadsCounters →
      ∃ answer sent,
        s.Responds a.visit.request (a.begun (s.receiveAll j before)) answer sent ∧
        s.Responds a.visit.request (a'.begun (s.receiveAll j before')) answer sent) ∧
    Telemetry.samples (s.receiveAll j arrivals).events =
      Telemetry.samples (s.receiveAll j other).events ∧
    Telemetry.exposition (s.receiveAll j arrivals).events =
      Telemetry.exposition (s.receiveAll j other).events := by
  have quiet' : ∀ a ∈ other, a.visit.IsQuiet := by
    intro a mem
    have there := reordered.mem_iff.2 (List.mem_map_of_mem (f := Arrival.visit) mem)
    obtain ⟨b, hb, same⟩ := List.mem_map.1 there
    exact same ▸ quiet b hb
  have events : (s.receiveAll j arrivals).events.Perm (s.receiveAll j other).events := by
    rw [(receiveAll_of_quiet quiet j).2, (receiveAll_of_quiet quiet' j).2]
    exact (reordered.flatMap_right _).append_left _
  refine ⟨?_, Telemetry.samples_of_perm events, Telemetry.exposition_of_perm events⟩
  rintro before ⟨v, time⟩ after before' ⟨_, time'⟩ after' rfl rfl rfl unread
  have calm : v.IsQuiet := quiet ⟨v, time⟩ (by simp)
  have jar : (s.receiveAll j before).jar = j.jar :=
    (receiveAll_of_quiet (fun b mem => quiet b (by simp [mem])) j).1
  have jar' : (s.receiveAll j before').jar = j.jar :=
    (receiveAll_of_quiet (fun b mem => quiet' b (by simp [mem])) j).1
  have here := (run_of_quiet (s := s) calm unread (s.receiveAll j before) time).1
  have there := (run_of_quiet (s := s) calm unread (s.receiveAll j before') time').1
  rw [jar] at here
  rw [jar'] at there
  exact ⟨_, _, here, there⟩

end Service

/-- A search for terms that does not reach the server. -/
def unreachedTerms : Visit := ⟨hostTerms, [.failure .connect "refused"]⟩

/-- A request for fields that an index without a mapping refuses. -/
def refusedFields : Visit := ⟨allFields, [.reply ⟨404, [], noRoom.spacedText⟩]⟩

/-- The search first. -/
def termsFirst : List Arrival := [⟨unreachedTerms, 0⟩, ⟨refusedFields, 1⟩]

/-- The search last. -/
def termsLast : List Arrival := [⟨refusedFields, 0⟩, ⟨unreachedTerms, 5⟩]

/-- A failure before the search makes no difference to it, nor to the counters. -/
theorem termsFirst_or_termsLast :
    (termsFirst.map Arrival.visit).Perm (termsLast.map Arrival.visit) ∧
      (∀ a ∈ termsFirst, a.visit.IsQuiet) ∧ ¬ unreachedTerms.request.ReadsCounters ∧
      (∃ answer sent,
        someService.Responds unreachedTerms.request
          ((Arrival.mk unreachedTerms 0).begun (someService.receiveAll .blank [])) answer sent ∧
        someService.Responds unreachedTerms.request
          ((Arrival.mk unreachedTerms 5).begun
            (someService.receiveAll .blank [⟨refusedFields, 0⟩])) answer sent) ∧
      Telemetry.samples (someService.receiveAll .blank termsFirst).events =
        Telemetry.samples (someService.receiveAll .blank termsLast).events := by
  have swapped : (termsFirst.map Arrival.visit).Perm (termsLast.map Arrival.visit) := .swap _ _ _
  have quiet : ∀ a ∈ termsFirst, a.visit.IsQuiet :=
    List.forall_mem_cons.2 ⟨List.forall_mem_singleton.2 trivial,
      List.forall_mem_singleton.2 (List.forall_mem_singleton.2 rfl)⟩
  have unread : ¬ hostTerms.ReadsCounters := by
    rw [Incoming.ReadsCounters]
    decide +kernel
  obtain ⟨each, samples, -⟩ := Service.independent_of_order someService .blank swapped quiet
  have both := each [] ⟨unreachedTerms, 0⟩ [⟨refusedFields, 1⟩] [⟨refusedFields, 0⟩]
    ⟨unreachedTerms, 5⟩ [] rfl rfl rfl unread
  exact ⟨swapped, quiet, unread, both, samples⟩

end ElasticPanels

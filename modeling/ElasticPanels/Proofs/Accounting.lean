import ElasticPanels.Proofs.Operations
import ElasticPanels.Proofs.Samples

/-!
# What the counters say

Operations are called one after the other, each with the time, the cookies and the reactions of the
search server that it meets (`Call`).  What is counted after the calls is what they add one by one
(`events_performAll`), so each counter is a number of calls: of those that attempt a multi-search,
that are refused, that are lost, or that look something up (`counters_of_calls`).
-/

namespace ElasticPanels

open Search Session Telemetry

/-! ## Runs of calls -/

/-- A call of an operation of a datasource: the time of it, the cookies that its client holds, and
what the search server will do. -/
structure Call where
  datasource : Datasource
  operation : Operation
  now : Int
  jar : Http.CookieJar
  reactions : List Reaction

namespace Call

variable (call : Call)

/-- The journal with which the call begins. -/
def start (j : Journal) : Journal :=
  { j with now := call.now, pending := call.reactions, jar := call.jar }

/-- The journal after the call. -/
def perform (j : Journal) : Journal := call.operation.run call.datasource (call.start j)

/-- The attempt of the call at a multi-search. -/
def attempt? : Option Attempt := call.operation.attempt? call.datasource (call.start .blank)

/-- The events that the call adds to what is counted. -/
def counted : List Event := call.operation.counted call.attempt?

/-- A call adds its events to what is counted, whatever has been recorded before, and it sends the
requests of its attempt. -/
theorem perform_adds (j : Journal) :
    ∃ sent, AreSent call.attempt? sent ∧ j.Adds sent call.counted (call.perform j) := by
  obtain ⟨sent, are, adds⟩ := call.operation.adds (d := call.datasource) (j := call.start j)
  exact ⟨sent, are, adds.sent, adds.events⟩

end Call

/-- The journal after some calls. -/
def performAll (calls : List Call) : Journal := calls.foldl (fun j call => call.perform j) .blank

/-- What is counted is what the calls add one by one. -/
theorem events_performAll (calls : List Call) :
    (performAll calls).events = calls.flatMap Call.counted := by
  -- What a call adds does not depend on the journal that it meets, so the induction is over any.
  have later (j : Journal) : (calls.foldl (fun j call => call.perform j) j).events =
      j.events ++ calls.flatMap Call.counted := by
    induction calls generalizing j with
    | nil => exact (List.append_nil _).symm
    | cons call calls ih =>
      obtain ⟨_, -, adds⟩ := call.perform_adds j
      rw [List.foldl_cons, ih, adds.events, List.flatMap_cons, List.append_assoc]
  exact later .blank

/-! ## Counting -/

namespace Call

/-- The call attempts a multi-search of the kind. -/
def Attempts (kind : SearchKind) (call : Call) : Prop := ∃ a ∈ call.attempt?, a.kind = kind

/-- The call attempts a multi-search of the kind that the engine refuses. -/
def AttemptsRefused (kind : SearchKind) (call : Call) : Prop :=
  ∃ a ∈ call.attempt?, a.kind = kind ∧ IsRefused a.ending

/-- The call attempts a multi-search of the kind that is lost. -/
def AttemptsLost (kind : SearchKind) (call : Call) : Prop :=
  ∃ a ∈ call.attempt?, a.kind = kind ∧ IsLost a.ending

instance (kind : SearchKind) : DecidablePred (Attempts kind) := fun _ =>
  inferInstanceAs (Decidable (∃ _ ∈ _, _))

instance (kind : SearchKind) : DecidablePred (AttemptsRefused kind) := fun _ =>
  inferInstanceAs (Decidable (∃ _ ∈ _, _))

instance (kind : SearchKind) : DecidablePred (AttemptsLost kind) := fun _ =>
  inferInstanceAs (Decidable (∃ _ ∈ _, _))

end Call

section

variable {α : Type} (p : α → Bool)

theorem countP_cons_toNat (a : α) (as : List α) :
    (a :: as).countP p = (p a).toNat + as.countP p := by
  rw [List.countP_cons, Nat.add_comm]
  cases p a <;> rfl

theorem countP_eq_sum (as : List α) : as.countP p = (as.map fun a => (p a).toNat).sum := by
  induction as with
  | nil => rfl
  | cons a as ih => rw [countP_cons_toNat, List.map_cons, List.sum_cons, ih]

end

/-- An event that happens at most once in each call is counted once for each call with it. -/
theorem count_eq_countP {event : Event} {p : Call → Bool}
    (h : ∀ call : Call, call.counted.count event = (p call).toNat) (calls : List Call) :
    (performAll calls).events.count event = calls.countP p := by
  rw [events_performAll]
  induction calls with
  | nil => rfl
  | cons call calls ih => rw [List.flatMap_cons, List.count_append, ih, h, countP_cons_toNat]

section

variable {operation : Operation} {attempt : Option Attempt}

theorem count_counted {event : Event} (unsized : ∀ n, event ≠ .batch n)
    (unlooked : ∀ target, event ≠ .lookup target) :
    (operation.counted attempt).count event =
      (attempt.elim [] Attempt.events).count event := by
  cases operation with
  | batch queries filters vars =>
    cases attempt with
    | none => rfl
    | some a => exact List.count_cons_of_ne (unsized _).symm
  | lookup raw vars =>
    have none :
        ((Operation.lookup raw vars).target?.toList.map Event.lookup).count event = 0 := by
      rw [List.count_eq_zero]
      intro mem
      obtain ⟨target, -, rfl⟩ := List.mem_map.1 mem
      exact unlooked target rfl
    rw [Operation.counted, List.count_append, none, Nat.zero_add]
  | _ => rfl

theorem count_search (kind : SearchKind) : (operation.counted attempt).count (.search kind) =
    (decide (∃ a ∈ attempt, a.kind = kind)).toNat := by
  rw [count_counted (by simp) (by simp)]
  cases attempt with
  | none => rfl
  | some a =>
    have unfailed :
        ((failure? a.ending).toList.map (Event.failure a.kind)).count (.search kind) = 0 := by
      simp [List.count_eq_zero]
    rw [Option.elim_some, Attempt.events, List.count_cons, unfailed]
    by_cases same : a.kind = kind <;> simp [same]

theorem count_failure (kind : SearchKind) (reason : FailureReason) :
    (operation.counted attempt).count (.failure kind reason) =
      (decide (∃ a ∈ attempt, a.kind = kind ∧ failure? a.ending = some reason)).toNat := by
  rw [count_counted (by simp) (by simp)]
  cases attempt with
  | none => rfl
  | some a =>
    rw [Option.elim_some, Attempt.events, List.count_cons]
    cases ended : failure? a.ending with
    | none => simp [ended]
    | some found =>
      by_cases same : a.kind = kind <;> by_cases because : found = reason <;>
        simp [same, because, ended]

theorem count_lookup (target : Lookup.Target) :
    (operation.counted attempt).count (.lookup target) =
      (decide (operation.target? = some target)).toNat := by
  have unlooked : (attempt.elim [] Attempt.events).count (.lookup target) = 0 := by
    rw [List.count_eq_zero]
    cases attempt <;> simp [Attempt.events]
  cases operation with
  | batch queries filters vars =>
    cases attempt with
    | none => rfl
    | some a =>
      rw [Operation.counted, Option.elim_some, List.count_cons]
      simpa [Operation.target?] using unlooked
  | lookup raw vars =>
    rw [Operation.counted, List.count_append, unlooked]
    cases (Operation.lookup raw vars).target? with
    | none => rfl
    | some found => by_cases same : found = target <;> simp [same]
  | _ => exact unlooked

end

/-! ## Attempts by kind -/

/-- The kind of multi-search that the operation may post. -/
def Operation.kind : Operation → SearchKind
  | batch .. => .query
  | _ => .terms

theorem Operation.kind_of_posting {d : Datasource} {operation : Operation} {p : Posting}
    (h : operation.posting? d = some p) : p.kind = operation.kind := by
  cases operation with
  | batch queries filters vars =>
    rw [posting?] at h
    split_ifs at h
    obtain ⟨text, -, rfl⟩ := Option.map_eq_some_iff.1 h
    rfl
  | lookup raw vars =>
    rw [posting?] at h
    split at h
    · split_ifs at h
      cases h
      rfl
    · cases h
  | tagValues field =>
    rw [posting?] at h
    obtain ⟨l, -, rfl⟩ := Option.map_eq_some_iff.1 h
    rfl
  | _ => cases h

/-- A lookup posts if and only if it looks for terms. -/
theorem Operation.posts_lookup (d : Datasource) (raw : Json) (vars : Template.Variables) :
    ((lookup raw vars).posting? d).isSome = decide ((lookup raw vars).target? = some .terms) := by
  rw [posting?, target?]
  rcases Lookup.read raw with fault | _ | l
  · rfl
  · rfl
  · dsimp only
    split_ifs with terms <;> simp [terms]

namespace Call

theorem attempts_iff {kind : SearchKind} {call : Call} : call.Attempts kind ↔
    (call.operation.posting? call.datasource).isSome = true ∧ call.operation.kind = kind := by
  rw [Attempts, attempt?, Operation.attempt?]
  cases posting : call.operation.posting? call.datasource with
  | none => simp
  | some p =>
    rw [← Operation.kind_of_posting posting]
    simp [Connection.attempt]

theorem attempts_terms (call : Call) : (decide (call.Attempts .terms)).toNat =
    (decide (call.operation.target? = some .terms)).toNat + call.operation.isTagValues.toNat := by
  obtain ⟨d, operation, now, jar, reactions⟩ := call
  simp only [attempts_iff]
  cases operation with
  | lookup raw vars =>
    rw [Operation.posts_lookup]
    simp [Operation.kind, Operation.isTagValues]
  | tagValues field =>
    obtain ⟨l, given⟩ := ofField_str field
    simp [Operation.kind, Operation.isTagValues, Operation.target?, Operation.posting?, given,
      Except.toOption]
  | _ => simp [Operation.kind, Operation.isTagValues, Operation.target?, Operation.posting?]

theorem AttemptsRefused.attempts {kind : SearchKind} {call : Call}
    (h : call.AttemptsRefused kind) : call.Attempts kind := by
  obtain ⟨a, ha, same, -⟩ := h
  exact ⟨a, ha, same⟩

theorem AttemptsLost.attempts {kind : SearchKind} {call : Call} (h : call.AttemptsLost kind) :
    call.Attempts kind := by
  obtain ⟨a, ha, same, -⟩ := h
  exact ⟨a, ha, same⟩

/-- A search that is refused is not lost. -/
theorem AttemptsRefused.not_lost {kind : SearchKind} {call : Call}
    (h : call.AttemptsRefused kind) : ¬ call.AttemptsLost kind := by
  obtain ⟨a, ha, -, refused⟩ := h
  rintro ⟨b, hb, -, lost⟩
  obtain rfl : a = b := Option.some.inj (ha.symm.trans hb)
  rw [← failure?_eq_engine] at refused
  rw [← failure?_eq_transport, refused] at lost
  cases lost

theorem failures_le (call : Call) (kind : SearchKind) :
    (decide (call.AttemptsRefused kind)).toNat + (decide (call.AttemptsLost kind)).toNat ≤
      (decide (call.Attempts kind)).toNat := by
  by_cases refused : call.AttemptsRefused kind
  · simp [refused, refused.not_lost, refused.attempts]
  · by_cases lost : call.AttemptsLost kind
    · simp [refused, lost, lost.attempts]
    · simp [refused, lost]

theorem batchSizes_counted (call : Call) : Telemetry.batchSizes call.counted =
    if call.Attempts .query then [call.operation.visible] else [] := by
  have unsized : Telemetry.batchSizes (call.attempt?.elim [] Attempt.events) = [] := by
    cases call.attempt? <;> simp [Telemetry.batchSizes, Attempt.events]
  have unposted (h : call.operation.kind = .terms) : ¬ call.Attempts .query := fun attempts => by
    rw [(attempts_iff.1 attempts).2] at h
    cases h
  cases operation : call.operation with
  | batch queries filters vars =>
    have attempts : call.Attempts .query ↔ call.attempt?.isSome = true := by
      rw [attempts_iff, attempt?, Operation.attempt?, operation, Option.isSome_map]
      simp [Operation.kind]
    rw [counted, operation, Operation.counted]
    cases found : call.attempt? with
    | none => simp [attempts, found, Telemetry.batchSizes]
    | some a =>
      rw [found] at unsized
      simpa [attempts, found, Telemetry.batchSizes, Operation.visible] using unsized
  | lookup raw vars =>
    have unlooked : Telemetry.batchSizes ((Operation.lookup raw vars).target?.toList.map .lookup) =
        [] := by simp [Telemetry.batchSizes]
    rw [if_neg (unposted (by rw [operation]; rfl)), counted, operation, Operation.counted,
      Telemetry.batchSizes, List.filterMap_append]
    exact List.append_eq_nil_iff.2 ⟨unlooked, unsized⟩
  | _ =>
    rw [if_neg (unposted (by rw [operation]; rfl)), counted, operation]
    exact unsized

end Call

/-- The batches that are sent are counted with their sizes. -/
theorem batchSizes_performAll (calls : List Call) :
    Telemetry.batchSizes (performAll calls).events =
      (calls.filter (·.Attempts .query)).map (·.operation.visible) := by
  rw [events_performAll]
  induction calls with
  | nil => rfl
  | cons call calls ih =>
    have append (a b : List Event) : Telemetry.batchSizes (a ++ b) =
        Telemetry.batchSizes a ++ Telemetry.batchSizes b := List.filterMap_append ..
    rw [List.flatMap_cons, append, ih, call.batchSizes_counted, List.filter_cons]
    by_cases attempts : call.Attempts .query <;> simp [attempts]

/-- The counters are numbers of calls, each of which sends what its attempt at a multi-search sends:
the searches are the attempts, the batches those with visible queries, the failures the attempts
that are refused or lost, and the lookups the calls that look for something. -/
theorem counters_of_calls (calls : List Call) :
    let reading := Telemetry.reading (performAll calls).events
    let requests (kind : SearchKind) :=
      reading "esds_msearch_requests_total" [("kind", kind.name)]
    let errors (kind : SearchKind) (reason : FailureReason) :=
      reading "esds_msearch_errors_total" [("kind", kind.name), ("reason", reason.name)]
    let lookups (target : Lookup.Target) :=
      reading "esds_meta_queries_total" [("find", target.name)]
    (∀ (call : Call) (j : Journal), ∃ sent, AreSent call.attempt? sent ∧
      (call.perform j).sent = j.sent ++ sent) ∧
    (∀ kind, requests kind = calls.countP (·.Attempts kind)) ∧
    (reading "esds_batch_queries_count" [] = requests .query ∧
      reading "esds_batch_queries_sum" [] =
        ((calls.filter (·.Attempts .query)).map (·.operation.visible)).sum) ∧
    (∀ kind, errors kind .engine = calls.countP (·.AttemptsRefused kind) ∧
      errors kind .transport = calls.countP (·.AttemptsLost kind) ∧
      errors kind .engine + errors kind .transport ≤ requests kind) ∧
    lookups .fields + lookups .terms + lookups .other =
      calls.countP (·.operation.target?.isSome) ∧
    requests .terms = lookups .terms + calls.countP (·.operation.isTagValues) := by
  intro reading requests errors lookups
  have requested (kind : SearchKind) : requests kind = calls.countP (·.Attempts kind) := by
    refine (reading_searches _ kind).trans (count_eq_countP (fun call => ?_) calls)
    exact count_search kind
  have refused (kind : SearchKind) :
      errors kind .engine = calls.countP (·.AttemptsRefused kind) := by
    refine (reading_failures _ kind .engine).trans (count_eq_countP (fun call => ?_) calls)
    refine (count_failure kind .engine).trans (congrArg Bool.toNat (decide_eq_decide.2 ?_))
    simp only [failure?_eq_engine, Call.AttemptsRefused]
  have lost (kind : SearchKind) :
      errors kind .transport = calls.countP (·.AttemptsLost kind) := by
    refine (reading_failures _ kind .transport).trans (count_eq_countP (fun call => ?_) calls)
    refine (count_failure kind .transport).trans (congrArg Bool.toNat (decide_eq_decide.2 ?_))
    simp only [failure?_eq_transport, Call.AttemptsLost]
  have looked (target : Lookup.Target) :
      lookups target = calls.countP (fun call => call.operation.target? = some target) := by
    refine (reading_lookups _ target).trans (count_eq_countP (fun call => ?_) calls)
    exact count_lookup target
  refine ⟨?_, requested, ⟨?_, ?_⟩, fun kind => ⟨refused kind, lost kind, ?_⟩, ?_, ?_⟩
  · intro call j
    obtain ⟨sent, are, adds⟩ := call.perform_adds j
    exact ⟨sent, are, adds.sent⟩
  · rw [requested, List.countP_eq_length_filter]
    exact (reading_batches _).trans (by rw [batchSizes_performAll, List.length_map])
  · exact (reading_batchSizes _).trans (by rw [batchSizes_performAll])
  · rw [requested, refused, lost, countP_eq_sum, countP_eq_sum, countP_eq_sum,
      ← List.sum_map_add]
    exact List.sum_le_sum fun call _ => call.failures_le kind
  · simp only [looked, countP_eq_sum, ← List.sum_map_add]
    congr 2
    funext call
    rcases call.operation.target? with _ | _ | _ | _ <;> rfl
  · rw [requested, looked, countP_eq_sum, countP_eq_sum, countP_eq_sum, ← List.sum_map_add]
    simp only [Call.attempts_terms]

end ElasticPanels

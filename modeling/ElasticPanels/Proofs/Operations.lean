import ElasticPanels.Proofs.MultiSearches
import ElasticPanels.Proofs.ReportedErrors

/-!
# Operations

The operations of a datasource (`Operation`) post one multi-search at most (`Operation.posting?`).
Whether they succeed or fail, wherever they end, they add to a journal just this
(`Operation.adds`):

* the requests of the attempt to post, or without one only requests with GET;
* the events of the attempt, after that of a lookup that asks for something, and after that of a
  batch.
-/

namespace ElasticPanels

open Search Session Telemetry

/-! ## Operations and what they post -/

/-- The operations of a datasource. -/
inductive Operation
  | batch (queries : List PanelQuery) (filters : List AdhocFilter) (vars : Template.Variables)
  | lookup (raw : Json) (vars : Template.Variables)
  | tagValues (field : String)
  | fields (kind : Json)
  | tagKeys
  | test

/-- The journal after the operation. -/
def Operation.run (d : Datasource) (j : Journal) : Operation → Journal
  | batch queries filters vars => ((d.runBatch queries filters vars).run.run j).2
  | lookup raw vars => ((d.lookup raw vars).run.run j).2
  | tagValues field => ((d.tagValues (.str field)).run.run j).2
  | fields kind => ((d.fields kind).run.run j).2
  | tagKeys => (d.tagKeys.run.run j).2
  | test => (d.test.run.run j).2

/-- A multi-search that is posted: its kind, its path and its payload. -/
structure Posting where
  kind : SearchKind
  path : String
  payload : String

/-- What is posted for a lookup of terms. -/
def Datasource.termsPosting (d : Datasource) (l : Lookup) (vars : Template.Variables) : Posting :=
  ⟨.terms, d.termsPath, resolved vars (termsPayload d.settings l)⟩

/-- What the operation posts: a batch its payload if it has visible queries and they can all be
built, a lookup of terms its one search. -/
def Operation.posting? (d : Datasource) : Operation → Option Posting
  | batch queries filters vars =>
    let visible := visibleQueries queries
    if visible.isEmpty then none
    else (sentText d.settings filters vars visible).toOption.map (⟨.query, multiSearchPath, ·⟩)
  | lookup raw vars =>
    match Lookup.read raw with
    | .ok (some l) =>
      if l.target = .terms then some (d.termsPosting (l.asked vars) vars) else none
    | _ => none
  | tagValues field =>
    (Lookup.ofField (.str field)).toOption.map
      (d.termsPosting · (withTimes [] .default lookupInterval))
  | _ => none

/-- An attempt at a multi-search: its kind, how its exchange ended, and the requests of it. -/
structure Attempt where
  kind : SearchKind
  ending : Outcome (Url × Http.Reply)
  sent : List Http.Request

/-- The events that are counted of an attempt. -/
def Attempt.events (a : Attempt) : List Event :=
  .search a.kind :: (failure? a.ending).toList.map (.failure a.kind)

/-- The attempt to post something, when a journal has come so far. -/
def Connection.attempt (c : Connection) (p : Posting) (j : Journal) : Attempt :=
  let run := (c.exchange "POST" p.path (.lines p.payload)).run.run j.fresh
  ⟨p.kind, run.1, run.2.sent⟩

/-- A journal without a record. -/
def Journal.blank : Journal := ⟨0, [], [], [], [], .empty⟩

namespace Operation

/-- The attempt of the operation at a multi-search, when a journal has come so far. -/
def attempt? (d : Datasource) (j : Journal) (operation : Operation) : Option Attempt :=
  (operation.posting? d).map (d.connection.attempt · j)

/-- The number of visible queries of a batch. -/
def visible : Operation → ℕ
  | batch queries _ _ => (visibleQueries queries).length
  | _ => 0

/-- What is looked for, if a lookup can be read and asks for something. -/
def target? : Operation → Option Lookup.Target
  | lookup raw _ =>
    match Lookup.read raw with
    | .ok (some l) => some l.target
    | _ => none
  | _ => none

/-- Whether the terms of a field are asked for by its name. -/
def isTagValues : Operation → Bool
  | tagValues _ => true
  | _ => false

/-- The events that the operation adds, given its attempt. -/
def counted (attempt : Option Attempt) : Operation → List Event
  | batch queries _ _ =>
    attempt.elim [] fun a => .batch (visibleQueries queries).length :: a.events
  | lookup raw vars =>
    (lookup raw vars).target?.toList.map .lookup ++ attempt.elim [] Attempt.events
  | _ => attempt.elim [] Attempt.events

end Operation

/-! ## What is added to a journal -/

/-- The second journal is the first with more requests and events. -/
structure Journal.Adds (sent : List Http.Request) (counted : List Event) (before after : Journal) :
    Prop where
  sent : after.sent = before.sent ++ sent
  events : after.events = before.events ++ counted

namespace Session

variable {α β : Type} {sent : List Http.Request} {counted : List Event} {j : Journal}

/-- The operation neither sends nor counts. -/
def Silent (x : Session α) : Prop := ∀ j : Journal, j.Adds [] [] (x.run.run j).2

theorem silent_ofOutcome (outcome : Outcome α) : Silent (ofOutcome outcome) := by
  intro j
  rw [run_ofOutcome]
  exact ⟨(List.append_nil _).symm, (List.append_nil _).symm⟩

theorem silent_pure (a : α) : Silent (pure a : Session α) := silent_ofOutcome (.ok a)

theorem silent_note (level : LogLevel) (source text : String) : Silent (note level source text) :=
  fun _ => ⟨(List.append_nil _).symm, (List.append_nil _).symm⟩

theorem adds_bind {x : Session α} {f : α → Session β} (h : j.Adds sent counted (x.run.run j).2)
    (silent : ∀ a, Silent (f a)) : j.Adds sent counted ((x >>= f).run.run j).2 := by
  rcases run : x.run.run j with ⟨outcome, k⟩
  rw [run] at h
  cases outcome with
  | error fault =>
    rw [run_bind_of_error run]
    exact h
  | ok a =>
    rw [run_bind_of_ok run]
    obtain ⟨more, later⟩ := silent a k
    exact ⟨by rw [more, h.sent, List.append_nil], by rw [later, h.events, List.append_nil]⟩

theorem Silent.bind {x : Session α} {f : α → Session β} (h : Silent x)
    (silent : ∀ a, Silent (f a)) : Silent (x >>= f) := fun j => adds_bind (h j) silent

theorem adds_tryCatch {x : Session α} {handle : Fault → Session α}
    (h : j.Adds sent counted (x.run.run j).2) (silent : ∀ fault, Silent (handle fault)) :
    j.Adds sent counted ((tryCatch x handle).run.run j).2 := by
  rcases run : x.run.run j with ⟨outcome, k⟩
  rw [run] at h
  cases outcome with
  | ok a =>
    rw [run_tryCatch_of_ok run]
    exact h
  | error fault =>
    rw [run_tryCatch_of_error run]
    obtain ⟨more, later⟩ := silent fault k
    exact ⟨by rw [more, h.sent, List.append_nil], by rw [later, h.events, List.append_nil]⟩

theorem adds_count {x : Session α} (event : Event)
    (h : ({ j with events := j.events ++ [event] } : Journal).Adds sent counted
      (x.run.run { j with events := j.events ++ [event] }).2) :
    j.Adds sent (event :: counted) ((count event >>= fun _ => x).run.run j).2 := by
  rw [run_bind_of_ok (run_count _ _)]
  exact ⟨h.sent, by rw [h.events, List.append_assoc]; rfl⟩

theorem attempt_of_counted (c : Connection) (p : Posting) (j : Journal) (counted : List Event) :
    c.attempt p { j with events := counted } = c.attempt p j := rfl

theorem adds_multiSearch (c : Connection) (p : Posting) (j : Journal) :
    j.Adds (c.attempt p j).sent (c.attempt p j).events
      ((multiSearch c p.kind p.path p.payload).run.run j).2 := by
  obtain ⟨log, run⟩ := run_multiSearch_eq c p.kind p.path p.payload j
  have alone := (c.blind_exchange "POST" p.path (.lines p.payload)).run_eq j
  rw [run]
  dsimp only
  rw [alone]
  exact ⟨rfl, rfl⟩

/-- A request with GET adds nothing but requests with GET. -/
theorem adds_get (c : Connection) (path : String) (j : Journal) : ∃ sent,
    (∀ r ∈ sent, r.method = "GET") ∧ j.Adds sent [] ((c.send "GET" path .nothing).run.run j).2 := by
  obtain ⟨sends, -⟩ := c.onlySends_exchange "GET" path .nothing j
  obtain ⟨sent, kept, recorded⟩ := sends.sent
  refine ⟨sent, fun r hr => (kept r hr).stays rfl, ?_⟩
  rw [c.send_eq]
  refine adds_bind ⟨recorded, ?_⟩ fun found => silent_ofOutcome _
  rw [sends.events, List.append_nil]

end Session

namespace Datasource

variable (d : Datasource) (j : Journal)

theorem adds_fieldTerms (l : Lookup) (vars : Template.Variables) :
    let a := d.connection.attempt (d.termsPosting l vars) j
    j.Adds a.sent a.events ((d.fieldTerms l vars).run.run j).2 :=
  adds_bind (adds_multiSearch d.connection (d.termsPosting l vars) j) fun _ => silent_ofOutcome _

theorem adds_mappedFields (l : Lookup) : ∃ sent, (∀ r ∈ sent, r.method = "GET") ∧
    j.Adds sent [] ((d.mappedFields l).run.run j).2 := by
  obtain ⟨sent, kept, adds⟩ := adds_get d.connection d.mappingPath j
  refine ⟨sent, kept, adds_bind adds fun answer => (silent_ofOutcome _).bind fun fields =>
    (silent_note _ _ _).bind fun _ => silent_pure _⟩

theorem adds_fields (kind : Json) : ∃ sent, (∀ r ∈ sent, r.method = "GET") ∧
    j.Adds sent [] ((d.fields kind).run.run j).2 := by
  cases given : Lookup.ofKind kind with
  | error fault =>
    rw [Datasource.fields, given, run_bind_of_error (run_ofOutcome _ _)]
    exact ⟨[], by simp, by simp, by simp⟩
  | ok l =>
    rw [Datasource.fields, given, run_bind_of_ok (run_ofOutcome _ _)]
    exact d.adds_mappedFields j l

theorem adds_test : ∃ sent, (∀ r ∈ sent, r.method = "GET") ∧
    j.Adds sent [] (d.test.run.run j).2 := by
  obtain ⟨sent, kept, adds⟩ := adds_get d.connection d.mappingPath j
  have asked : j.Adds sent [] ((discard (d.connection.send "GET" d.mappingPath .nothing) :
      Session PUnit).run.run j).2 := by
    rw [Functor.discard, map_const, Function.comp_apply, map_eq_pure_bind]
    exact adds_bind adds fun _ => silent_pure _
  refine ⟨sent, kept, adds_tryCatch (adds_bind asked fun _ => silent_pure _) fun fault => ?_⟩
  rw [testFailed]
  split_ifs
  · exact (silent_note _ _ _).bind fun _ => silent_pure _
  · exact silent_ofOutcome (.error fault)

end Datasource

/-! ## What an operation adds -/

/-- With an attempt just its requests are sent, and without one only requests with GET. -/
def AreSent (attempt : Option Attempt) (sent : List Http.Request) : Prop :=
  match attempt with
  | some a => sent = a.sent
  | none => ∀ r ∈ sent, r.method = "GET"

theorem ofField_str (field : String) : ∃ l, Lookup.ofField (.str field) = .ok l := ⟨_, rfl⟩

namespace Operation

variable (d : Datasource) (j : Journal)

/-- The operation adds its events to what is counted, and sends the requests of its attempt. -/
def Adds (operation : Operation) : Prop :=
  ∃ sent, AreSent (operation.attempt? d j) sent ∧
    j.Adds sent (operation.counted (operation.attempt? d j)) (operation.run d j)

variable {d j}

theorem adds_of_posting {operation : Operation} {p : Posting}
    (posting : operation.posting? d = some p)
    (h : j.Adds (d.connection.attempt p j).sent
      (operation.counted (some (d.connection.attempt p j))) (operation.run d j)) :
    operation.Adds d j := by
  rw [Adds, attempt?, posting, Option.map_some]
  exact ⟨_, rfl, h⟩

theorem adds_of_none {operation : Operation} (posting : operation.posting? d = none)
    (h : ∃ sent, (∀ r ∈ sent, r.method = "GET") ∧
      j.Adds sent (operation.counted none) (operation.run d j)) : operation.Adds d j := by
  rw [Adds, attempt?, posting, Option.map_none]
  exact h

theorem adds_of_same {operation : Operation} (posting : operation.posting? d = none)
    (uncounted : operation.counted none = []) (same : operation.run d j = j) :
    operation.Adds d j := by
  refine adds_of_none posting ⟨[], by simp, ?_, ?_⟩
  · rw [same, List.append_nil]
  · rw [same, uncounted, List.append_nil]

theorem batch_adds (queries : List PanelQuery) (filters : List AdhocFilter)
    (vars : Template.Variables) : (batch queries filters vars).Adds d j := by
  by_cases any : visibleQueries queries = []
  · refine adds_of_same (by simp [posting?, any]) rfl ?_
    rw [Operation.run, d.runBatch_of_none any]
    rfl
  have shown : (visibleQueries queries).isEmpty = false := by simpa using any
  cases made : payload d.settings filters vars (visibleQueries queries) with
  | error fault =>
    refine adds_of_same ?_ rfl (by rw [Operation.run, d.run_unbuilt any made])
    simp only [posting?, shown, sentText, made]
    rfl
  | ok text =>
    have posting : (batch queries filters vars).posting? d =
        some ⟨.query, multiSearchPath, resolved vars text⟩ := by
      simp only [posting?, shown, sentText, made]
      rfl
    refine adds_of_posting posting ?_
    rw [Operation.run, d.runBatch_eq any made]
    have searched := adds_multiSearch d.connection ⟨.query, multiSearchPath, resolved vars text⟩
      { j with events := j.events ++ [.batch (visibleQueries queries).length] }
    rw [attempt_of_counted] at searched
    exact adds_count _ (adds_bind searched fun _ => silent_ofOutcome _)

theorem tagValues_adds (field : String) : (tagValues field).Adds d j := by
  obtain ⟨l, given⟩ := ofField_str field
  have posting : (tagValues field).posting? d =
      some (d.termsPosting l (withTimes [] .default lookupInterval)) := by
    rw [posting?, given]
    rfl
  refine adds_of_posting posting ?_
  rw [Operation.run, d.tagValues_eq given]
  exact d.adds_fieldTerms j l _

theorem lookup_adds (raw : Json) (vars : Template.Variables) : (lookup raw vars).Adds d j := by
  rcases given : Lookup.read raw with fault | _ | l
  · refine adds_of_same ?_ ?_ ?_
    · rw [posting?, given]
    · rw [counted, target?, given]
      rfl
    · rw [Operation.run, Datasource.lookup, given]
      rfl
  · refine adds_of_same ?_ ?_ ?_
    · rw [posting?, given]
    · rw [counted, target?, given]
      rfl
    · rw [Operation.run, Datasource.lookup, given]
      rfl
  · have target : (lookup raw vars).target? = some l.target := by rw [target?, given]
    cases kind : l.target with
    | terms =>
      have posting : (lookup raw vars).posting? d = some (d.termsPosting (l.asked vars) vars) := by
        simp only [posting?, given, kind, if_true]
      have searched := d.adds_fieldTerms { j with events := j.events ++ [.lookup .terms] }
        (l.asked vars) vars
      rw [attempt_of_counted] at searched
      refine adds_of_posting posting ?_
      rw [Operation.run, d.lookup_of_terms vars given kind, Operation.counted, target, kind]
      exact adds_count _ (adds_bind searched fun _ => silent_pure _)
    | fields =>
      obtain ⟨sent, kept, adds⟩ :=
        d.adds_mappedFields { j with events := j.events ++ [.lookup .fields] } l
      refine adds_of_none (by simp [posting?, given, kind]) ⟨sent, kept, ?_⟩
      rw [Operation.run, d.lookup_of_fields vars given kind, Operation.counted, target, kind]
      exact adds_count _ (adds_bind adds fun _ => silent_pure _)
    | other =>
      refine adds_of_none (by simp [posting?, given, kind]) ⟨[], by simp, ?_⟩
      rw [Operation.run, d.lookup_of_other vars given kind, Operation.counted, target, kind]
      exact adds_count _ (silent_pure _ _)

theorem adds (operation : Operation) : operation.Adds d j := by
  cases operation with
  | batch queries filters vars => exact batch_adds queries filters vars
  | lookup raw vars => exact lookup_adds raw vars
  | tagValues field => exact tagValues_adds field
  | fields kind => exact adds_of_none rfl (d.adds_fields j kind)
  | tagKeys => exact adds_of_none rfl (d.adds_fields j .null)
  | test => exact adds_of_none rfl (d.adds_test j)

end Operation

end ElasticPanels

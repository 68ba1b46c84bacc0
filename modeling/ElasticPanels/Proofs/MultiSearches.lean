import ElasticPanels.Proofs.Exchanges

/-!
# Multi-searches

A multi-search is its exchange with the counting around it (`run_multiSearch_eq`): it is counted
before anything is sent, and once more if it fails, by the reason that the ending of its exchange
gives (`failure?`): the engine has refused the search (`IsRefused`), or the search is lost
(`IsLost`).  What it gives of the final reply is `searched`.
-/

namespace ElasticPanels

/-- Why a multi-search counts as failed, by the ending of its exchange. -/
def failure? : Outcome (Url × Http.Reply) → Option FailureReason
  | .ok (url, reply) =>
    if Http.isSuccess reply.code then none
    else if (Rejection.engineError? ⟨reply.code, url.text, reply.body⟩).isSome then some .engine
    else some .transport
  | .error (.unreachable ..) => some .transport
  | .error _ => none

/-- The fault that a multi-search makes of a reply that is no success. -/
def Rejection.reported (r : Rejection) : Fault :=
  (r.engineError?.map Fault.engine).getD (.rejected r)

/-- What a multi-search gives for the final reply. -/
def searched (found : Url × Http.Reply) : Outcome Json :=
  if Http.isSuccess found.2.code then (Json.readBody found.2.body).mapError Json.ReadError.fault
  else throw (Rejection.reported ⟨found.2.code, found.1.text, found.2.body⟩)

namespace Session

section

variable {α : Type} (kind : SearchKind) (path : String) (j : Journal)

theorem searchFailed_rejected (r : Rejection) : ∃ log,
    (searchFailed kind path (.rejected r) : Session α).run.run j =
      (.error r.reported, { j with
        log
        events := j.events ++
          [.failure kind (if r.engineError?.isSome then .engine else .transport)] }) := by
  rw [Rejection.reported, searchFailed]
  cases r.engineError? with
  | some error => exact ⟨_, rfl⟩
  | none => exact ⟨_, rfl⟩

theorem searchFailed_unanswered {fault : Fault} (h : fault.isUnanswered = true) :
    (searchFailed kind path fault : Session α).run.run j =
      (.error fault, { j with
        events := j.events ++ (failure? (.error fault)).toList.map (.failure kind) }) := by
  cases fault with
  | unreachable failure text => rfl
  | unencodable | badUrl | schemeless | notFiniteOnWire =>
    simp only [failure?, Option.toList_none, List.map_nil, List.append_nil]
    rfl
  | _ => cases h

theorem searchFailed_unreadable (error : Json.ReadError) :
    (searchFailed kind path error.fault : Session α).run.run j = (.error error.fault, j) := by
  cases error <;> rfl

end

/-- An exchange runs the same whatever has been counted before. -/
theorem run_exchange_counted (c : Connection) (method path : String) (content : Http.Content)
    (j : Journal) (counted : List Telemetry.Event) :
    (c.exchange method path content).run.run { j with events := counted } =
      (((c.exchange method path content).run.run j).1,
        { ((c.exchange method path content).run.run j).2 with events := counted }) := by
  have blind := c.blind_exchange method path content
  have silent : ((c.exchange method path content).run.run j.fresh).2.events = [] :=
    (c.onlySends_exchange method path content j.fresh).1.events
  rw [blind.run_eq, blind.run_eq j]
  simp only [Journal.after, Journal.fresh, silent, List.append_nil] at silent ⊢

section

variable {c : Connection} {kind : SearchKind} {path payload : String} {j k : Journal}

/-- The request of a multi-search, once the search is counted. -/
theorem run_send_counted {ending : Outcome (Url × Http.Reply)}
    (ended : (c.exchange "POST" path (.lines payload)).run.run j = (ending, k))
    (counted : List Telemetry.Event) :
    (c.send "POST" path (.lines payload)).run.run { j with events := counted } =
      (ending >>= c.answer "POST" path, { k with events := counted }) := by
  have run : (c.exchange "POST" path (.lines payload)).run.run { j with events := counted } =
      (ending, { k with events := counted }) := by rw [run_exchange_counted, ended]
  rw [c.send_eq]
  cases ending with
  | error fault =>
    rw [run_bind_of_error run]
    rfl
  | ok found =>
    rw [run_bind_of_ok run, run_ofOutcome]
    rfl

theorem run_multiSearch_of_fault {fault : Fault}
    (ended : (c.exchange "POST" path (.lines payload)).run.run j = (.error fault, k)) :
    (multiSearch c kind path payload).run.run j = (.error fault, { k with
      events := j.events ++
        .search kind :: (failure? (.error fault)).toList.map (.failure kind) }) := by
  have unanswered := (c.onlySends_exchange "POST" path (.lines payload) j).2
  rw [ended] at unanswered
  rw [multiSearch, run_bind_of_ok (run_count _ _),
    run_bind_of_error ((run_tryCatch_of_error (run_send_counted ended _)).trans
      (searchFailed_unanswered kind path _ unanswered))]
  simp only [List.append_assoc, List.singleton_append]

theorem run_multiSearch_of_found {url : Url} {reply : Http.Reply}
    (ended : (c.exchange "POST" path (.lines payload)).run.run j = (.ok (url, reply), k)) :
    ∃ log, (multiSearch c kind path payload).run.run j = (searched (url, reply), { k with
      log
      events := j.events ++ .search kind ::
        (failure? (.ok (url, reply))).toList.map (.failure kind) }) := by
  have sent := run_send_counted ended (j.events ++ [.search kind])
  change _ = (c.answer "POST" path (url, reply), _) at sent
  rw [multiSearch, run_bind_of_ok (run_count _ _)]
  rw [Connection.answer] at sent
  cases success : Http.isSuccess reply.code with
  | false =>
    rw [success] at sent
    obtain ⟨log, failed⟩ := searchFailed_rejected (α := Answer) kind path
      { k with events := j.events ++ [.search kind] } ⟨reply.code, url.text, reply.body⟩
    rw [run_bind_of_error ((run_tryCatch_of_error sent).trans failed)]
    refine ⟨log, ?_⟩
    rw [searched, success, failure?]
    simp only [success, List.append_assoc]
    cases (Rejection.engineError? ⟨reply.code, url.text, reply.body⟩).isSome <;> rfl
  | true =>
    rw [success] at sent
    cases read : Json.readBody reply.body with
    | error flaw =>
      rw [read] at sent
      rw [run_bind_of_error ((run_tryCatch_of_error sent).trans
        (searchFailed_unreadable kind path _ flaw))]
      refine ⟨k.log, ?_⟩
      rw [searched, success, read]
      simp only [failure?, success]
      rfl
    | ok value =>
      rw [read] at sent
      rw [run_bind_of_ok (run_tryCatch_of_ok sent)]
      refine ⟨k.log ++ [⟨.info, "orchestrator",
        "POST " ++ path ++ " (" ++ kind.name ++ ") -> " ++ toString reply.code⟩], ?_⟩
      rw [searched, success, read]
      simp only [failure?, success]
      rfl

end

/-- A multi-search is its exchange with the counting around it. -/
theorem run_multiSearch_eq (c : Connection) (kind : SearchKind) (path payload : String)
    (j : Journal) :
    let exchanged := (c.exchange "POST" path (.lines payload)).run.run j
    ∃ log, (multiSearch c kind path payload).run.run j =
      (exchanged.1 >>= searched, { exchanged.2 with
        log
        events := j.events ++
          .search kind :: (failure? exchanged.1).toList.map (.failure kind) }) := by
  rcases ended : (c.exchange "POST" path (.lines payload)).run.run j with ⟨ending, k⟩
  cases ending with
  | error fault => exact ⟨_, run_multiSearch_of_fault ended⟩
  | ok found => exact run_multiSearch_of_found ended

end Session

/-! ## Failed multi-searches -/

/-- The reply is no success, and it says why: its body is an object with an error that is not
empty. -/
def Http.Reply.Refuses (r : Http.Reply) (error : Json) : Prop :=
  Http.isSuccess r.code = false ∧ ∃ fields, Json.readBody r.body = .ok (.obj fields) ∧
    Entries.get? fields "error" = some error ∧ error.truthy = true

/-- The exchange ends in a reply in which the engine refuses the search. -/
def IsRefused (ending : Outcome (Url × Http.Reply)) : Prop :=
  ∃ url reply error, ending = .ok (url, reply) ∧ reply.Refuses error

/-- The exchange ends in any other reply that is no success, or in no reply at all. -/
def IsLost (ending : Outcome (Url × Http.Reply)) : Prop :=
  (∃ url reply, ending = .ok (url, reply) ∧ Http.isSuccess reply.code = false ∧
    ∀ error, ¬ reply.Refuses error) ∨
  ∃ failure text, ending = .error (.unreachable failure text)

theorem engineError?_eq_some_iff {r : Rejection} {error : Json} :
    r.engineError? = some error ↔ ∃ fields, Json.readBody r.body = .ok (.obj fields) ∧
      Entries.get? fields "error" = some error ∧ error.truthy = true := by
  rw [Rejection.engineError?]
  split
  · rename_i fields read
    rw [Option.filter_eq_some_iff]
    constructor
    · rintro ⟨found, truthy⟩
      exact ⟨fields, read, found, truthy⟩
    · rintro ⟨others, again, found, truthy⟩
      rw [read] at again
      cases again
      exact ⟨found, truthy⟩
  · rename_i other
    constructor
    · rintro ⟨⟩
    · rintro ⟨fields, read, -⟩
      exact absurd read (other fields)

theorem Http.Reply.refuses_iff (url : String) {reply : Http.Reply} {error : Json} :
    reply.Refuses error ↔ Http.isSuccess reply.code = false ∧
      Rejection.engineError? ⟨reply.code, url, reply.body⟩ = some error := by
  rw [engineError?_eq_some_iff, Refuses]

theorem failure?_eq_engine {ending : Outcome (Url × Http.Reply)} :
    failure? ending = some .engine ↔ IsRefused ending := by
  cases ending with
  | error fault => cases fault <;> simp [failure?, IsRefused]
  | ok found =>
    obtain ⟨url, reply⟩ := found
    have refused : IsRefused (.ok (url, reply)) ↔ ∃ error, reply.Refuses error := by
      simp [IsRefused]
    simp only [refused, reply.refuses_iff url.text, failure?]
    cases Http.isSuccess reply.code <;>
      cases Rejection.engineError? ⟨reply.code, url.text, reply.body⟩ <;> simp

theorem failure?_eq_transport {ending : Outcome (Url × Http.Reply)} :
    failure? ending = some .transport ↔ IsLost ending := by
  cases ending with
  | error fault => cases fault <;> simp [failure?, IsLost]
  | ok found =>
    obtain ⟨url, reply⟩ := found
    have lost : IsLost (.ok (url, reply)) ↔
        Http.isSuccess reply.code = false ∧ ∀ error, ¬ reply.Refuses error := by
      simp [IsLost]
    simp only [lost, reply.refuses_iff url.text, failure?]
    cases Http.isSuccess reply.code <;>
      cases Rejection.engineError? ⟨reply.code, url.text, reply.body⟩ <;> simp

instance : DecidablePred IsRefused := fun _ => decidable_of_iff _ failure?_eq_engine

instance : DecidablePred IsLost := fun _ => decidable_of_iff _ failure?_eq_transport

end ElasticPanels

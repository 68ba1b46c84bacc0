import ElasticPanels.Session.MultiSearch

/-!
# Runs of operations

A run of an operation goes from one journal to the next.  Operations that succeed are run one after
the other (`run_bind_of_ok`), and a fault ends the run (`run_bind_of_error`).  A request to an
address with a scheme that meets a success needs nothing else of the session, as long as no reply
has set a cookie (`run_multiSearch`).
-/

namespace ElasticPanels

namespace Session

section Steps

variable {α β : Type} {before after : Journal}

theorem run_bind_of_ok {x : Session α} {f : α → Session β} {a : α}
    (h : x.run.run before = (.ok a, after)) : (x >>= f).run.run before = (f a).run.run after := by
  rw [ExceptT.run_bind, StateT.run_bind, h]
  rfl

theorem run_bind_of_error {x : Session α} {f : α → Session β} {fault : Fault}
    (h : x.run.run before = (.error fault, after)) :
    (x >>= f).run.run before = (.error fault, after) := by
  rw [ExceptT.run_bind, StateT.run_bind, h]
  rfl

theorem run_tryCatch_of_ok {x : Session α} {handle : Fault → Session α} {a : α}
    (h : x.run.run before = (.ok a, after)) :
    (tryCatch x handle).run.run before = (.ok a, after) := by
  rw [ExceptT.run_tryCatch, StateT.run_bind, h]
  rfl

theorem run_tryCatch_of_error {x : Session α} {handle : Fault → Session α} {fault : Fault}
    (h : x.run.run before = (.error fault, after)) :
    (tryCatch x handle).run.run before = (handle fault).run.run after := by
  rw [ExceptT.run_tryCatch, StateT.run_bind, h]
  rfl

theorem run_ofOutcome (outcome : Outcome α) (j : Journal) :
    (ofOutcome outcome).run.run j = (outcome, j) := by
  cases outcome <;> rfl

theorem run_count (event : Telemetry.Event) (j : Journal) :
    (count event).run.run j = (.ok (), { j with events := j.events ++ [event] }) := rfl

end Steps

end Session

/-! ## Requests that succeed -/

/-- The connection can ask for the resource, at an address with a scheme. -/
def Connection.Reaches (c : Connection) (path : String) (url : Url) : Prop :=
  c.target path = .ok url ∧ Text.Encoding.ascii.require url.netloc = .ok () ∧
    url.scheme.isEmpty = false

namespace Session

variable {c : Connection} {path text body : String} {url : Url} {j : Journal}
  {rest : List Reaction}

theorem run_jarHeader (clean : j.jar.isEmpty = true) :
    (jarHeader? url).run.run j = (.ok none, j) := by
  have read : (get : Session Journal).run.run j = (.ok j, j) := rfl
  rw [jarHeader?, run_bind_of_ok read, if_pos clean]
  rfl

theorem mapError_target (target : c.target path = .ok url) :
    (c.target path).mapError Url.Flaw.fault = .ok url := by
  rw [target]
  rfl

theorem run_prepare (reaches : c.Reaches path url)
    (sendable : Text.Encoding.utf8.require text = .ok ()) (clean : j.jar.isEmpty = true) :
    ∃ request : Http.Request, request.url = url ∧
      (prepare c "POST" path (.lines text)).run.run j = (.ok request, j) := by
  obtain ⟨target, host, -⟩ := reaches
  simp only [prepare, sendable, mapError_target target, host, Connection.encoded, ofOutcome,
    pure_bind]
  rw [run_bind_of_ok (run_jarHeader clean)]
  exact ⟨_, rfl, rfl⟩

theorem run_prepare_nothing (method : String) (reaches : c.Reaches path url)
    (clean : j.jar.isEmpty = true) :
    ∃ request : Http.Request, request.url = url ∧
      (prepare c method path .nothing).run.run j = (.ok request, j) := by
  obtain ⟨target, host, -⟩ := reaches
  simp only [prepare, mapError_target target, host, Connection.encoded, ofOutcome, pure_bind]
  rw [run_bind_of_ok (run_jarHeader clean)]
  exact ⟨_, rfl, rfl⟩

theorem run_transmit (request : Http.Request) (next : j.pending = .reply ⟨200, [], body⟩ :: rest) :
    (transmit request).run.run j =
      (.ok ⟨200, [], body⟩, { j with pending := rest, sent := j.sent ++ [request] }) := by
  cases j
  subst next
  rfl

theorem run_follow {request : Http.Request} (scheme : request.url.scheme.isEmpty = false)
    (next : j.pending = .reply ⟨200, [], body⟩ :: rest) (hops : Nat) :
    ∃ after, (follow (hops + 1) request).run.run j =
      (.ok (request.url, ⟨200, [], body⟩), after) := by
  rw [follow, run_bind_of_ok (run_transmit request next)]
  simp only [scheme, Bool.false_eq_true, if_false]
  exact ⟨_, rfl⟩

/-- A multi-search gives the value in its reply, if that is a success. -/
theorem run_multiSearch (kind : SearchKind) (reaches : c.Reaches path url)
    (sendable : Text.Encoding.utf8.require text = .ok ()) (clean : j.jar.isEmpty = true)
    (next : j.pending = .reply ⟨200, [], body⟩ :: rest) {value : Json}
    (read : Json.readBody body = .ok value) :
    ∃ after, (multiSearch c kind path text).run.run j = (.ok value, after) := by
  let counted : Journal := { j with events := j.events ++ [.search kind] }
  have pending : counted.pending = .reply ⟨200, [], body⟩ :: rest := next
  obtain ⟨request, rfl, prepared⟩ : ∃ request : Http.Request, request.url = url ∧
      (prepare c "POST" path (.lines text)).run.run counted = (.ok request, counted) :=
    run_prepare reaches sendable clean
  obtain ⟨after, followed⟩ : ∃ after, (follow hopLimit request).run.run counted =
      (.ok (request.url, ⟨200, [], body⟩), after) := run_follow reaches.2.2 pending 20
  have sent : (c.send "POST" path (.lines text)).run.run counted =
      (.ok ⟨200, value, "POST", c.address path⟩, after) := by
    rw [Connection.send, run_bind_of_ok prepared, run_bind_of_ok followed]
    simp only [read]
    rfl
  rw [multiSearch, run_bind_of_ok (run_count _ _), run_bind_of_ok (run_tryCatch_of_ok sent)]
  exact ⟨_, rfl⟩

end Session

end ElasticPanels

import ElasticPanels.Proofs.Redirections

/-!
# Runs of composed operations

An operation of the service is composed of outcomes, of entries in the record, and of exchanges with
the server (`Session.Composed`).  From this alone it follows that no operation looks at the record
(`Composed.blind`), that the time makes no difference where no reply sets a cookie
(`Composed.timeless`), that the jar makes none to an operation that has its own
(`Composed.ignores_jar`), and what the first request is like (`Composed.opens`).
-/

namespace ElasticPanels

open Session

/-! ## Composed operations -/

namespace Session

variable {α β : Type}

/-- The operation is composed of outcomes, entries in the record, and exchanges with the resources
that `asks` allows.  Only an operation that shares the jar of the session has exchanges that are not
run `apart`. -/
inductive Composed (asks : Connection → String → Prop) : Bool → {α : Type} → Session α → Prop
  | ofOutcome {shares : Bool} {α : Type} (outcome : Outcome α) :
    Composed asks shares (ofOutcome outcome)
  | count {shares : Bool} (event : Telemetry.Event) : Composed asks shares (count event)
  | note {shares : Bool} (level : LogLevel) (source text : String) :
    Composed asks shares (note level source text)
  | exchange {c : Connection} {path : String} (asked : asks c path) (method : String)
    (content : Http.Content) : Composed asks true (c.exchange method path content)
  | bind {shares : Bool} {α β : Type} {x : Session α} {f : α → Session β}
    (hx : Composed asks shares x) (hf : ∀ a, Composed asks shares (f a)) :
    Composed asks shares (x >>= f)
  | tryCatch {shares : Bool} {α : Type} {x : Session α} {handle : Fault → Session α}
    (hx : Composed asks shares x) (hh : ∀ fault, Composed asks shares (handle fault)) :
    Composed asks shares (tryCatch x handle)
  | apart {shares : Bool} {α : Type} {x : Session α} (hx : Composed asks true x) :
    Composed asks shares (apart x)

variable {asks : Connection → String → Prop} {shares : Bool} {x : Session α}

theorem composed_pure (a : α) : Composed asks shares (pure a : Session α) := .ofOutcome (.ok a)

theorem composed_throw (fault : Fault) : Composed asks shares (throw fault : Session α) :=
  .ofOutcome (.error fault)

theorem Composed.map (hx : Composed asks shares x) (f : α → β) :
    Composed asks shares (f <$> x) := by
  rw [map_eq_pure_bind]
  exact .bind hx fun a => composed_pure (f a)

theorem run_note (level : LogLevel) (source text : String) (j : Journal) :
    (note level source text).run.run j =
      (.ok (), { j with log := j.log ++ [⟨level, source, text⟩] }) := rfl

theorem run_apart (x : Session α) (j : Journal) : (apart x).run.run j =
    ((x.run.run { j with jar := .empty }).1,
      { (x.run.run { j with jar := .empty }).2 with jar := j.jar }) := rfl

end Session

/-! ## The record -/

namespace Session

variable {α : Type} {asks : Connection → String → Prop} {shares : Bool} {x : Session α}

/-- An operation with a jar of its own ignores an update that leaves jars alone, if the operation
itself does. -/
theorem Ignores.apart {S inside : Journal → Prop} {update : Journal → Journal}
    (hx : Ignores inside update x)
    (alone : ∀ (j : Journal) (jar : Http.CookieJar),
      update { j with jar } = { update j with jar })
    (keeps : ∀ j, (update j).jar = j.jar)
    (enters : ∀ j, S j → inside { j with jar := .empty })
    (leaves : ∀ j k, S j → inside k → S { k with jar := j.jar }) :
    Ignores S update (apart x) := by
  intro j h
  obtain ⟨later, stays⟩ := hx { j with jar := .empty } (enters j h)
  rw [alone] at later
  rw [run_apart, run_apart, later, keeps]
  exact ⟨Prod.ext rfl (alone _ _).symm, leaves j _ h stays⟩

/-- A composed operation does not look at the record. -/
theorem Composed.blind (h : Composed asks shares x) : Blind x := by
  intro past
  induction h with
  | ofOutcome outcome => exact ignores_ofOutcome outcome
  | count event =>
    refine fun j _ => ⟨?_, trivial⟩
    rw [run_count, run_count]
    simp [Journal.after]
  | note level source text =>
    refine fun j _ => ⟨?_, trivial⟩
    rw [run_note, run_note]
    simp [Journal.after]
  | exchange _ method content => exact Connection.blind_exchange _ _ _ _ past
  | bind _ _ hx hf => exact hx.bind hf
  | tryCatch _ _ hx hh => exact hx.tryCatch hh
  | apart _ hx =>
    exact hx.apart (fun _ _ => rfl) (fun _ => rfl) (fun _ _ => trivial) fun _ _ _ _ => trivial

end Session

/-! ## The time -/

namespace Reaction

/-- The reaction is no reply that sets a cookie. -/
def SetsNoCookie : Reaction → Prop
  | reply r => r.values "set-cookie" = []
  | failure .. => True

theorem SetsNoCookie.values {reaction : Reaction} {reply : Http.Reply}
    (h : reaction.SetsNoCookie) (received : reaction.received = .ok reply) :
    reply.values "set-cookie" = [] := by
  cases reaction with
  | failure kind text => cases received
  | reply given =>
    rw [Http.Reply.values, (Http.Reply.received_eq_ok received).2]
    exact h

end Reaction

theorem Http.CookieJar.receive_of_none (now : ℤ) (jar : CookieJar) (url : Url) {reply : Reply}
    (none : reply.values "set-cookie" = []) : jar.receive now url reply = jar := by
  rw [receive, none]
  rfl

namespace Journal

/-- The journal at another time. -/
def timed (now : ℤ) (j : Journal) : Journal := { j with now }

/-- The journal has the jar, and no reaction to come sets a cookie. -/
structure Settled (jar : Http.CookieJar) (j : Journal) : Prop where
  jar : j.jar = jar
  quiet : ∀ reaction ∈ j.pending, reaction.SetsNoCookie

theorem Settled.silence {jar : Http.CookieJar} {j : Journal} (h : j.Settled jar) :
    (j.pending.headD silence).SetsNoCookie := by
  cases next : j.pending with
  | nil => trivial
  | cons reaction rest => exact h.quiet reaction (by simp [next])

end Journal

namespace Session

variable {α : Type} {asks : Connection → String → Prop} {shares : Bool} {x : Session α}

theorem ignoresSteps_timed (now : ℤ) (jar : Http.CookieJar) :
    IgnoresSteps (Journal.Settled jar) (Journal.timed now) where
  transmit request j h := by
    rw [run_transmit_eq, run_transmit_eq]
    exact ⟨rfl, h.jar, fun reaction mem => h.quiet reaction (List.mem_of_mem_drop mem)⟩
  jarHeader? url j h := by
    rw [run_jarHeader?_eq, run_jarHeader?_eq]
    exact ⟨rfl, h⟩
  receive request j reply h received := by
    have given : (j.pending.headD silence).received = .ok reply := by
      rwa [run_transmit_eq] at received
    have quiet := h.silence.values given
    have taken (k : Journal) : (modify fun j =>
        { j with jar := j.jar.receive j.now request.url reply } : Session PUnit).run.run k =
          (.ok PUnit.unit, k) := by
      have run : (modify fun j =>
          { j with jar := j.jar.receive j.now request.url reply } : Session PUnit).run.run k =
            (.ok PUnit.unit, { k with jar := k.jar.receive k.now request.url reply }) := rfl
      rw [run, Http.CookieJar.receive_of_none _ _ _ quiet]
    intro k hk
    rw [taken, taken]
    exact ⟨rfl, hk⟩

/-- Where no reply sets a cookie, the time makes no difference, and the jar stays as it is. -/
theorem Composed.timeless (h : Composed asks shares x) (now : ℤ) (jar : Http.CookieJar) :
    Ignores (Journal.Settled jar) (Journal.timed now) x := by
  -- An operation that is run apart meets an empty jar, so the induction is over any jar.
  induction h generalizing jar with
  | ofOutcome outcome => exact ignores_ofOutcome outcome
  | count event => exact fun j h => ⟨rfl, h.jar, h.quiet⟩
  | note level source text => exact fun j h => ⟨rfl, h.jar, h.quiet⟩
  | exchange _ method content =>
    exact Connection.ignores_exchange (ignoresSteps_timed now jar) _ _ _ _
  | bind _ _ hx hf => exact (hx jar).bind fun a => hf a jar
  | tryCatch _ _ hx hh => exact (hx jar).tryCatch fun fault => hh fault jar
  | apart _ hx =>
    exact (hx .empty).apart (fun _ _ => rfl) (fun _ => rfl) (fun j h => ⟨rfl, h.quiet⟩)
      fun j k h inside => ⟨h.jar, inside.quiet⟩

/-- Where no reply sets a cookie, a run depends on the reactions to come and on the jar alone. -/
theorem Composed.run_of_quiet (h : Composed asks shares x) {i j : Journal}
    (pending : i.pending = j.pending) (jar : i.jar = j.jar)
    (quiet : ∀ reaction ∈ j.pending, reaction.SetsNoCookie) :
    (x.run.run i).1 = (x.run.run j.fresh).1 ∧
      (x.run.run i).2.sent = i.sent ++ (x.run.run j.fresh).2.sent ∧
      (x.run.run i).2.events = i.events ++ (x.run.run j.fresh).2.events ∧
      (x.run.run i).2.jar = j.jar := by
  have same : i.fresh = j.fresh.timed i.now := by
    simp [Journal.fresh, Journal.timed, pending, jar]
  have settled : j.fresh.Settled j.jar := ⟨rfl, quiet⟩
  obtain ⟨run, stays⟩ := h.timeless i.now j.jar j.fresh settled
  rw [h.blind.run_eq i, same, run]
  exact ⟨rfl, rfl, rfl, stays.jar⟩

/-! ## The jar -/

/-- The jar of the session makes no difference to an operation that does not share it. -/
theorem Composed.ignores_jar (h : Composed asks false x) (jar : Http.CookieJar) :
    Ignores (fun _ => True) (fun j => { j with jar }) x := by
  generalize own : false = shares at h
  induction h with
  | ofOutcome outcome => exact ignores_ofOutcome outcome
  | count event => exact fun j _ => ⟨rfl, trivial⟩
  | note level source text => exact fun j _ => ⟨rfl, trivial⟩
  | exchange => cases own
  | bind _ _ hx hf => exact (hx own).bind fun a => hf a own
  | tryCatch _ _ hx hh => exact (hx own).tryCatch fun fault => hh fault own
  | apart => exact fun j _ => ⟨rfl, trivial⟩

end Session

/-! ## The first request -/

namespace Session

variable {α : Type} {asks : Connection → String → Prop} {shares : Bool} {x : Session α}

/-- The operation sends nothing, or requests of which the first is one of `P`. -/
def Opens (P : Http.Request → Prop) (x : Session α) : Prop :=
  ∀ j : Journal, ∃ new, (x.run.run j).2.sent = j.sent ++ new ∧ ∀ request ∈ new.head?, P request

variable {β : Type} {P : Http.Request → Prop}

theorem opens_of_unsent (unsent : ∀ j : Journal, (x.run.run j).2.sent = j.sent) : Opens P x :=
  fun j => ⟨[], by rw [unsent, List.append_nil], by simp⟩

theorem opens_append {new more : List Http.Request} (hn : ∀ request ∈ new.head?, P request)
    (hm : ∀ request ∈ more.head?, P request) : ∀ request ∈ (new ++ more).head?, P request := by
  cases new with
  | nil => exact hm
  | cons request rest => exact hn

theorem Opens.bind {f : α → Session β} (hx : Opens P x) (hf : ∀ a, Opens P (f a)) :
    Opens P (x >>= f) := by
  intro j
  obtain ⟨new, sent, first⟩ := hx j
  rcases run : x.run.run j with ⟨outcome, k⟩
  rw [run] at sent
  cases outcome with
  | error fault =>
    rw [run_bind_of_error run]
    exact ⟨new, sent, first⟩
  | ok a =>
    obtain ⟨more, later, next⟩ := hf a k
    rw [run_bind_of_ok run]
    exact ⟨new ++ more, by rw [later, sent, List.append_assoc], opens_append first next⟩

theorem Opens.tryCatch {handle : Fault → Session α} (hx : Opens P x)
    (hh : ∀ fault, Opens P (handle fault)) : Opens P (tryCatch x handle) := by
  intro j
  obtain ⟨new, sent, first⟩ := hx j
  rcases run : x.run.run j with ⟨outcome, k⟩
  rw [run] at sent
  cases outcome with
  | error fault =>
    obtain ⟨more, later, next⟩ := hh fault k
    rw [run_tryCatch_of_error run]
    exact ⟨new ++ more, by rw [later, sent, List.append_assoc], opens_append first next⟩
  | ok a =>
    rw [run_tryCatch_of_ok run]
    exact ⟨new, sent, first⟩

/-- An exchange begins with the request that its connection prepares. -/
theorem opens_exchange (c : Connection) (method path : String) (content : Http.Content) :
    Opens (·.IsPrepared c method path) (c.exchange method path content) := by
  intro j
  obtain ⟨sends, ending⟩ := onlySends_prepare (fun _ => False) c method path content j
  obtain ⟨new, none, sent⟩ := sends.sent
  obtain rfl : new = [] := List.eq_nil_iff_forall_not_mem.2 none
  rw [List.append_nil] at sent
  rcases run : (prepare c method path content).run.run j with ⟨outcome, k⟩
  rw [run] at sent ending
  rw [Connection.exchange]
  cases outcome with
  | error fault =>
    rw [run_bind_of_error run]
    exact ⟨[], by rw [sent, List.append_nil], by simp⟩
  | ok request =>
    obtain ⟨more, later, -⟩ := sent_follow 20 request k
    rw [run_bind_of_ok run]
    refine ⟨request :: more, by rw [← sent]; exact later, ?_⟩
    rintro first ⟨⟩
    exact ending

/-- The first request of a composed operation is one for a resource that it may ask for. -/
theorem Composed.opens (h : Composed asks shares x) :
    Opens (fun request => ∃ c method path, asks c path ∧ request.IsPrepared c method path) x := by
  induction h with
  | ofOutcome outcome => exact opens_of_unsent fun j => by rw [run_ofOutcome]
  | count event => exact opens_of_unsent fun _ => rfl
  | note level source text => exact opens_of_unsent fun _ => rfl
  | exchange asked method content =>
    intro j
    obtain ⟨new, sent, first⟩ := opens_exchange _ method _ content j
    exact ⟨new, sent, fun request mem => ⟨_, _, _, asked, first request mem⟩⟩
  | bind _ _ hx hf => exact hx.bind hf
  | tryCatch _ _ hx hh => exact hx.tryCatch hh
  | apart _ hx => exact fun j => hx { j with jar := .empty }

end Session

end ElasticPanels

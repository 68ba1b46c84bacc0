import ElasticPanels.Proofs.Addresses
import ElasticPanels.Proofs.Runs

/-!
# Exchanges with the server

Every request of an operation is an exchange (`Connection.exchange`): it goes out, redirections are
followed, and a final reply comes back or the exchange ends in a fault.  An exchange neither counts
nor notes anything, asks addresses in ASCII only, and its faults are those of a request without an
answer (`Connection.onlySends_exchange`).  An update of the journal that makes no difference to its
steps makes none to the exchange (`Connection.ignores_exchange`); so it does not look at what was
recorded before it (`Session.Blind`).
-/

namespace ElasticPanels

/-! ## Records -/

namespace Journal

/-- The journal without what is recorded in it. -/
def fresh (j : Journal) : Journal := { j with sent := [], log := [], events := [] }

/-- The journal with the record of an earlier one before its own. -/
def after (j past : Journal) : Journal :=
  { j with
    sent := past.sent ++ j.sent
    log := past.log ++ j.log
    events := past.events ++ j.events }

theorem fresh_after (j : Journal) : j.fresh.after j = j := by
  simp [fresh, after]

end Journal

namespace Session

variable {α β : Type}

/-- As long as the journal is one of `S`, which it stays, updating it makes no difference to the
operation but for the same update of what it leaves. -/
def Ignores (S : Journal → Prop) (update : Journal → Journal) (x : Session α) : Prop :=
  ∀ j, S j → x.run.run (update j) = ((x.run.run j).1, update (x.run.run j).2) ∧ S (x.run.run j).2

section

variable {S : Journal → Prop} {update : Journal → Journal} {x : Session α} {f : α → Session β}

theorem ignores_ofOutcome (outcome : Outcome α) : Ignores S update (ofOutcome outcome) := by
  intro j h
  rw [run_ofOutcome, run_ofOutcome]
  exact ⟨rfl, h⟩

theorem ignores_pure (a : α) : Ignores S update (pure a : Session α) := ignores_ofOutcome (.ok a)

theorem ignores_throw (fault : Fault) : Ignores S update (throw fault : Session α) :=
  ignores_ofOutcome (.error fault)

theorem Ignores.bind_of_ok (hx : Ignores S update x)
    (hf : ∀ j a, S j → (x.run.run j).1 = .ok a → Ignores S update (f a)) :
    Ignores S update (x >>= f) := by
  intro j h
  obtain ⟨later, kept⟩ := hx j h
  have given := hf j
  rcases run : x.run.run j with ⟨outcome, k⟩
  rw [run] at later kept given
  cases outcome with
  | error fault =>
    rw [run_bind_of_error later, run_bind_of_error run]
    exact ⟨rfl, kept⟩
  | ok a =>
    rw [run_bind_of_ok later, run_bind_of_ok run]
    exact given a h rfl k kept

theorem Ignores.bind (hx : Ignores S update x) (hf : ∀ a, Ignores S update (f a)) :
    Ignores S update (x >>= f) := hx.bind_of_ok fun _ a _ _ => hf a

theorem Ignores.tryCatch {handle : Fault → Session α} (hx : Ignores S update x)
    (hh : ∀ fault, Ignores S update (handle fault)) :
    Ignores S update (tryCatch x handle) := by
  intro j h
  obtain ⟨later, kept⟩ := hx j h
  rcases run : x.run.run j with ⟨outcome, k⟩
  rw [run] at later kept
  cases outcome with
  | error fault =>
    rw [run_tryCatch_of_error later, run_tryCatch_of_error run]
    exact hh fault k kept
  | ok a =>
    rw [run_tryCatch_of_ok later, run_tryCatch_of_ok run]
    exact ⟨rfl, kept⟩

end

/-- What was recorded before the operation makes no difference to it. -/
def Blind (x : Session α) : Prop :=
  ∀ past : Journal, Ignores (fun _ => True) (·.after past) x

theorem Blind.run_eq {x : Session α} (h : Blind x) (j : Journal) :
    x.run.run j = ((x.run.run j.fresh).1, (x.run.run j.fresh).2.after j) := by
  have alone : x.run.run (j.fresh.after j) = _ := (h j j.fresh trivial).1
  rwa [Journal.fresh_after] at alone

end Session

/-! ## Exchanges -/

namespace Session

variable {α β : Type}

theorem ofOutcome_bind (outcome : Outcome α) (f : α → Outcome β) :
    ofOutcome (outcome >>= f) = ofOutcome outcome >>= fun a => ofOutcome (f a) := by
  cases outcome <;> rfl

theorem run_transmit_eq (request : Http.Request) (j : Journal) :
    (transmit request).run.run j = ((j.pending.headD silence).received,
      { j with pending := j.pending.drop 1, sent := j.sent ++ [request] }) := by
  have read : (get : Session Journal).run.run j = (.ok j, j) := rfl
  have write (k : Journal) : (set k : Session PUnit).run.run j = (.ok PUnit.unit, k) := rfl
  rw [transmit, run_bind_of_ok read, run_bind_of_ok (write _), run_ofOutcome]

theorem run_jarHeader?_eq (url : Url) (j : Journal) : (jarHeader? url).run.run j =
    (if j.jar.isEmpty then .ok none
      else if url.scheme.isEmpty then .error (.schemeless url.text)
      else .ok (j.jar.header? url), j) := by
  have read : (get : Session Journal).run.run j = (.ok j, j) := rfl
  rw [jarHeader?, run_bind_of_ok read]
  dsimp only
  cases j.jar.isEmpty <;> cases url.scheme.isEmpty <;> rfl

/-- An update makes no difference to what an exchange asks of the journal: to taking the next
reaction, to looking into the jar, and to taking up the cookies of a reply. -/
structure IgnoresSteps (S : Journal → Prop) (update : Journal → Journal) : Prop where
  transmit : ∀ request, Ignores S update (transmit request)
  jarHeader? : ∀ url, Ignores S update (jarHeader? url)
  receive : ∀ (request : Http.Request) (j : Journal) (reply : Http.Reply), S j →
    ((Session.transmit request).run.run j).1 = .ok reply → Ignores S update (modify fun j =>
      { j with jar := j.jar.receive j.now request.url reply } : Session PUnit)

/-- Where a reply sends the sender. -/
def redirection? (reply : Http.Reply) : Option String :=
  if Http.isRedirect reply.code then reply.header? "location" else none

/-- What comes after a reply: its cookies are taken up, and if it leads to another request, that is
made. -/
def arrive (request : Http.Request) (reply : Http.Reply) :
    Session (Http.Reply × Option Http.Request) := do
  ofOutcome (if request.url.scheme.isEmpty then .error (.schemeless request.url.text) else .ok ())
  modify fun j => { j with jar := j.jar.receive j.now request.url reply }
  match redirection? reply with
  | some location => do
    let url ← locate request.url location
    let cookie ← jarHeader? url
    return (reply, some (Http.redirected request reply.code url cookie))
  | none => return (reply, none)

/-- One hop: the reply, and the request that it leads to, if it does. -/
def hop (request : Http.Request) : Session (Http.Reply × Option Http.Request) := do
  arrive request (← transmit request)

theorem follow_succ (hops : ℕ) (request : Http.Request) : follow (hops + 1) request = (do
    match ← hop request with
    | (_, some next) => follow hops next
    | (reply, none) => return (request.url, reply)) := by
  rw [follow, hop, bind_assoc]
  congr 1
  funext reply
  rw [arrive]
  cases request.url.scheme.isEmpty
  · simp only [ofOutcome, Bool.false_eq_true, if_false, pure_bind, bind_assoc]
    congr 1
    funext _
    rw [← redirection?]
    cases redirection? reply <;> simp
  · rfl

/-- Lines are looked at before anything else of a request is. -/
def checkLines : Http.Content → Outcome Unit
  | .lines text => Text.Encoding.utf8.require text
  | _ => .ok ()

/-- The request for a resource with the given content type and body. -/
def addressed (c : Connection) (method path : String) (encoded : Outcome (Option String × String)) :
    Session Http.Request := do
  let url ← ofOutcome ((c.target path).mapError Url.Flaw.fault)
  let jarCookies ← jarHeader? url
  let (contentType, body) ← ofOutcome encoded
  ofOutcome (Text.Encoding.ascii.require url.netloc)
  return {
    method := Text.upper method
    url
    contentType
    authorization := c.authorization url
    cookie := c.cookieHeader?.orElse fun _ => jarCookies
    body }

theorem prepare_eq (c : Connection) (method path : String) (content : Http.Content) :
    prepare c method path content = (do
      ofOutcome (checkLines content)
      addressed c method path (Connection.encoded content)) := by
  unfold prepare addressed
  cases content with
  | lines text => rfl
  | nothing | json => simp only [checkLines, ofOutcome, pure_bind]

section

variable {S : Journal → Prop} {update : Journal → Journal} (steps : IgnoresSteps S update)
include steps

theorem ignores_prepare (c : Connection) (method path : String) (content : Http.Content) :
    Ignores S update (prepare c method path content) := by
  rw [prepare_eq]
  exact (ignores_ofOutcome _).bind fun _ => (ignores_ofOutcome _).bind fun url =>
    (steps.jarHeader? url).bind fun _ => (ignores_ofOutcome _).bind fun _ =>
      (ignores_ofOutcome _).bind fun _ => ignores_pure _

omit steps in
theorem ignores_locate (origin : Url) (location : String) :
    Ignores S update (locate origin location) := by
  rw [locate]
  split
  · exact ignores_ofOutcome _
  · exact ignores_throw _

omit steps in
theorem ignores_arrive {request : Http.Request} {reply : Http.Reply}
    (jarHeader : ∀ url, Ignores S update (jarHeader? url))
    (receive : Ignores S update (modify fun j =>
      { j with jar := j.jar.receive j.now request.url reply } : Session PUnit)) :
    Ignores S update (arrive request reply) := by
  refine (ignores_ofOutcome _).bind fun _ => receive.bind fun _ => ?_
  split
  · exact (ignores_locate _ _).bind fun url => (jarHeader url).bind fun _ => ignores_pure _
  · exact ignores_pure _

theorem ignores_hop (request : Http.Request) : Ignores S update (hop request) :=
  (steps.transmit request).bind_of_ok fun j reply h received =>
    ignores_arrive steps.jarHeader? (steps.receive request j reply h received)

theorem ignores_follow (hops : ℕ) (request : Http.Request) :
    Ignores S update (follow hops request) := by
  induction hops generalizing request with
  | zero => exact ignores_throw _
  | succ hops ih =>
    rw [follow_succ]
    refine (ignores_hop steps request).bind fun found => ?_
    split
    · exact ih _
    · exact ignores_pure _

end

end Session

/-- The exchange for a resource: the address that the final reply comes from, and the reply. -/
def Connection.exchange (c : Connection) (method path : String) (content : Http.Content) :
    Session (Url × Http.Reply) := do
  Session.follow Session.hopLimit (← Session.prepare c method path content)

theorem Connection.ignores_exchange {S : Journal → Prop} {update : Journal → Journal}
    (steps : Session.IgnoresSteps S update) (c : Connection) (method path : String)
    (content : Http.Content) : Session.Ignores S update (c.exchange method path content) :=
  (Session.ignores_prepare steps c method path content).bind fun _ =>
    Session.ignores_follow steps _ _

theorem Session.ignoresSteps_after (past : Journal) :
    IgnoresSteps (fun _ => True) (·.after past) where
  transmit request j _ := by
    rw [run_transmit_eq, run_transmit_eq]
    simp [Journal.after]
  jarHeader? url j _ := by
    rw [run_jarHeader?_eq, run_jarHeader?_eq]
    exact ⟨rfl, trivial⟩
  receive _ _ _ _ _ := fun _ _ => ⟨rfl, trivial⟩

theorem Connection.blind_exchange (c : Connection) (method path : String)
    (content : Http.Content) : Session.Blind (c.exchange method path content) :=
  fun past => c.ignores_exchange (Session.ignoresSteps_after past) method path content

/-- What a final reply says: its value, if it is a success. -/
def Connection.answer (c : Connection) (method path : String) (found : Url × Http.Reply) :
    Outcome Answer :=
  if Http.isSuccess found.2.code then do
    let data ← (Json.readBody found.2.body).mapError Json.ReadError.fault
    return ⟨found.2.code, data, method, c.address path⟩
  else throw (.rejected ⟨found.2.code, found.1.text, found.2.body⟩)

theorem Connection.send_eq (c : Connection) (method path : String) (content : Http.Content) :
    c.send method path content = (do
      Session.ofOutcome (c.answer method path (← c.exchange method path content))) := by
  rw [Connection.send, Connection.exchange, bind_assoc]
  congr 1
  funext request
  congr 1
  funext found
  obtain ⟨url, reply⟩ := found
  simp only [Connection.answer]
  cases Http.isSuccess reply.code
  · rfl
  · simp only [Bool.not_true, Bool.false_eq_true, if_false, if_true, Session.ofOutcome_bind]
    rfl

/-! ## What an exchange does -/

/-- The faults of a request that gets no final reply. -/
def Fault.isUnanswered : Fault → Bool
  | .unencodable _ | .badUrl | .schemeless _ | .notFiniteOnWire | .unreachable .. => true
  | _ => false

/-- Between two journals nothing is recorded but requests of `P`. -/
structure Journal.Sends (P : Http.Request → Prop) (before after : Journal) : Prop where
  sent : ∃ new, (∀ request ∈ new, P request) ∧ after.sent = before.sent ++ new
  log : after.log = before.log
  events : after.events = before.events

section

variable {P : Http.Request → Prop} {i j k : Journal}

theorem Journal.Sends.refl (P : Http.Request → Prop) (j : Journal) : j.Sends P j :=
  ⟨⟨[], by simp, by simp⟩, rfl, rfl⟩

theorem Journal.Sends.trans (first : i.Sends P j) (second : j.Sends P k) : i.Sends P k := by
  obtain ⟨new, hn, sent⟩ := first.sent
  obtain ⟨more, hm, later⟩ := second.sent
  refine ⟨⟨new ++ more, List.forall_mem_append.2 ⟨hn, hm⟩, ?_⟩, second.log.trans first.log,
    second.events.trans first.events⟩
  rw [later, sent, List.append_assoc]

end

namespace Session

variable {α β : Type} {P : Http.Request → Prop} {Q : α → Prop} {R : β → Prop}

/-- However the operation runs, it records nothing but requests of `P` that it sends; what it gives
is one of `Q`, and a fault that ends it is one of a request without a final reply. -/
def OnlySends (P : Http.Request → Prop) (Q : α → Prop) (x : Session α) : Prop :=
  ∀ j : Journal, j.Sends P (x.run.run j).2 ∧
    match (x.run.run j).1 with
    | .ok a => Q a
    | .error fault => fault.isUnanswered = true

theorem OnlySends.bind {x : Session α} {f : α → Session β} (hx : OnlySends P Q x)
    (hf : ∀ a, Q a → OnlySends P R (f a)) : OnlySends P R (x >>= f) := by
  intro j
  obtain ⟨first, ending⟩ := hx j
  rcases run : x.run.run j with ⟨outcome, k⟩
  rw [run] at first ending
  cases outcome with
  | error fault =>
    rw [run_bind_of_error run]
    exact ⟨first, ending⟩
  | ok a =>
    rw [run_bind_of_ok run]
    exact ⟨first.trans (hf a ending k).1, (hf a ending k).2⟩

theorem OnlySends.mono {x : Session α} {Q' : α → Prop} (hx : OnlySends P Q x)
    (h : ∀ a, Q a → Q' a) : OnlySends P Q' x := by
  intro j
  obtain ⟨sends, ending⟩ := hx j
  refine ⟨sends, ?_⟩
  cases outcome : (x.run.run j).1 with
  | ok a =>
    rw [outcome] at ending
    exact h a ending
  | error fault =>
    rw [outcome] at ending
    exact ending

theorem onlySends_ofOutcome {outcome : Outcome α}
    (failed : ∀ fault, outcome = .error fault → fault.isUnanswered = true) :
    OnlySends P (outcome = .ok ·) (ofOutcome outcome) := by
  intro j
  rw [run_ofOutcome]
  refine ⟨.refl P j, ?_⟩
  cases outcome with
  | ok a => rfl
  | error fault => exact failed fault rfl

theorem onlySends_pure {a : α} (h : Q a) : OnlySends P Q (pure a : Session α) :=
  fun j => ⟨.refl P j, h⟩

theorem onlySends_throw {fault : Fault} (h : fault.isUnanswered = true) :
    OnlySends P Q (throw fault : Session α) :=
  fun j => ⟨.refl P j, h⟩

end Session

/-! ### Faults on the way -/

theorem Text.Encoding.isUnanswered_of_require {e : Text.Encoding} {text : String} {fault : Fault}
    (h : e.require text = .error fault) : fault.isUnanswered = true := by
  rw [require] at h
  split at h <;> cases h
  rfl

theorem Url.Flaw.isUnanswered (flaw : Url.Flaw) : flaw.fault.isUnanswered = true := by
  cases flaw <;> rfl

theorem isUnanswered_of_mapError {α : Type} {read : Except Url.Flaw α} {fault : Fault}
    (h : read.mapError Url.Flaw.fault = .error fault) : fault.isUnanswered = true := by
  obtain ⟨flaw, -, rfl⟩ := Outcome.mapError_eq_error.1 h
  exact flaw.isUnanswered

theorem Connection.isUnanswered_of_encoded {content : Http.Content} {fault : Fault}
    (h : Connection.encoded content = .error fault) : fault.isUnanswered = true := by
  cases content with
  | nothing | lines => cases h
  | json value =>
    rw [encoded] at h
    split_ifs at h
    · cases required : Text.Encoding.utf8.require value.compactText with
      | error gap =>
        rw [required] at h
        cases h
        exact Text.Encoding.isUnanswered_of_require required
      | ok _ =>
        rw [required] at h
        cases h
    · cases h
      rfl

/-! ### What is sent -/

/-- The request is one of an exchange with that method: its address is in ASCII, and an exchange
that begins with GET stays with it. -/
structure Http.Request.IsSentFor (method : String) (r : Http.Request) : Prop where
  address : r.url.IsAscii
  stays : method = "GET" → r.method = "GET"

theorem Http.redirectedMethod_get (code : ℕ) : Http.redirectedMethod code "GET" = "GET" := by
  rw [redirectedMethod]
  split_ifs <;> rfl

theorem Http.Request.IsSentFor.redirected {method : String} {r : Http.Request} {url : Url}
    (h : r.IsSentFor method) (ascii : url.IsAscii) (code : ℕ) (cookie : Option String) :
    (Http.redirected r code url cookie).IsSentFor method := by
  refine ⟨ascii, fun get => ?_⟩
  change Http.redirectedMethod code r.method = "GET"
  rw [h.stays get, redirectedMethod_get]

/-- The headers of the reply are in ASCII. -/
def Http.Reply.IsAscii (r : Http.Reply) : Prop := ∀ h ∈ r.headers, Text.IsAscii h.2.toList

theorem Text.Encoding.isAscii_of_require {text : String}
    (h : Text.Encoding.ascii.require text = .ok ()) : Text.IsAscii text.toList := by
  have none : Text.Encoding.ascii.gap? text.toList = none := by
    rw [require] at h
    split at h
    · cases h
    · assumption
  intro c hc
  have lacks := Text.Encoding.gap?_eq_none_iff.1 none c hc
  simp only [Text.Encoding.lacks, decide_eq_false_iff_not] at lacks
  omega

theorem Http.Reply.IsAscii.header {r : Http.Reply} (h : r.IsAscii) {name value : String}
    (found : r.header? name = some value) : Text.IsAscii value.toList := by
  have each : ∀ v ∈ r.values name, Text.IsAscii v.toList := by
    intro v hv
    obtain ⟨header, mem, rfl⟩ := List.mem_map.1 hv
    exact h header (List.mem_of_mem_filter mem)
  rw [header?] at found
  split at found
  · cases found
  · cases found
    rw [String.toList_intercalate]
    refine Text.isAscii_intercalate (by decide) ?_
    simpa using each

theorem Http.Reply.headers_of_unpack {given r : Http.Reply} (h : given.unpack = .ok r) :
    r.headers = given.headers := by
  rw [unpack] at h
  split at h
  · cases h
    rfl
  · split_ifs at h
    cases h
    rfl

theorem Http.Reply.received_eq_ok {given r : Http.Reply} (h : given.received = .ok r) :
    (∀ header ∈ given.headers, Text.Encoding.ascii.require header.2 = .ok ()) ∧
      r.headers = given.headers := by
  obtain ⟨_, checked, unpacked⟩ := Outcome.bind_eq_ok.1 h
  constructor
  · intro header mem
    obtain ⟨-, -, value⟩ := Outcome.bind_eq_ok.1 (Outcome.forM_eq_ok.1 checked header mem)
    exact value
  · exact headers_of_unpack (Outcome.mapError_eq_ok.1 unpacked)

theorem Http.Reply.isAscii_of_received {given r : Http.Reply} (h : given.received = .ok r) :
    r.IsAscii := by
  obtain ⟨ascii, same⟩ := received_eq_ok h
  intro header mem
  rw [same] at mem
  exact Text.Encoding.isAscii_of_require (ascii header mem)

theorem Http.Reply.isUnanswered_of_received {given : Http.Reply} {fault : Fault}
    (h : given.received = .error fault) : fault.isUnanswered = true := by
  rcases Outcome.bind_eq_error.1 h with checked | ⟨-, -, h⟩
  · obtain ⟨header, -, failed⟩ := Outcome.exists_of_forM_eq_error checked
    rcases Outcome.bind_eq_error.1 failed with name | ⟨-, -, value⟩
    · exact Text.Encoding.isUnanswered_of_require name
    · exact Text.Encoding.isUnanswered_of_require value
  · obtain ⟨complaint, -, rfl⟩ := Outcome.mapError_eq_error.1 h
    rfl

namespace Session

variable {method : String}

theorem onlySends_transmit {request : Http.Request} (h : request.IsSentFor method) :
    OnlySends (·.IsSentFor method) Http.Reply.IsAscii (transmit request) := by
  intro j
  rw [run_transmit_eq]
  refine ⟨⟨⟨[request], by simpa using h, rfl⟩, rfl, rfl⟩, ?_⟩
  cases j.pending.headD silence with
  | failure kind text => rfl
  | reply given =>
    dsimp only [Reaction.received]
    cases received : given.received with
    | ok reply => exact Http.Reply.isAscii_of_received received
    | error fault => exact Http.Reply.isUnanswered_of_received received

theorem onlySends_jarHeader? (P : Http.Request → Prop) (url : Url) :
    OnlySends P (fun _ => True) (jarHeader? url) := by
  intro j
  rw [run_jarHeader?_eq]
  refine ⟨.refl P j, ?_⟩
  cases j.jar.isEmpty <;> cases url.scheme.isEmpty <;> trivial

theorem onlySends_receive (P : Http.Request → Prop) (url : Url) (reply : Http.Reply) :
    OnlySends P (fun _ => True) (modify fun j =>
      { j with jar := j.jar.receive j.now url reply } : Session PUnit) :=
  fun _ => ⟨⟨⟨[], by simp, (List.append_nil _).symm⟩, rfl, rfl⟩, trivial⟩

theorem onlySends_locate {origin : Url} (ho : origin.IsAscii) {location : String}
    (hl : Text.IsAscii location.toList) (P : Http.Request → Prop) :
    OnlySends P Url.IsAscii (locate origin location) := by
  rw [locate]
  split
  · rename_i url read
    refine (onlySends_ofOutcome fun _ => isUnanswered_of_mapError).mono fun u led => ?_
    exact ho.redirect (Url.isAscii_of_parse read hl) (Outcome.mapError_eq_ok.1 led)
  · exact onlySends_throw rfl

/-- What a hop needs to give: an address and perhaps the next request. -/
theorem onlySends_hop {request : Http.Request} (h : request.IsSentFor method) :
    OnlySends (·.IsSentFor method) (fun found => ∀ next ∈ found.2, next.IsSentFor method)
      (hop request) := by
  refine (onlySends_transmit h).bind fun reply ascii =>
    (onlySends_ofOutcome fun fault failed => ?_).bind fun _ _ =>
      (onlySends_receive _ _ _).bind fun _ _ => ?_
  · split_ifs at failed
    cases failed
    rfl
  · split
    · rename_i location led
      have there : Text.IsAscii location.toList := by
        rw [redirection?] at led
        split_ifs at led
        exact ascii.header led
      refine (onlySends_locate h.address there _).bind fun url hu =>
        (onlySends_jarHeader? _ url).bind fun cookie _ => onlySends_pure ?_
      rintro next ⟨⟩
      exact h.redirected hu _ _
    · exact onlySends_pure (by rintro next ⟨⟩)

/-- Redirections lead nowhere but to requests of the same exchange. -/
theorem onlySends_follow (hops : ℕ) {request : Http.Request} (h : request.IsSentFor method) :
    OnlySends (·.IsSentFor method) (fun found => found.1.IsAscii) (follow hops request) := by
  induction hops generalizing request with
  | zero => exact onlySends_throw rfl
  | succ hops ih =>
    rw [follow_succ]
    refine (onlySends_hop h).bind fun found nexts => ?_
    split
    · rename_i next
      exact ih (nexts next rfl)
    · exact onlySends_pure h.address

end Session

/-- The address that a connection asks has a scheme and an ASCII path; if its host can be sent, it
is in ASCII. -/
theorem Connection.isAscii_of_target {c : Connection} {path : String} {url : Url}
    (h : c.target path = .ok url) (sendable : Text.Encoding.ascii.require url.netloc = .ok ()) :
    url.IsAscii := by
  have host : Text.IsAscii url.host.toList := by
    have netloc := Text.Encoding.isAscii_of_require sendable
    rw [Url.netloc, Text.isAscii_toList_append] at netloc
    exact Url.isAscii_hostText.1 netloc.1
  obtain ⟨given, read, h⟩ := Outcome.bind_eq_ok.1 h
  split_ifs at h
  · obtain rfl := Outcome.pure_eq_ok.1 h
    exact Url.isAscii_of_parse_of_host read host
  · exact Url.isAscii_of_parts h Text.isAscii_nil Text.isAscii_nil

theorem Text.upper_get : Text.upper "GET" = "GET" := by decide +kernel

/-- The request is one that a connection prepares for a resource. -/
structure Http.Request.IsPrepared (c : Connection) (method path : String) (r : Request) :
    Prop where
  target : c.target path = .ok r.url
  sendable : Text.Encoding.ascii.require r.url.netloc = .ok ()
  method : r.method = Text.upper method
  authorization : r.authorization = c.authorization r.url

theorem Http.Request.IsPrepared.isSentFor {c : Connection} {method path : String} {r : Request}
    (h : r.IsPrepared c method path) : r.IsSentFor method where
  address := Connection.isAscii_of_target h.target h.sendable
  stays := by
    rintro rfl
    exact h.method.trans Text.upper_get

namespace Session

theorem isUnanswered_of_checkLines {content : Http.Content} {fault : Fault}
    (h : checkLines content = .error fault) : fault.isUnanswered = true := by
  cases content with
  | lines text => exact Text.Encoding.isUnanswered_of_require h
  | nothing | json => cases h

theorem onlySends_prepare (P : Http.Request → Prop) (c : Connection) (method path : String)
    (content : Http.Content) :
    OnlySends P (·.IsPrepared c method path) (prepare c method path content) := by
  rw [prepare_eq]
  exact (onlySends_ofOutcome fun _ => isUnanswered_of_checkLines).bind fun _ _ =>
    (onlySends_ofOutcome fun _ => isUnanswered_of_mapError).bind fun url target =>
      (onlySends_jarHeader? _ url).bind fun cookies _ =>
        (onlySends_ofOutcome fun _ => Connection.isUnanswered_of_encoded).bind fun _ _ =>
          (onlySends_ofOutcome fun _ => Text.Encoding.isUnanswered_of_require).bind
            fun _ sendable =>
              onlySends_pure ⟨Outcome.mapError_eq_ok.1 target, sendable, rfl, rfl⟩

end Session

/-- An exchange sends requests to addresses in ASCII, with GET only if it begins so, and nothing
else is recorded of it; if no final reply comes, then for a fault of a request without one. -/
theorem Connection.onlySends_exchange (c : Connection) (method path : String)
    (content : Http.Content) : Session.OnlySends (·.IsSentFor method)
      (fun found => found.1.IsAscii) (c.exchange method path content) :=
  (Session.onlySends_prepare _ c method path content).bind fun _ prepared =>
    Session.onlySends_follow _ prepared.isSentFor

theorem Connection.isAscii_of_exchange {c : Connection} {method path : String}
    {content : Http.Content} {j : Journal} {found : Url × Http.Reply}
    (ended : ((c.exchange method path content).run.run j).1 = .ok found) : found.1.IsAscii := by
  have ending := (c.onlySends_exchange method path content j).2
  rwa [ended] at ending

theorem Connection.isUnanswered_of_exchange {c : Connection} {method path : String}
    {content : Http.Content} {j : Journal} {fault : Fault}
    (ended : ((c.exchange method path content).run.run j).1 = .error fault) :
    fault.isUnanswered = true := by
  have ending := (c.onlySends_exchange method path content j).2
  rwa [ended] at ending

/-! ## Exchanges of one request -/

namespace Reaction

/-- The reaction does not send the sender elsewhere. -/
def IsFinal (r : Reaction) : Prop :=
  ∀ reply, r.received = .ok reply → Http.isRedirect reply.code = false

theorem received_plain (code : ℕ) (body : String) :
    (reply ⟨code, [], body⟩).received = .ok ⟨code, [], body⟩ := rfl

theorem isFinal_plain {code : ℕ} (h : Http.isRedirect code = false) (body : String) :
    (reply ⟨code, [], body⟩).IsFinal := by
  intro found received
  rw [received_plain] at received
  cases received
  exact h

theorem isFinal_failure (kind : TransportFailure) (text : String) : (failure kind text).IsFinal :=
  fun _ received => nomatch received

end Reaction

namespace Session

variable {request : Http.Request} {reaction : Reaction} {j : Journal} {rest : List Reaction}

/-- The next reaction settles how an exchange ends, unless it sends the sender elsewhere. -/
theorem fst_run_follow (scheme : request.url.scheme.isEmpty = false)
    (next : j.pending = reaction :: rest) (final : reaction.IsFinal) (hops : ℕ) :
    ((follow (hops + 1) request).run.run j).1 = reaction.received.map (request.url, ·) := by
  have transmitted := run_transmit_eq request j
  rw [next, List.headD_cons] at transmitted
  rw [follow_succ, hop]
  cases received : reaction.received with
  | error fault =>
    rw [received] at transmitted
    rw [run_bind_of_error (run_bind_of_error transmitted)]
    rfl
  | ok reply =>
    rw [received] at transmitted
    have stays : redirection? reply = none := by
      rw [redirection?, final reply received]
      rfl
    rw [bind_assoc, run_bind_of_ok transmitted]
    simp only [arrive, scheme, stays, Bool.false_eq_true, if_false]
    rfl

end Session

end ElasticPanels

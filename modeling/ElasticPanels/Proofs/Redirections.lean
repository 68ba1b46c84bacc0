import ElasticPanels.Proofs.Exchanges

/-!
# Redirections

An exchange that posts a text makes one request of its own, or none if it cannot be put on the wire
(`Connection.CanPost`).  Each hop sends one request, and a further request is made only where the
reply to the last one redirects to it (`sent_follow`, by induction on the hops).  So the requests of
an exchange are a trail of redirections (`Trail`), which ends at the first reply that does not
redirect.
-/

namespace ElasticPanels

open Session

/-! ## The request of an exchange -/

theorem Session.run_ofOutcome_bind {α β : Type} (outcome : Outcome α) (f : α → Session β)
    (j : Journal) : (ofOutcome outcome >>= f).run.run j =
      match outcome with
      | .ok a => (f a).run.run j
      | .error fault => (.error fault, j) := by
  cases outcome <;> rfl

theorem Text.upper_post : Text.upper "POST" = "POST" := by decide +kernel

namespace Connection

/-- A text can be posted: it can be encoded, its resource has an address with a host that can be
sent, and the address has a scheme if there are cookies that may go with it. -/
structure CanPost (c : Connection) (path text : String) (jar : Http.CookieJar) (url : Url) :
    Prop where
  text : Text.Encoding.utf8.require text = .ok ()
  target : c.target path = .ok url
  host : Text.Encoding.ascii.require url.netloc = .ok ()
  scheme : jar.isEmpty = true ∨ url.scheme.isEmpty = false

/-- The request that posts a text. -/
def post (c : Connection) (text : String) (jar : Http.CookieJar) (url : Url) : Http.Request where
  method := "POST"
  url
  contentType := some "application/x-ndjson"
  authorization := c.authorization url
  cookie := c.cookieHeader?.orElse fun _ => if jar.isEmpty then none else jar.header? url
  body := text

variable {c : Connection} {path text : String} {j : Journal}

theorem run_jarHeader?_of_scheme {url : Url}
    (scheme : j.jar.isEmpty = true ∨ url.scheme.isEmpty = false) :
    (jarHeader? url).run.run j =
      (.ok (if j.jar.isEmpty then none else j.jar.header? url), j) := by
  rw [run_jarHeader?_eq]
  rcases scheme with empty | scheme
  · rw [empty]
    rfl
  · rw [scheme]
    cases j.jar.isEmpty <;> rfl

theorem run_prepare_post {url : Url} (h : c.CanPost path text j.jar url) :
    (prepare c "POST" path (.lines text)).run.run j = (.ok (c.post text j.jar url), j) := by
  simp only [prepare, h.text, mapError_target h.target, h.host, encoded, ofOutcome, pure_bind]
  rw [run_bind_of_ok (run_jarHeader?_of_scheme h.scheme), Text.upper_post]
  rfl

theorem run_prepare_of_not (h : ∀ url, ¬ c.CanPost path text j.jar url) :
    ∃ fault, (prepare c "POST" path (.lines text)).run.run j = (.error fault, j) := by
  unfold prepare
  simp only [run_ofOutcome_bind]
  cases encodable : Text.Encoding.utf8.require text with
  | error fault => exact ⟨fault, rfl⟩
  | ok =>
    cases target : c.target path with
    | error flaw => exact ⟨flaw.fault, rfl⟩
    | ok url =>
      by_cases scheme : j.jar.isEmpty = true ∨ url.scheme.isEmpty = false
      · cases host : Text.Encoding.ascii.require url.netloc with
        | ok => exact absurd ⟨encodable, target, host, scheme⟩ (h url)
        | error fault =>
          refine ⟨fault, (run_bind_of_ok (run_jarHeader?_of_scheme scheme)).trans ?_⟩
          simp only [encoded, run_ofOutcome_bind, host]
      · have cookies := run_jarHeader?_eq url j
        simp only [not_or, Bool.not_eq_true, Bool.not_eq_false] at scheme
        rw [scheme.1, scheme.2] at cookies
        exact ⟨.schemeless url.text, run_bind_of_error cookies⟩

end Connection

/-! ## Trails -/

/-- The reaction redirects from one request to another. -/
def Redirects (reaction : Reaction) (request next : Http.Request) : Prop :=
  ∃ reply location url cookie, reaction.received = .ok reply ∧
    redirection? reply = some location ∧ next = Http.redirected request reply.code url cookie

/-- The requests after one, each of which the reaction to the one before it redirects to. -/
inductive Trail : List Reaction → Http.Request → List Http.Request → Prop
  | last (reactions : List Reaction) (request : Http.Request) : Trail reactions request []
  | redirected {reaction : Reaction} {reactions : List Reaction} {request next : Http.Request}
      {more : List Http.Request} (redirects : Redirects reaction request next)
      (trail : Trail reactions next more) : Trail (reaction :: reactions) request (next :: more)

theorem not_redirects_of_isFinal {reaction : Reaction} (h : reaction.IsFinal)
    (request next : Http.Request) : ¬ Redirects reaction request next := by
  rintro ⟨reply, location, url, cookie, received, led, -⟩
  rw [redirection?, h reply received] at led
  cases led

/-- Where the next reaction does not redirect, nothing follows the request. -/
theorem Trail.eq_nil {reactions : List Reaction} {request : Http.Request}
    {more : List Http.Request} (h : Trail reactions request more)
    (final : ∀ reaction ∈ reactions.head?, reaction.IsFinal) : more = [] := by
  cases h with
  | last => rfl
  | redirected redirects trail =>
    exact absurd redirects (not_redirects_of_isFinal (final _ rfl) _ _)

namespace Session

variable {request : Http.Request} {j k : Journal}

theorem locate_eq (origin : Url) (location : String) :
    ∃ outcome, locate origin location = ofOutcome outcome := by
  rw [locate]
  split
  · exact ⟨_, rfl⟩
  · exact ⟨.error _, rfl⟩

/-- What comes after a reply neither sends nor waits for anything. -/
theorem run_arrive (request : Http.Request) (reply : Http.Reply) (j : Journal) :
    ∃ outcome jar, (arrive request reply).run.run j = (outcome, { j with jar }) ∧
      ∀ given next, outcome = .ok (given, some next) → ∃ location url cookie,
        redirection? reply = some location ∧
        next = Http.redirected request reply.code url cookie := by
  unfold arrive
  rw [run_ofOutcome_bind]
  cases scheme : request.url.scheme.isEmpty with
  | true => exact ⟨.error (.schemeless request.url.text), j.jar, rfl, fun _ _ made => nomatch made⟩
  | false =>
    let k : Journal := { j with jar := j.jar.receive j.now request.url reply }
    have kept : (modify fun j => { j with jar := j.jar.receive j.now request.url reply } :
      Session PUnit).run.run j = (.ok PUnit.unit, k) := rfl
    simp only [Bool.false_eq_true, if_false]
    rw [run_bind_of_ok kept]
    cases led : redirection? reply with
    | none => exact ⟨.ok (reply, none), k.jar, rfl, fun _ _ made => nomatch made⟩
    | some location =>
      obtain ⟨there, located⟩ := locate_eq request.url location
      dsimp only
      rw [located, run_ofOutcome_bind]
      cases there with
      | error fault => exact ⟨.error fault, k.jar, rfl, fun _ _ made => nomatch made⟩
      | ok url =>
        obtain ⟨found, cookies⟩ : ∃ found, (jarHeader? url).run.run k = (found, k) :=
          ⟨_, run_jarHeader?_eq url k⟩
        dsimp only
        cases found with
        | error fault =>
          exact ⟨.error fault, k.jar, run_bind_of_error cookies, fun _ _ made => nomatch made⟩
        | ok cookie =>
          refine ⟨.ok (reply, some (Http.redirected request reply.code url cookie)), k.jar,
            run_bind_of_ok cookies, ?_⟩
          intro given next made
          cases made
          exact ⟨location, url, cookie, rfl, rfl⟩

/-- A hop sends its request and takes the next reaction, which redirects to the request after it. -/
theorem run_hop (request : Http.Request) (j : Journal) :
    ∃ outcome jar, (hop request).run.run j =
        (outcome, { j with jar, pending := j.pending.drop 1, sent := j.sent ++ [request] }) ∧
      ∀ reply next, outcome = .ok (reply, some next) →
        ∃ reaction ∈ j.pending.head?, Redirects reaction request next := by
  have transmitted := run_transmit_eq request j
  unfold hop
  cases received : (j.pending.headD silence).received with
  | error fault =>
    rw [received] at transmitted
    exact ⟨_, j.jar, run_bind_of_error transmitted, fun _ _ made => nomatch made⟩
  | ok reply =>
    rw [received] at transmitted
    obtain ⟨outcome, jar, run, leads⟩ := run_arrive request reply
      { j with pending := j.pending.drop 1, sent := j.sent ++ [request] }
    refine ⟨outcome, jar, (run_bind_of_ok transmitted).trans run, ?_⟩
    intro given next made
    obtain ⟨location, url, cookie, led, rfl⟩ := leads given next made
    cases pending : j.pending with
    | nil =>
      rw [pending] at received
      cases received
    | cons reaction rest =>
      rw [pending] at received
      exact ⟨reaction, rfl, reply, location, url, cookie, received, led, rfl⟩

/-- After its first hop an exchange is over, or it goes on from where the reaction redirects to. -/
theorem run_follow_succ (hops : ℕ) (request : Http.Request) (j : Journal) :
    ((follow (hops + 1) request).run.run j).2.sent = j.sent ++ [request] ∨
      ∃ reaction rest next jar, j.pending = reaction :: rest ∧ Redirects reaction request next ∧
        (follow (hops + 1) request).run.run j = (follow hops next).run.run
          { j with jar, pending := rest, sent := j.sent ++ [request] } := by
  obtain ⟨outcome, jar, run, leads⟩ := run_hop request j
  rw [follow_succ]
  rcases outcome with fault | ⟨reply, _ | next⟩
  · left
    rw [run_bind_of_error run]
  · left
    rw [run_bind_of_ok run]
    rfl
  · right
    obtain ⟨reaction, first, redirects⟩ := leads reply next rfl
    obtain ⟨rest, pending⟩ := List.head?_eq_some_iff.1 first
    refine ⟨reaction, rest, next, jar, pending, redirects, ?_⟩
    rw [run_bind_of_ok run, pending]
    rfl

/-- Following redirections sends the request and the trail from it. -/
theorem sent_follow (hops : ℕ) (request : Http.Request) (j : Journal) :
    ∃ more, ((follow (hops + 1) request).run.run j).2.sent = j.sent ++ request :: more ∧
      Trail j.pending request more := by
  induction hops generalizing request j with
  | zero =>
    rcases run_follow_succ 0 request j with sent | ⟨reaction, rest, next, jar, -, -, run⟩
    · exact ⟨[], sent, .last _ _⟩
    · exact ⟨[], by rw [run]; rfl, .last _ _⟩
  | succ hops ih =>
    rcases run_follow_succ (hops + 1) request j with
      sent | ⟨reaction, rest, next, jar, pending, redirects, run⟩
    · exact ⟨[], sent, .last _ _⟩
    · obtain ⟨more, sent, trail⟩ := ih next
        { j with jar, pending := rest, sent := j.sent ++ [request] }
      refine ⟨next :: more, ?_, ?_⟩
      · rw [run]
        simpa using sent
      · rw [pending]
        exact .redirected redirects trail

/-- A reply that redirects leads to a second request, as long as no cookies are kept. -/
theorem sent_follow_of_redirection (hops : ℕ) {reaction : Reaction} {rest : List Reaction}
    (pending : j.pending = reaction :: rest) {reply : Http.Reply}
    (received : reaction.received = .ok reply) (scheme : request.url.scheme.isEmpty = false)
    {location : String} (led : redirection? reply = some location) {there : Url}
    (located : locate request.url location = ofOutcome (.ok there))
    (clean : (j.jar.receive j.now request.url reply).isEmpty = true) :
    ∃ more, ((follow (hops + 2) request).run.run j).2.sent =
        j.sent ++ request :: Http.redirected request reply.code there none :: more ∧
      Trail rest (Http.redirected request reply.code there none) more := by
  let k : Journal := { j with
    jar := j.jar.receive j.now request.url reply
    pending := rest
    sent := j.sent ++ [request] }
  have arrived : (arrive request reply).run.run { j with
      pending := rest, sent := j.sent ++ [request] } =
        (.ok (reply, some (Http.redirected request reply.code there none)), k) := by
    have kept : (modify fun j => { j with jar := j.jar.receive j.now request.url reply } :
      Session PUnit).run.run { j with pending := rest, sent := j.sent ++ [request] } =
        (.ok PUnit.unit, k) := rfl
    unfold arrive
    rw [run_ofOutcome_bind, scheme]
    simp only [Bool.false_eq_true, if_false]
    rw [run_bind_of_ok kept, led]
    dsimp only
    rw [located, run_bind_of_ok (run_ofOutcome _ k), run_bind_of_ok (run_jarHeader clean)]
    rfl
  have hopped : (hop request).run.run j =
      (.ok (reply, some (Http.redirected request reply.code there none)), k) := by
    have transmitted := run_transmit_eq request j
    rw [pending, List.headD_cons, received] at transmitted
    rw [hop, run_bind_of_ok transmitted]
    exact arrived
  obtain ⟨more, sent, trail⟩ := sent_follow hops (Http.redirected request reply.code there none) k
  refine ⟨more, ?_, trail⟩
  rw [follow_succ, run_bind_of_ok hopped]
  simpa [k] using sent

end Session

/-! ## Exchanges -/

/-- An exchange that posts a text sends the request for it and a trail of redirections, or nothing
if the text cannot be posted. -/
theorem Connection.sent_exchange (c : Connection) (path text : String) (j : Journal) :
    let after := ((c.exchange "POST" path (.lines text)).run.run j).2
    (∀ url, c.CanPost path text j.jar url →
      ∃ more, after.sent = j.sent ++ c.post text j.jar url :: more ∧
        Trail j.pending (c.post text j.jar url) more) ∧
      ((∀ url, ¬ c.CanPost path text j.jar url) → after.sent = j.sent) := by
  intro after
  constructor
  · intro url h
    obtain ⟨more, sent, trail⟩ := sent_follow 20 (c.post text j.jar url) j
    refine ⟨more, ?_, trail⟩
    rw [← sent]
    simp only [after, exchange]
    rw [run_bind_of_ok (run_prepare_post h)]
    rfl
  · intro h
    obtain ⟨fault, failed⟩ := run_prepare_of_not h
    simp only [after, exchange]
    rw [run_bind_of_error failed]

end ElasticPanels

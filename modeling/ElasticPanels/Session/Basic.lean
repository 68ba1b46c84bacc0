import ElasticPanels.Http.CookieJar
import ElasticPanels.Telemetry

/-!
# Sessions

A session is a run of operations against a search server.  The server is given by the reactions
it will show, in order.  The journal of the run holds the requests that were sent, the log, the
events that are counted and the cookies that replies have set; a fault ends an operation but keeps
the journal.

No socket lies between a session and its server: the reactions are a script, and replies are handed
over as texts.  Three faults belong to this transport and are not to be expected of other ones: that
of a header beyond ASCII and that of a body in a coding (`Http.Reply.received`), and that of an
address without a scheme, which here is answered before it is refused (`Session.follow`).
-/

namespace ElasticPanels

/-- What the search server does with a request. -/
inductive Reaction
  | reply (r : Http.Reply)
  | failure (kind : TransportFailure) (text : String)
  deriving Repr, Inhabited

/-- What a sender gets of a scripted reply: its headers have to be written in ASCII, and its body,
which is a text, has to come out of its codings. -/
def Http.Reply.received (r : Http.Reply) : Outcome Http.Reply := do
  forM r.headers fun h => do
    Text.Encoding.ascii.require h.1
    Text.Encoding.ascii.require h.2
  r.unpack.mapError (.unreachable .decoding)

/-- What a sender gets of a reaction of the server. -/
def Reaction.received : Reaction → Outcome Http.Reply
  | .reply r => r.received
  | .failure kind text => throw (.unreachable kind text)

/-- How much a log entry matters. -/
inductive LogLevel
  | info
  | warning
  deriving DecidableEq, Repr

/-- The name of a level. -/
def LogLevel.name : LogLevel → String
  | info => "INFO"
  | warning => "WARNING"

/-- An entry of the log: its level, the part of the service that wrote it, and its text. -/
structure LogEntry where
  level : LogLevel
  source : String
  text : String
  deriving DecidableEq, Repr

/-- The state of a session. -/
structure Journal where
  /-- The time of the session, in seconds since the beginning of 1970. -/
  now : Int
  /-- The reactions of the search server that are still to come. -/
  pending : List Reaction
  /-- The requests sent so far. -/
  sent : List Http.Request
  /-- The log so far. -/
  log : List LogEntry
  /-- The events counted so far. -/
  events : List Telemetry.Event
  /-- The cookies that replies have set so far. -/
  jar : Http.CookieJar
  deriving Repr, Inhabited

/-- An operation of a session. -/
abbrev Session (α : Type) := ExceptT Fault (StateM Journal) α

namespace Session

/-- An outcome as an operation without effects. -/
def ofOutcome {α : Type} : Outcome α → Session α
  | .ok a => pure a
  | .error fault => throw fault

/-- Counts an event. -/
def count (event : Telemetry.Event) : Session Unit :=
  modify fun j => { j with events := j.events ++ [event] }

/-- Writes an entry of the log. -/
def note (level : LogLevel) (source text : String) : Session Unit :=
  modify fun j => { j with log := j.log ++ [⟨level, source, text⟩] }

/-- What a search server without further answers does. -/
def silence : Reaction := .failure .connect "no upstream reply scripted"

/-- Runs an operation with a cookie jar of its own. -/
def apart {α : Type} (operation : Session α) : Session α := ExceptT.mk do
  let kept := (← get).jar
  modify fun j => { j with jar := .empty }
  let outcome ← operation.run
  modify fun j => { j with jar := kept }
  return outcome

/-- Sends one request and takes the next reaction. -/
def transmit (request : Http.Request) : Session Http.Reply := do
  let journal ← get
  set { journal with pending := journal.pending.drop 1, sent := journal.sent ++ [request] }
  ofOutcome (journal.pending.headD silence).received

end Session

end ElasticPanels

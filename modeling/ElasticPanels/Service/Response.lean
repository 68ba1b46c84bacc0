import ElasticPanels.Json.Obstacle
import ElasticPanels.Session.Basic
import ElasticPanels.Validation.Report

/-!
# Responses of the service

A fault that a client can do something about becomes a response with a status code of its own; every
other fault stays one, and so does a response that cannot be written.
-/

namespace ElasticPanels

/-- The body of a response. -/
inductive Response.Body
  | json (value : Json)
  | text (text : String)
  deriving Repr, Inhabited

/-- A response. -/
structure Response where
  code : Nat
  body : Response.Body
  deriving Repr, Inhabited

namespace Response

/-- A response in JSON, which is sent in UTF-8. -/
def ofJson (code : Nat) (value : Json) : Session Response := do
  Session.ofOutcome (Text.Encoding.utf8.require value.compactText)
  return ⟨code, .json value⟩

/-- The deepest level at which a result may have a value. -/
def depthLimit : Nat := 257

/-- A result, with null in place of the numbers that the wire format lacks. -/
def ofResult (value : Json) : Session Response :=
  match value.obstacle? depthLimit with
  | some .depth => throw (.unwritable none)
  | some (.gap gap) => throw (.unwritable (some gap))
  | none => return ⟨200, .json value.finitePart⟩

/-- A response that only says what is wrong. -/
def detail (code : Nat) (text : String) : Session Response :=
  ofJson code (.obj [("detail", .str text)])

/-- The path names no endpoint. -/
def notFound : Session Response := detail 404 "Not Found"

/-- The endpoint has another method. -/
def methodNotAllowed : Session Response := detail 405 "Method Not Allowed"

/-- The client is sent to another path. -/
def elsewhere : Response := ⟨307, .text ""⟩

/-- The body of the request cannot be read, and not for a flaw at a certain place. -/
def unreadable : Session Response := detail 400 "There was an error parsing the body"

/-- The request failed its checks.  Its issues are written out in full before they are reported in
short, so the values they were found in have to be finite and in UTF-8. -/
def unprocessable (request : Json) (issues : List Issue) : Session Response := do
  let inFull := Json.obj [("detail", .arr (issues.map (Issue.inFull request)))]
  if !inFull.isFinite then throw .notFiniteOnWire
  Session.ofOutcome (Text.Encoding.utf8.require inFull.compactText)
  return ⟨422, .json (.obj [("detail", Issue.reportJson issues)])⟩

/-- The response to a fault: errors of the engine go back to the client, and failed requests are
those of a gateway. -/
def ofFault : Fault → Session Response
  | .engine error =>
    if error.isFinite then
      ofJson 400 (.obj [("detail", .str (engineMessage error)), ("error", error)])
    else throw .notFiniteOnWire
  | .rejected rejection =>
    if rejection.code = 404
      then detail 404 ("Upstream resource not found: " ++ rejection.url)
      else detail 502 ("Upstream error " ++ toString rejection.code ++ ": " ++ rejection.url)
  | .unreachable _ text => detail 502 ("Cannot reach Elasticsearch: " ++ text)
  | fault => throw fault

/-- The response to a fault of a lookup: a value that cannot be read is the client's mistake. -/
def ofLookupFault (fault : Fault) : Session Response :=
  if fault.isBadValue then
    detail 400 ("Invalid metric find query: " ++ fault.message?.getD "")
  else throw fault

end Response

end ElasticPanels

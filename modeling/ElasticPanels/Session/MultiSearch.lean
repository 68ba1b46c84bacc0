import ElasticPanels.Session.Connection

/-!
# Multi-searches

A multi-search sends a payload and counts what becomes of it.  A reply that is no success may carry
an error of the search engine; then the fault is that error, and otherwise the fault of the request
itself.
-/

namespace ElasticPanels

/-- The error that the engine gives in a reply that is no success. -/
def Rejection.engineError? (r : Rejection) : Option Json :=
  match Json.readBody r.body with
  | .ok (.obj fields) => (Entries.get? fields "error").filter Json.truthy
  | _ => none

namespace Session

/-- Counts and words the fault of a multi-search. -/
def searchFailed {α : Type} (kind : SearchKind) (path : String) (fault : Fault) : Session α := do
  match fault with
  | .rejected rejection =>
    match rejection.engineError? with
    | some error =>
      count (.failure kind .engine)
      note .warning "orchestrator" (engineMessage error ++ " (" ++ kind.name ++ " " ++ path ++ ")")
      throw (.engine error)
    | none =>
      count (.failure kind .transport)
      throw fault
  | .unreachable .. =>
    count (.failure kind .transport)
    throw fault
  | _ => throw fault

/-- Sends the payload of a multi-search and gives the value in the reply. -/
def multiSearch (c : Connection) (kind : SearchKind) (path payload : String) : Session Json := do
  count (.search kind)
  let answer ← tryCatch (c.send "POST" path (.lines payload)) (searchFailed kind path)
  note .info "orchestrator"
    ("POST " ++ path ++ " (" ++ kind.name ++ ") -> " ++ toString answer.code)
  return answer.data

end Session

end ElasticPanels

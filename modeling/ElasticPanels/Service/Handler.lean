import ElasticPanels.Service.Endpoint
import ElasticPanels.Service.Response

/-!
# The service

`Service.handle` answers a request.  A request is checked as a whole before anything is sent: its
headers, its query and its body contribute to one report.  Endpoints that ask the search server
use the configured connection or, if the headers name one, a connection for this request alone.
The pages that describe the service are served empty.
-/

namespace ElasticPanels

/-- A running service: its configuration and the settings that it has from it. -/
structure Service where
  config : Config
  settings : Settings
  deriving Repr, Inhabited

namespace Service

/-- Starts the service in an environment. -/
def start (environment : Entries String) : Outcome Service := do
  let config ← Config.read environment
  return ⟨config, ← config.settings⟩

variable (s : Service)

/-- The datasource of a request.  One for this request alone reads the engine version anew. -/
def datasource (override : Option Connection) : Session Datasource := do
  match override with
  | none => return ⟨s.settings, s.config.connection⟩
  | some connection =>
    if let some text := EngineVersion.warning? (.str s.config.version) then
      Session.note .warning "version_policy" text
    Session.ofOutcome connection.check
    return ⟨s.settings, connection⟩

/-- Runs an operation on the datasource of a request once its headers and its argument have passed
their checks.  A connection for this request alone has cookies of its own. -/
def withDatasource {α : Type} (r : Incoming) (body : Option Json) (argument : Checked α)
    (operation : Datasource → α → Session Response) : Session Response := do
  match r.override with
  | .bad issues => Response.unprocessable (r.parts body) (issues ++ argument.issues)
  | .ok override =>
    -- A connection that cannot be opened is a fault, whatever is wrong with the argument.
    let d ← s.datasource override
    match argument with
    | .bad issues => Response.unprocessable (r.parts body) issues
    | .ok a =>
      let answer := tryCatch (operation d a) Response.ofFault
      if override.isSome then Session.apart answer else answer

/-- Runs an operation on the body of a request.  A body that is no JSON at all is reported alone. -/
def withBody {α : Type} (r : Incoming) (check : Flaw → Check α)
    (operation : Datasource → α → Session Response) : Session Response := do
  match r.json with
  | .error (.flawed e) =>
    let flaw := Flaw.badJson e.flaw.message
    Response.unprocessable (r.parts (some (.obj []))) [⟨[.name "body", .index e.index], flaw⟩]
  | .error _ => Response.unreadable
  | .ok value => s.withDatasource r value (r.checkBody check value) operation

/-- Checks the parameter that names a field. -/
def checkKey (r : Incoming) : Checked String :=
  Checked.under (.name "query") <| Checked.under (.name "key") <|
    match r.parameter? "key" with
    | none => .fail .missing
    | some key => if key.isEmpty then .fail (.textTooShort 1) else .ok key

/-- The number of searches of a kind so far. -/
def searches (kind : SearchKind) : Session Json := do
  return .float (.ofInt ((← get).events.count (.search kind)))

/-- Answers a request to an endpoint. -/
def serve (endpoint : Endpoint) (r : Incoming) : Session Response :=
  match endpoint with
  | .query => s.withBody r BatchRequest.check fun d request => do
    Response.ofResult (PanelResult.responseJson (← d.query request))
  | .find => s.withBody r LookupRequest.check fun d request => do
    match ← tryCatch (Except.ok <$> d.find request) (pure ∘ Except.error) with
    | .ok found => Response.ofResult found.toJson
    | .error fault => Response.ofLookupFault fault
  | .fields =>
    s.withDatasource r none (.ok (Json.ofText? (r.parameter? "type"))) fun d kind => do
      Response.ofResult (Findings.fields (← d.fields kind)).toJson
  | .tagKeys => s.withDatasource r none (.ok ()) fun d _ => do
    Response.ofResult (Findings.fields (← d.tagKeys)).toJson
  | .tagValues => s.withDatasource r none (checkKey r) fun d key => do
    Response.ofResult (Findings.terms (← d.tagValues (.str key))).toJson
  | .test => s.withDatasource r none (.ok ()) fun d _ => do
    Response.ofJson 200 (← d.test).toJson
  | .health => Response.ofJson 200 (.obj [("status", .str "ok")])
  | .counters => do
    Response.ofJson 200 (.obj [("status", .str "ok"), ("query_requests", ← searches .query),
      ("terms_requests", ← searches .terms)])
  | .config => Response.ofJson 200 (.obj [("es_url", .str s.config.url),
      ("index", .str s.config.index), ("es_version", .str s.config.version)])
  | .metrics => do return ⟨200, .text (Telemetry.exposition (← get).events)⟩

/-- Whether a path is that of an endpoint or a page but for slashes at its end. -/
def hasSpareSlash (path : String) : Bool :=
  path.endsWith "/" && path ≠ "/" && Endpoint.isKnownPath (Text.dropTrailing '/' path)

/-- Answers a request.  Methods are written in capitals. -/
def handle (r : Incoming) : Session Response :=
  match Endpoint.ofPath? r.path with
  | some endpoint =>
    if endpoint.method = r.method then s.serve endpoint r else Response.methodNotAllowed
  | none =>
    if Endpoint.pagePaths.contains r.path then
      if r.method = "GET" ∨ r.method = "HEAD" then return ⟨200, .text ""⟩
      else Response.methodNotAllowed
    else if hasSpareSlash r.path then return Response.elsewhere
    else Response.notFound

end Service

end ElasticPanels

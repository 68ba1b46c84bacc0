import ElasticPanels.Http.Reference
import ElasticPanels.Http.Status
import ElasticPanels.Session.Basic
import ElasticPanels.Text.Base64
import ElasticPanels.Text.Case

/-!
# Connections

A connection is the address of a search server with the credentials and cookies that go with each
request.  `Connection.send` sends one request, follows redirections, and gives the value in the
reply; a reply that is no success is a fault.  Cookies that replies set go with later requests,
unless the connection has cookies of its own.
-/

namespace ElasticPanels

/-- A search server and what it is told about the sender. -/
structure Connection where
  url : String
  username : Option String
  password : Option String
  cookies : Entries String
  deriving DecidableEq, Repr, Inhabited

/-- A successful reply: its status code, its value, and the address that was asked for. -/
structure Answer where
  code : Nat
  data : Json
  method : String
  url : String
  deriving Repr, Inhabited

/-- The fault of a text that is no address. -/
def Url.Flaw.fault : Url.Flaw → Fault
  | .unencodable gap => .unencodable gap
  | _ => .badUrl

/-- What a text is taken for as an address: one without a scheme and a host loses both. -/
def Url.taken (text : String) : Except Url.Flaw Url := do
  let url ← Url.parse text
  if url.isAbsolute then return url
  else
    Url.Parts.url {
      scheme := [], user := [], host := [], port := []
      path := '/' :: url.path.toList.dropWhile (· = '/')
      query := url.query.map String.toList
      fragment := none }

namespace Connection

/-- The address of the server, without slashes at its end. -/
def base (c : Connection) : String := Text.dropTrailing '/' c.url

/-- The address of a resource: one slash stands between the server and the path. -/
def address (c : Connection) (path : String) : String :=
  c.base ++ "/" ++ Text.dropLeading '/' path

/-- The header of basic authentication. -/
def basic (username password : String) : String :=
  let text := username ++ ":" ++ password
  "Basic " ++ .ofList (Text.Base64.encode (Text.Utf8.encode text.toList))

/-- The name and password of a connection that has both. -/
def credentials? (c : Connection) : Option (String × String) := do
  return (← c.username.filter (!·.isEmpty), ← c.password.filter (!·.isEmpty))

/-- The authorization of a request: that of the connection if it has both a name and a password,
else that of the address. -/
def authorization (c : Connection) (url : Url) : Option String :=
  (c.credentials?.orElse fun _ => url.credentials?).map fun (username, password) =>
    basic username password

/-- The cookies of the connection as one header. -/
def cookieHeader? (c : Connection) : Option String :=
  if c.cookies.isEmpty then none
  else some (String.intercalate "; " (c.cookies.map fun cookie => cookie.1 ++ "=" ++ cookie.2))

/-- Opens a connection, of which credentials are sent in UTF-8 and cookies in ASCII. -/
def check (c : Connection) : Outcome Unit := do
  if let some (username, password) := c.credentials? then
    Text.Encoding.utf8.require username
    Text.Encoding.utf8.require password
  if let some header := c.cookieHeader? then Text.Encoding.ascii.require header

/-- The address that is asked for a resource. -/
def target (c : Connection) (path : String) : Except Url.Flaw Url := Url.taken (c.address path)

/-- The content type and body of a request. -/
def encoded : Http.Content → Outcome (Option String × String)
  | .nothing => .ok (none, "")
  | .lines text => .ok (some "application/x-ndjson", text)
  | .json value =>
    if value.isFinite then do
      Text.Encoding.utf8.require value.compactText
      return (some "application/json", value.compactText)
    else .error .notFiniteOnWire

end Connection

namespace Session

/-- The cookies in the jar that go with a request to an address.  As soon as the jar holds any, the
address must have a scheme. -/
def jarHeader? (url : Url) : Session (Option String) := do
  let jar := (← get).jar
  if jar.isEmpty then return none
  if url.scheme.isEmpty then throw (.schemeless url.text)
  return jar.header? url

/-- The request for a resource.  Methods are written in capitals. -/
def prepare (c : Connection) (method path : String) (content : Http.Content) :
    Session Http.Request := do
  -- Of several flaws the one that is found first is the fault, so the order of the steps counts.
  if let .lines text := content then ofOutcome (Text.Encoding.utf8.require text)
  let url ← ofOutcome ((c.target path).mapError Url.Flaw.fault)
  let jarCookies ← jarHeader? url
  let (contentType, body) ← ofOutcome (Connection.encoded content)
  ofOutcome (Text.Encoding.ascii.require url.netloc)
  return {
    method := Text.upper method
    url
    contentType
    authorization := c.authorization url
    cookie := c.cookieHeader?.orElse fun _ => jarCookies
    body }

end Session

namespace Http

/-- The codes that ask the sender to go elsewhere. -/
def isRedirect (code : Nat) : Bool := [301, 302, 303, 307, 308].contains code

/-- The method of the next request after a redirection. -/
def redirectedMethod (code : Nat) (method : String) : String :=
  if (code = 302 ∨ code = 303) ∧ method ≠ "HEAD" then "GET"
  else if code = 301 ∧ method = "POST" then "GET"
  else method

/-- The next request after a redirection to `url`.  The authorization stays with its origin, and of
the cookies only those of the jar are sent on. -/
def redirected (r : Request) (code : Nat) (url : Url) (cookie : Option String) : Request :=
  let method := redirectedMethod code r.method
  { method, url, contentType := r.contentType
    authorization := if r.url.sameOrigin url || r.url.isSecured url then r.authorization else none
    cookie
    body := if method ≠ r.method ∧ method = "GET" then "" else r.body }

end Http

namespace Session

/-- The address that a location leads to. -/
def locate (origin : Url) (location : String) : Session Url :=
  match Url.parse location with
  | .ok u => ofOutcome ((origin.redirect u).mapError Url.Flaw.fault)
  | .error flaw =>
    throw (.unreachable .protocol ("Invalid URL in location header: " ++ flaw.message ++ "."))

/-- The number of requests that one operation may send because of redirections. -/
def hopLimit : Nat := 21

/-- Sends a request and follows redirections; gives the last address and the reply from there.  A
reply is of no use if the address of its request has no scheme, because its cookies belong nowhere;
that such a request is answered at all is due to the scripted transport. -/
def follow : Nat → Http.Request → Session (Url × Http.Reply)
  | 0, _ => throw (.unreachable .tooManyRedirects "Exceeded maximum allowed redirects.")
  | hops + 1, request => do
    let reply ← transmit request
    if request.url.scheme.isEmpty then throw (.schemeless request.url.text)
    -- Every reply may set cookies, also one that redirects or that is no success.
    modify fun j => { j with jar := j.jar.receive j.now request.url reply }
    match if Http.isRedirect reply.code then reply.header? "location" else none with
    | some location =>
      let url ← locate request.url location
      follow hops (Http.redirected request reply.code url (← jarHeader? url))
    | none => return (request.url, reply)

end Session

/-- Sends one request over a connection. -/
def Connection.send (c : Connection) (method path : String) (content : Http.Content) :
    Session Answer := do
  let request ← Session.prepare c method path content
  let (url, reply) ← Session.follow Session.hopLimit request
  if !Http.isSuccess reply.code then throw (.rejected ⟨reply.code, url.text, reply.body⟩)
  let data ← Session.ofOutcome ((Json.readBody reply.body).mapError Json.ReadError.fault)
  return ⟨reply.code, data, method, c.address path⟩

end ElasticPanels

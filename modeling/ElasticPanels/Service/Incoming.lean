import ElasticPanels.Json.Reader
import ElasticPanels.Service.Config
import ElasticPanels.Service.Cookies
import ElasticPanels.Text.Percent
import ElasticPanels.Validation.Checked

/-!
# Requests to the service

An `Incoming` request names its target by path and query.  Its body must be declared as JSON to be
read as such.  Its headers may name a server to be asked in place of the configured one, with
credentials of its own, and ask for the cookies to be passed on.  Headers and queries are read byte
by byte, so a character beyond ASCII counts as the characters of its bytes.
-/

namespace ElasticPanels

/-- A request to the service. -/
structure Incoming where
  method : String
  target : String
  headers : List (String × String)
  body : String
  deriving DecidableEq, Repr, Inhabited

namespace Incoming

/-- A text with a character for each of its bytes. -/
def byBytes (s : String) : String :=
  .ofList ((Text.Utf8.encode s.toList).map fun b => .ofNat b.toNat)

/-- The value of a header; case does not matter in its name. -/
def header? (r : Incoming) (name : String) : Option String :=
  (r.headers.find? fun h => Text.lowerAscii h.1 == name).map fun h => byBytes h.2

/-! ## Target -/

/-- The path, decoded. -/
def path (r : Incoming) : String :=
  .ofList (Text.Percent.decode (r.target.toList.takeWhile (· ≠ '?')))

/-- The query as it is given. -/
def query (r : Incoming) : List Char :=
  (byBytes r.target).toList.dropWhile (· ≠ '?') |>.drop 1

/-- A part of a query as the text it stands for. -/
def decodePart (cs : List Char) : String :=
  .ofList (Text.Percent.decode (cs.map fun c => if c = '+' then ' ' else c))

/-- The parameters of the query; one without an equals sign has an empty value. -/
def parameters (r : Incoming) : List (String × String) :=
  let parts := Text.splitAt '&' r.query
  (parts.filter (!·.isEmpty)).map fun part =>
    (decodePart (part.takeWhile (· ≠ '=')), decodePart ((part.dropWhile (· ≠ '=')).drop 1))

/-- The value of a parameter; the last one counts. -/
def parameter? (r : Incoming) (name : String) : Option String := r.parameters.reverse.lookup name

/-! ## Body -/

/-- Whether a content type is that of JSON or of a format based on it. -/
def isJsonType (contentType : String) : Bool :=
  let essence := Text.trimBoth Text.isBlank (contentType.toList.takeWhile (· ≠ ';'))
  match Text.splitAt '/' (essence.map Char.toLower) with
  | [type, subtype] =>
    type == "application".toList &&
      (subtype == "json".toList || "+json".toList.isSuffixOf subtype)
  | _ => false

/-- The body as JSON, if it is declared as such; `none` if there is none or it is of another
kind. -/
def json (r : Incoming) : Except Json.ReadError (Option Json) :=
  if !r.body.isEmpty && (r.header? "content-type").any isJsonType then some <$> Json.readBody r.body
  else .ok none

/-- Checks the value of the body. -/
def checkBody {α : Type} (r : Incoming) (check : Flaw → Check α) (value : Option Json) :
    Checked α :=
  Checked.under (.name "body") <|
    if r.body.isEmpty then .fail .missing
    else
      match value with
      | some value => check .notAttributes value
      | none => .fail .notAttributes

/-- The parts of a request that issues may be found in, with the value of its body. -/
def parts (r : Incoming) (body : Option Json) : Json :=
  .obj [
    ("header", .obj (r.headers.map fun h => (Text.lowerAscii h.1, .str (byBytes h.2)))),
    ("query", .obj (r.parameters.map fun p => (p.1, .str p.2))),
    ("body", body.getD .null)]

/-! ## Connection -/

/-- Whether the cookies are to be passed on. -/
def forwardsCookies (r : Incoming) : Checked Bool :=
  match r.header? "x-es-forward-cookies" with
  | some value =>
    Checked.under (.name "header") (Checked.under (.name "x-es-forward-cookies")
      (Check.bool (.str value)))
  | none => .ok false

/-- The connection that the headers ask for, if any. -/
def override (r : Incoming) : Checked (Option Connection) :=
  r.forwardsCookies.map fun forwards =>
    ((r.header? "x-es-url").filter (!·.isEmpty)).map fun url =>
      { url := Text.dropTrailing '/' url
        username := r.header? "x-es-user"
        password := r.header? "x-es-pass"
        cookies := if forwards then Cookies.parse ((r.header? "cookie").getD "") else [] }

end Incoming

end ElasticPanels

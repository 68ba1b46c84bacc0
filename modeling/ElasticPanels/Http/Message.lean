import ElasticPanels.Http.Url
import ElasticPanels.Json.Basic
import ElasticPanels.Text.Classes

/-!
# Messages

A request as it leaves for the search server, and what may come back: a reply, or a failure
without one.
-/

namespace ElasticPanels.Http

/-- A request. -/
structure Request where
  method : String
  url : Url
  contentType : Option String
  authorization : Option String
  cookie : Option String
  body : String
  deriving Repr, Inhabited

/-- A reply: its status code, its headers, and its body. -/
structure Reply where
  code : Nat
  headers : List (String × String)
  body : String
  deriving DecidableEq, Repr, Inhabited

/-- All values of a header, in order; case does not matter in its name. -/
def Reply.values (r : Reply) (name : String) : List String :=
  (r.headers.filter fun h => Text.lowerAscii h.1 == name).map Prod.snd

/-- The value of a header, with commas between several. -/
def Reply.header? (r : Reply) (name : String) : Option String :=
  match r.values name with
  | [] => none
  | found => some (String.intercalate ", " found)

/-- The codings that a reply says its body is in. -/
def Reply.codings (r : Reply) : List String :=
  (r.values "content-encoding").flatMap fun value =>
    (Text.splitAt ',' value.toList).map fun name =>
      Text.lowerAscii (.ofList (Text.trimBoth Text.isBlank name))

/-- What is said of a body that does not come out of a coding; `none` for names that are not known,
which change nothing. -/
def complaint? (coding : String) : Option String :=
  match coding with
  | "gzip" => some "Error -3 while decompressing data: incorrect header check"
  | "deflate" => some "Error -3 while decompressing data: invalid distance too far back"
  | _ => none

/-- The reply once its body is out of its codings, of which the last is undone first.

Bodies here are texts, so they do not come out: no text begins with the mark of a gzip stream, and
most objects of JSON, taken for a deflate stream, repeat what would stand before its beginning.  A
single byte does not tell yet, and gives nothing.  That other texts fail as deflate streams in other
ways, and that a few are such streams by chance, is left out. -/
def Reply.unpack (r : Reply) : Except String Reply :=
  match r.codings.reverse.findSome? complaint? with
  | none => .ok r
  | some complaint =>
    if r.body.utf8ByteSize < 2 then .ok { r with body := "" } else .error complaint

/-- What a request carries. -/
inductive Content
  | nothing
  | lines (text : String)
  | json (value : Json)
  deriving Repr, Inhabited

end ElasticPanels.Http

import ElasticPanels.Http.CookieDate
import ElasticPanels.Text.Cut

/-!
# Cookies that replies set

A reply sets a cookie by a header that names it and then lists attributes.  `SetCookie.readAll`
reads the headers of one reply.  A cookie with an unusable attribute is left out; two mistakes cost
the reply all of its cookies: a lifetime without a value, and a standard date with a month that does
not exist.
-/

namespace ElasticPanels.Http

/-- The ports that a cookie is bound to: any, that of the request, or those of a list. -/
inductive PortRule
  | any
  | same
  | listed (ports : String)
  deriving DecidableEq, Repr

/-- A cookie as a reply sets it.  It may have no value at all, and it may end at once. -/
structure SetCookie where
  name : String
  value : Option String
  version : Int
  domain : Option String
  path : Option String
  port : PortRule
  secure : Bool
  ends : Option Int
  deriving DecidableEq, Repr

namespace SetCookie

/-- Why the headers of a reply set no cookie at all. -/
inductive Flaw
  | badMonth
  | noLifetime
  deriving DecidableEq, Repr

/-- An attribute by its name, in small letters, and its value, if it has one. -/
abbrev Attribute := String × Option String

/-- A text without a quotation mark at either end. -/
def unquote (cs : List Char) : List Char :=
  let cs := if cs.head? = some '"' then cs.drop 1 else cs
  if cs.getLast? = some '"' then cs.dropLast else cs

/-- A name and perhaps a value, divided by the first equals sign. -/
def pair (param : List Char) : String × Option String :=
  let trim (cs : List Char) : String := .ofList (Text.trimBoth Text.isBlank cs)
  match Text.cut? '=' param with
  | some (name, value) => (trim name, some (trim value))
  | none => (trim param, none)

/-- The cookie and the attributes of a header; one that begins with no name sets nothing. -/
def split? (header : String) : Option ((String × Option String) × List Attribute) :=
  match (Text.splitAt ';' header.toList).map pair with
  | first :: rest =>
    if first.1.isEmpty then none
    else
      let named := rest.filter (!·.1.isEmpty)
      some (first, named.map fun (name, value) => (Text.lowerAscii name, value))
  | [] => none

/-- The date that the attribute of that name gives. -/
def date (now : Int) (value : Option String) : CookieDate.Reading :=
  value.elim .unreadable fun v => CookieDate.read now (unquote v.toList)

/-- What the attributes of a cookie say so far. -/
structure Draft where
  version : Option String
  domain : Option String
  path : Option String
  port : Option PortRule
  secure : Option Bool
  ends : Option Int
  deriving DecidableEq, Repr

/-- A cookie without attributes. -/
def Draft.empty : Draft := ⟨none, none, none, none, none, none⟩

/-- What one more attribute says; `none` if it makes the cookie unusable.  Of a repeated attribute
the first counts, but of lifetimes the last, which counts more than a date. -/
def Draft.add (now : Int) (d : Draft) : Attribute → Except Flaw (Option Draft)
  | ("version", value) =>
    .ok (if d.version.isSome then some d
      else value.map fun v => { d with version := some (.ofList (unquote v.toList)) })
  | ("domain", value) =>
    .ok (if d.domain.isSome then some d
      else value.map fun v => { d with domain := some (Text.lowerAscii v) })
  | ("path", value) =>
    .ok (if d.path.isSome then some d else value.map fun v => { d with path := some v })
  | ("port", value) =>
    .ok (some { d with port := d.port.orElse fun _ => some (value.elim .same .listed) })
  | ("secure", value) =>
    .ok (some { d with secure := d.secure.orElse fun _ => some (value.all (!·.isEmpty)) })
  | ("expires", value) =>
    .ok (some (match date now value with
      | .time t => { d with ends := d.ends.orElse fun _ => some t }
      | _ => d))
  | ("max-age", none) => .error .noLifetime
  | ("max-age", some v) =>
    .ok (match Numeral.readWhole v with
      | .ok n => some { d with ends := some (now + n) }
      | .error _ => none)
  | _ => .ok (some d)

/-- What a list of attributes says; those after an unusable one do not matter. -/
def Draft.addAll (now : Int) (d : Draft) : List Attribute → Except Flaw (Option Draft)
  | [] => .ok (some d)
  | first :: rest => do
    match ← d.add now first with
    | some d => d.addAll now rest
    | none => return none

/-- The cookie that a draft describes, if its version is a number; without one the version is
zero. -/
def Draft.cookie? (d : Draft) (name : String) (value : Option String) : Option SetCookie := do
  let version ← (Numeral.readWhole (d.version.getD "0")).toOption
  return {
    name, value, version
    domain := d.domain
    path := d.path
    port := d.port.getD .any
    secure := d.secure.getD false
    ends := d.ends }

/-- Reads the headers of one reply at the time `now`. -/
def readAll (now : Int) (headers : List String) : Except Flaw (List SetCookie) := do
  let found := headers.filterMap split?
  -- All dates are read before any cookie is made, also those behind an unusable attribute.
  let dates := found.flatMap fun (_, attributes) =>
    (attributes.filter (·.1 = "expires")).map fun a => date now a.2
  if dates.contains .badMonth then throw .badMonth
  let cookies ← found.mapM fun ((name, value), attributes) => do
    let draft ← Draft.empty.addAll now attributes
    return draft.bind (·.cookie? name value)
  return cookies.filterMap id

end SetCookie

end ElasticPanels.Http

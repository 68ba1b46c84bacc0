import ElasticPanels.Http.HostLabel
import ElasticPanels.Http.IpAddress
import ElasticPanels.Number.Numeral
import ElasticPanels.Text.Encoding

/-!
# Addresses of resources

`Url.parse` splits a text into the components of an address and brings them into normal form:
scheme and host in small letters, no port where it is the usual one of the scheme, no dot segments
in the path, and every character outside the set of its component percent-encoded.  What cannot be
an address is refused, and `Url.Flaw.message` says why.
-/

namespace ElasticPanels

/-- An address by its components. -/
structure Url where
  scheme : String
  userinfo : String
  host : String
  port : Option Int
  path : String
  query : Option String
  fragment : Option String
  deriving DecidableEq, Repr, Inhabited

namespace Url

/-- Why a text is no address. -/
inductive Flaw
  | tooLong
  | unprintable (c : Char) (index : Nat)
  | badIpv4 (host : String)
  | badIpv6 (host : String)
  | badName (host : String)
  | badPort (port : String)
  | unrooted
  | doubleSlash
  | leadingColon
  | unencodable (gap : Text.Gap)
  deriving DecidableEq, Repr

/-- The wording of a flaw. -/
def Flaw.message : Flaw → String
  | tooLong => "URL too long"
  | unprintable c index =>
    "Invalid non-printable ASCII character in URL, " ++ Text.quoted (.singleton c) ++
      " at position " ++ toString index ++ "."
  | badIpv4 host => "Invalid IPv4 address: " ++ Text.quoted host
  | badIpv6 host => "Invalid IPv6 address: " ++ Text.quoted host
  | badName host => "Invalid IDNA hostname: " ++ Text.quoted host
  | badPort port => "Invalid port: " ++ Text.quoted port
  | unrooted => "For absolute URLs, path must be empty or begin with '/'"
  | doubleSlash => "Relative URLs cannot have a path starting with '//'"
  | leadingColon => "Relative URLs cannot have a path starting with ':'"
  | unencodable gap => gap.message

/-! ## Character sets -/

/-- Whether a printable ASCII character is outside the given list of others. -/
def asciiExcept (excluded : String) (c : Char) : Bool :=
  '!' ≤ c && c ≤ '~' && !excluded.toList.contains c

/-- The characters that stand for themselves in a path. -/
def isPathChar : Char → Bool := asciiExcept "\"#<>?`\x7b\x7d"

/-- The characters that stand for themselves in a query. -/
def isQueryChar : Char → Bool := asciiExcept "\"#<>"

/-- The characters that stand for themselves in a fragment. -/
def isFragmentChar : Char → Bool := asciiExcept "\"<>`"

/-- The characters that stand for themselves in a user name or password. -/
def isUserChar : Char → Bool := asciiExcept "\"#<>?`\x7b\x7d/;=@[\\]^|"

/-- The characters that stand for themselves in a host. -/
def isHostChar (c : Char) : Bool :=
  c.isAlphanum || "-._~!$&'()*+,;=\"`\x7b\x7d%|\\".toList.contains c

/-- The text with every character outside a set percent-encoded, unless UTF-8 lacks one. -/
def escaped (safe : Char → Bool) (cs : List Char) : Except Flaw String :=
  match cs.find? Text.isStandIn with
  | some c => .error (.unencodable ⟨.utf8, c, 0, 1⟩)
  | none => .ok (.ofList (Text.Percent.encode safe cs))

/-! ## Splitting -/

/-- The components of an address as they are given; the host may be in brackets. -/
structure Parts where
  scheme : List Char
  user : List Char
  host : List Char
  port : List Char
  path : List Char
  query : Option (List Char)
  fragment : Option (List Char)
  deriving DecidableEq, Repr

/-- Splits off a scheme, which begins with a letter, and the colon after it. -/
def splitScheme (cs : List Char) : List Char × List Char :=
  let scheme := cs.takeWhile fun c => c.isAlphanum || c == '+' || c == '.' || c == '-'
  match cs.drop scheme.length with
  | ':' :: rest => if scheme.head?.all Char.isAlpha then (scheme, rest) else ([], cs)
  | _ => ([], cs)

/-- Splits off what stands before the last `@`. -/
def splitUser (cs : List Char) : List Char × List Char :=
  if cs.contains '@' then
    let after := (cs.reverse.takeWhile (· ≠ '@')).reverse
    (cs.take (cs.length - after.length - 1), after)
  else ([], cs)

/-- Splits host and port.  A host in brackets may hold colons. -/
def splitHost (cs : List Char) : List Char × List Char :=
  let size :=
    if cs.head? = some '[' ∧ cs.contains ']' then
      cs.length - (cs.reverse.takeWhile (· ≠ ']')).length
    else (cs.takeWhile fun c => c ≠ ':' && c ≠ '@').length
  match cs.drop size with
  | ':' :: port => (cs.take size, port)
  | rest => (cs.take size, rest)

/-- The components of a text. -/
def Parts.ofText (cs : List Char) : Parts :=
  let (scheme, rest) := splitScheme cs
  let (authority, rest) := match rest with
    | '/' :: '/' :: rest => Text.upTo ['/', '?', '#'] rest
    | _ => ([], rest)
  let (user, authority) := splitUser authority
  let (host, port) := splitHost authority
  let (path, rest) := Text.upTo ['?', '#'] rest
  let (query, rest) := match rest with
    | '?' :: rest => let (query, rest) := Text.upTo ['#'] rest; (some query, rest)
    | _ => (none, rest)
  let fragment := match rest with
    | '#' :: fragment => some fragment
    | _ => none
  { scheme, user, host, port, path, query, fragment }

/-! ## Normal form -/

/-- Takes the dot segments out of a list of segments; `done` are those before it, the last first.
Nothing is left of the empty segment that begins a path. -/
def resolveDots (done : List (List Char)) : List (List Char) → List (List Char)
  | [] => done.reverse
  | segment :: rest =>
    if segment = ['.'] then resolveDots done rest
    else if segment = ['.', '.'] then
      resolveDots (if done = [[]] then done else done.drop 1) rest
    else resolveDots (segment :: done) rest

/-- The path without dot segments. -/
def normalPath (path : List Char) : List Char :=
  ['/'].intercalate (resolveDots [] (Text.splitAt '/' path))

/-- The host in normal form: an address by numbers, a name in small letters, or the ASCII form of a
name beyond ASCII. -/
def normalHost (host : List Char) : Except Flaw String :=
  if Http.looksNumeric host then
    if Http.isIpv4 host then .ok (.ofList host) else .error (.badIpv4 (.ofList host))
  else if host.head? = some '[' ∧ host.getLast? = some ']' then
    let inside := (host.drop 1).dropLast
    if Http.isIpv6 inside then .ok (.ofList inside) else .error (.badIpv6 (.ofList host))
  else if host.all (·.toNat < 128) then
    .ok (.ofList (Text.Percent.encode isHostChar (host.map Char.toLower)))
  else match Http.encodeHost? (Text.lower host) with
    | some name => .ok (.ofList name)
    | none => .error (.badName (.ofList host))

/-- The usual port of a scheme. -/
def usualPort? (scheme : String) : Option Int :=
  [("ftp", 21), ("http", 80), ("https", 443), ("ws", 80), ("wss", 443)].lookup scheme

/-- The port, unless it is the usual one of the scheme as it is given. -/
def normalPort (scheme port : List Char) : Except Flaw (Option Int) :=
  if port.isEmpty then .ok none
  else match Numeral.readWhole (.ofList port) with
    | .ok n => .ok (if usualPort? (.ofList scheme) = some n then none else some n)
    | .error _ => .error (.badPort (.ofList port))

/-- The path of an address that has a scheme or a host, or of one that has neither. -/
def checkPath (hasScheme hasAuthority : Bool) (path : List Char) : Except Flaw Unit :=
  if hasAuthority && path.head?.any (· ≠ '/') then .error .unrooted
  else if !hasScheme && !hasAuthority && ['/', '/'].isPrefixOf path then .error .doubleSlash
  else if !hasScheme && !hasAuthority && path.head? = some ':' then .error .leadingColon
  else .ok ()

/-- The address in normal form. -/
def Parts.normal (p : Parts) : Except Flaw Url := do
  let userinfo ← escaped isUserChar p.user
  let host ← normalHost p.host
  let port ← normalPort p.scheme p.port
  -- A port that is left out because it is the usual one makes no authority.
  let hasScheme := !p.scheme.isEmpty
  let hasAuthority := !userinfo.isEmpty || !host.isEmpty || port.isSome
  checkPath hasScheme hasAuthority p.path
  let path ← escaped isPathChar
    (if hasScheme || hasAuthority then normalPath p.path else p.path)
  let query ← p.query.mapM (escaped isQueryChar)
  let fragment ← p.fragment.mapM (escaped isFragmentChar)
  return {
    scheme := .ofList (p.scheme.map Char.toLower)
    userinfo, host, port, path, query, fragment }

/-- The most characters that an address may have. -/
def sizeLimit : Nat := 65536

/-- Whether a character is an ASCII one that cannot be printed. -/
def isUnprintable (c : Char) : Bool := c.toNat < 0x20 || c.toNat = 0x7f

/-- A text that is not too long and can be printed. -/
def checkText (cs : List Char) : Except Flaw Unit :=
  if sizeLimit < cs.length then .error .tooLong
  else match cs.find? isUnprintable with
    | some c => .error (.unprintable c (cs.takeWhile (!isUnprintable ·)).length)
    | none => .ok ()

/-- Reads an address. -/
def parse (s : String) : Except Flaw Url := do
  checkText s.toList
  (Parts.ofText s.toList).normal

/-! ## Writing -/

/-- The host, in brackets if it holds colons. -/
def hostText (u : Url) : String :=
  if u.host.toList.contains ':' then "[" ++ u.host ++ "]" else u.host

/-- Host and port. -/
def netloc (u : Url) : String :=
  u.hostText ++
    match u.port with
    | some port => ":" ++ toString port
    | none => ""

/-- User, host and port. -/
def authority (u : Url) : String :=
  (if u.userinfo.isEmpty then "" else u.userinfo ++ "@") ++ u.netloc

/-- The address as text. -/
def text (u : Url) : String :=
  (if u.scheme.isEmpty then "" else u.scheme ++ ":") ++
    (if u.authority.isEmpty then "" else "//" ++ u.authority) ++ u.path ++
    ((u.query.map ("?" ++ ·)).getD "") ++ ((u.fragment.map ("#" ++ ·)).getD "")

/-! ## Changing a component -/

/-- The components of an address. -/
def toParts (u : Url) : Parts where
  scheme := u.scheme.toList
  user := u.userinfo.toList
  host := u.hostText.toList
  port := (u.port.map fun port => (toString port).toList).getD []
  path := u.path.toList
  query := u.query.map String.toList
  fragment := u.fragment.map String.toList

/-- The address that changed components make. -/
def Parts.url (p : Parts) : Except Flaw Url := do
  checkText p.path
  checkText (p.query.getD [])
  checkText (p.fragment.getD [])
  p.normal

/-! ## Relations between addresses -/

/-- An address that names both scheme and host. -/
def isAbsolute (u : Url) : Bool := !u.scheme.isEmpty && !u.host.isEmpty

/-- The port, be it the usual one. -/
def effectivePort? (u : Url) : Option Int :=
  u.port.orElse fun _ => [("http", 80), ("https", 443)].lookup u.scheme

/-- Two addresses of one origin. -/
def sameOrigin (u v : Url) : Bool :=
  u.scheme = v.scheme && u.host = v.host && u.effectivePort? = v.effectivePort?

/-- The second address is that of the same host on its usual secure port. -/
def isSecured (u v : Url) : Bool :=
  u.host = v.host && u.scheme = "http" && u.effectivePort? = some 80 && v.scheme = "https" &&
    v.effectivePort? = some 443

/-! ## Credentials -/

/-- User name and password of an address, if it has any. -/
def credentials? (u : Url) : Option (String × String) :=
  let (user, password) := Text.upTo [':'] u.userinfo.toList
  let user := Text.Percent.decode user
  let password := Text.Percent.decode (password.drop 1)
  if user.isEmpty && password.isEmpty then none else some (.ofList user, .ofList password)

end Url

end ElasticPanels

import ElasticPanels.Http.Message
import ElasticPanels.Http.SetCookie

/-!
# Cookie jars

A jar keeps the cookies that replies have set, by domain, path and name.  `CookieJar.receive` takes
up those of a reply, as far as they may be set by its sender, and `CookieJar.header?` gives those
that go with a request: the ones whose domain, path, port and protocol fit, longer paths first.
-/

namespace ElasticPanels.Http

open Text

/-- A cookie in a jar; its path and domain are those it is kept under. -/
structure Cookie where
  value : Option String
  version : Int
  ports : Option String
  secure : Bool
  deriving DecidableEq, Repr, Inhabited

/-- The cookies by domain, path and name. -/
structure CookieJar where
  domains : Entries (Entries (Entries Cookie))
  deriving Repr, Inhabited

/-! ## The sender of a reply -/

/-- The host of a request as cookies see it: with the user, without the port. -/
def cookieHost (u : Url) : List Char :=
  let authority := u.authority.toList.map Char.toLower
  let port := (authority.reverse.takeWhile Char.isDigit).length
  match authority.reverse.drop port with
  | ':' :: before => if port = 0 then authority else before.reverse
  | _ => authority

/-- The host of a request with a domain: a host without a point is in the domain `.local`. -/
def domainHost (u : Url) : List Char :=
  let host := cookieHost u
  if host.contains '.' then host else host ++ ".local".toList

/-- The characters that stand for themselves in the path of a cookie. -/
def isCookiePathChar (c : Char) : Bool :=
  c.isAlphanum || "_.-~%/;:@&=+$,!*'()".toList.contains c

/-- A path as it is kept, with escapes in capitals. -/
def capitalEscapes : List Char → List Char
  | '%' :: a :: b :: rest =>
    if (Percent.byte? a b).isSome then '%' :: a.toUpper :: b.toUpper :: capitalEscapes rest
    else '%' :: capitalEscapes (a :: b :: rest)
  | c :: rest => c :: capitalEscapes rest
  | [] => []

/-- A path as it is compared. -/
def cookiePath (path : List Char) : List Char :=
  capitalEscapes (Percent.encode isCookiePathChar path)

/-- The path of a request. -/
def requestPath (u : Url) : List Char :=
  let path := cookiePath u.path.toList
  if path.head? = some '/' then path else '/' :: path

/-- The port of a request as its address gives it; without one it is 80, and there is none where
what stands behind the first colon is no number. -/
def requestPort? (u : Url) : Option String :=
  match cut? ':' (Percent.decode u.authority.toList) with
  | none => some "80"
  | some (_, port) =>
    if (Numeral.readWhole (.ofList port)).toOption.isSome then some (.ofList port) else none

/-! ## Setting cookies -/

/-- A text with a point at its start. -/
def dotted (domain : List Char) : List Char :=
  if domain.head? = some '.' then domain else '.' :: domain

/-- Whether a host may set a cookie for a domain, which begins with a point. -/
def maySetDomain (host domain : List Char) (version : Int) : Bool :=
  let bare := domain.drop 1
  (bare.contains '.' || ".local".toList.isSuffixOf host) &&
    (version ≠ 0 || domain.isSuffixOf host || (bare ++ ".local".toList).isSuffixOf host ||
      host.head? = some '.' || domain.isSuffixOf ('.' :: host))

/-- Whether a list of ports, each a number, holds that of the request; those behind it do not
matter. -/
def listsPort (port : List Char) : List (List Char) → Bool
  | [] => false
  | p :: rest =>
    (Numeral.readWhole (.ofList p)).toOption.isSome && (p = port || listsPort port rest)

/-- The path of a cookie that names none: that of the request up to the last slash. -/
def defaultPath (u : Url) (version : Int) : List Char :=
  let path := requestPath u
  let size := path.length - (path.reverse.takeWhile (· ≠ '/')).length
  let path := path.take (if version = 0 then size - 1 else size)
  if path.isEmpty then ['/'] else path

namespace CookieJar

/-- The empty jar. -/
def empty : CookieJar := ⟨[]⟩

/-- Whether the jar holds no cookie. -/
def isEmpty (jar : CookieJar) : Bool := jar.domains.all fun d => d.2.all (·.2.isEmpty)

/-- Puts a cookie into the jar, in the place of one of the same domain, path and name. -/
def put (jar : CookieJar) (domain path name : String) (cookie : Cookie) : CookieJar :=
  let paths := (jar.domains.get? domain).getD []
  let names := (paths.get? path).getD []
  ⟨jar.domains.put domain (paths.put path (names.put name cookie))⟩

/-- Takes a cookie out of the jar.  Its domain and path keep their places. -/
def erase (jar : CookieJar) (domain path name : String) : CookieJar :=
  match jar.domains.get? domain with
  | none => jar
  | some paths => match paths.get? path with
    | none => jar
    | some names => ⟨jar.domains.put domain (paths.put path (names.filter (·.1 ≠ name)))⟩

/-- The domain and path that a cookie is kept under, and the cookie. -/
def placed (u : Url) (c : SetCookie) : List Char × List Char × Cookie :=
  let domain := c.domain.elim (domainHost u) fun d => dotted d.toList
  let path := match c.path.filter (!·.isEmpty) with
    | some path => cookiePath path.toList
    | none => defaultPath u c.version
  let ports := match c.port with
    | .any => none
    | .same => requestPort? u
    | .listed ports => some (.ofList (ports.toList.filter (!isBlank ·)))
  (domain, path, ⟨c.value, if c.version = 1 then 0 else c.version, ports, c.secure⟩)

/-- Whether the sender of a reply may set the cookie.  Cookies of later versions are not taken. -/
def accepts (u : Url) (c : SetCookie) (domain : List Char) (cookie : Cookie) : Bool :=
  cookie.version ≤ 0 &&
    (c.domain.isNone || maySetDomain (domainHost u) domain cookie.version) &&
    match c.port, cookie.ports with
    | .listed _, some ports =>
      listsPort ((requestPort? u).getD "80").toList (splitAt ',' ports.toList)
    | _, _ => true

/-- A cookie that has ended is taken out at once. -/
def dropEnded (now : Int) (u : Url) (jar : CookieJar) (c : SetCookie) : CookieJar :=
  if c.ends.any (· ≤ now) then
    let (domain, path, _) := placed u c
    jar.erase (.ofList domain) (.ofList path) c.name
  else jar

/-- A cookie that has not ended is put in if its sender may set it. -/
def keepLasting (now : Int) (u : Url) (jar : CookieJar) (c : SetCookie) : CookieJar :=
  let (domain, path, cookie) := placed u c
  if c.ends.all (now < ·) && accepts u c domain cookie then
    jar.put (.ofList domain) (.ofList path) c.name cookie
  else jar

/-- Takes up the cookies of a reply: first go those that have ended, then come the others. -/
def receive (now : Int) (jar : CookieJar) (u : Url) (reply : Reply) : CookieJar :=
  match SetCookie.readAll now (reply.values "set-cookie") with
  | .ok cookies => cookies.foldl (keepLasting now u) (cookies.foldl (dropEnded now u) jar)
  | .error _ => jar

/-! ## Sending cookies -/

/-- Whether cookies of a domain go to a host. -/
def sendsTo (host : List Char) (domain : String) : Bool :=
  domain.isEmpty || (dotted domain.toList).isSuffixOf (dotted host)

/-- Whether cookies of a path go with a request to another. -/
def coversPath (requested : List Char) (path : String) : Bool :=
  let path := path.toList
  requested = path || (path.isPrefixOf requested &&
    (path.getLast? = some '/' || (requested.drop path.length).head? = some '/'))

/-- Whether a cookie goes with a request as for its protocol, port and domain. -/
def goesWith (u : Url) (domain : String) (cookie : Cookie) : Bool :=
  (!cookie.secure || u.scheme = "https" || u.scheme = "wss") &&
    (cookie.ports.filter (!·.isEmpty)).all (fun ports =>
      (splitAt ',' ports.toList).contains ((requestPort? u).getD "80").toList) &&
    (cookie.version ≠ 0 || domain.isEmpty ||
      (dotted domain.toList).isSuffixOf ('.' :: domainHost u))

/-- The cookies that go with a request, each with its path and name. -/
def matching (jar : CookieJar) (u : Url) : List (String × String × Cookie) :=
  let fitting := jar.domains.filter fun (domain, _) =>
    sendsTo (cookieHost u) domain || sendsTo (domainHost u) domain
  fitting.flatMap fun (domain, paths) =>
    (paths.filter fun (path, _) => coversPath (requestPath u) path).flatMap fun (path, names) =>
      (names.filter fun (_, cookie) => goesWith u domain cookie).map fun (name, cookie) =>
        (path, name, cookie)

/-- The header of the cookies that go with a request, if there are any. -/
def header? (jar : CookieJar) (u : Url) : Option String :=
  -- The sort is stable: among paths of one length the order of the jar is kept.
  let found := (jar.matching u).mergeSort fun a b => b.1.length ≤ a.1.length
  if found.isEmpty then none
  else some (String.intercalate "; " (found.map fun (_, name, cookie) =>
    cookie.value.elim name fun value => name ++ "=" ++ value))

end CookieJar

end ElasticPanels.Http

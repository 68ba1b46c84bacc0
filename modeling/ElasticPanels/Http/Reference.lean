import ElasticPanels.Http.Url

/-!
# References

A reference is an address that may lack its first components.  `Url.join` resolves it against the
address that it was found at, and `Url.redirect` gives the address that a redirection leads to.
-/

namespace ElasticPanels.Url

/-- The schemes whose references are resolved by paths. -/
def hierarchicalSchemes : List String :=
  ["ftp", "http", "gopher", "nntp", "imap", "wais", "file", "https", "shttp", "mms", "prospero",
   "rtsp", "rtsps", "rtspu", "sftp", "svn", "svn+ssh", "ws", "wss"]

/-- The schemes among them whose last path segment has no parameters of its own. -/
def plainSchemes : List String := ["gopher", "nntp", "wais", "file", "svn", "svn+ssh", "ws", "wss"]

/-! ## Parameters of the last segment -/

/-- The path without the parameters of its last segment, and these. -/
def splitParameters (scheme : String) (path : List Char) : List Char × List Char :=
  let last := (path.reverse.takeWhile (· ≠ '/')).reverse
  match if plainSchemes.contains scheme then none else Text.cut? ';' last with
  | some (name, parameters) => (path.take (path.length - last.length) ++ name, parameters)
  | none => (path, [])

/-- The path with parameters behind its last segment. -/
def withParameters (path parameters : List Char) : List Char :=
  if parameters.isEmpty then path else path ++ ';' :: parameters

/-! ## Paths -/

/-- The segments of a reference path seen from the directory of a base path.  Empty segments
between the first and the last are dropped. -/
def joinedSegments (base reference : List Char) : List (List Char) :=
  match reference with
  | '/' :: _ => Text.splitAt '/' reference
  | _ =>
    let parts := Text.splitAt '/' base
    let directory := if parts.getLast? = some [] then parts else parts.dropLast
    let all := directory ++ Text.splitAt '/' reference
    all.take 1 ++ (all.drop 1).dropLast.filter (!·.isEmpty) ++ (all.drop 1).getLast?.toList

/-- The path of a reference seen from a base path.  It always begins with a slash. -/
def joinPath (base reference : List Char) : List Char :=
  let segments := joinedSegments base reference
  let resolved := segments.foldl (fun done segment =>
    if segment = ['.', '.'] then done.dropLast
    else if segment = ['.'] then done
    else done ++ [segment]) []
  -- A dot at the end stands for a directory, whose path ends in a slash.
  let isDot := segments.getLast? = some ['.'] ∨ segments.getLast? = some ['.', '.']
  let path := ['/'].intercalate (if isDot then resolved ++ [[]] else resolved)
  if path.head? = some '/' then path else '/' :: path

/-! ## Addresses -/

/-- The components of an address or a reference, empty if they are missing. -/
structure Reference where
  scheme : String
  authority : List Char
  path : List Char
  query : List Char
  fragment : List Char
  deriving DecidableEq, Repr

/-- The components of a text. -/
def Reference.ofText (s : String) : Reference :=
  let (scheme, rest) := splitScheme s.toList
  let (rest, fragment) := Text.upTo ['#'] rest
  let (rest, query) := Text.upTo ['?'] rest
  let (authority, path) := match rest with
    | '/' :: '/' :: rest => Text.upTo ['/'] rest
    | _ => ([], rest)
  { scheme := .ofList (scheme.map Char.toLower)
    authority, path
    query := query.drop 1
    fragment := fragment.drop 1 }

/-- The text of components with a hierarchical scheme; there is always an authority, if only an
empty one. -/
def Reference.text (r : Reference) : String :=
  let path := if r.path.isEmpty || r.path.head? = some '/' then r.path else '/' :: r.path
  let query := if r.query.isEmpty then [] else '?' :: r.query
  let fragment := if r.fragment.isEmpty then [] else '#' :: r.fragment
  r.scheme ++ "://" ++ .ofList (r.authority ++ path ++ query ++ fragment)

/-- A reference with the scheme of the base, resolved against it. -/
def Reference.resolve (base reference : Reference) : Reference :=
  let (path, parameters) := splitParameters base.scheme reference.path
  if !reference.authority.isEmpty then
    { reference with scheme := base.scheme, path := withParameters path parameters }
  else if path.isEmpty && parameters.isEmpty then
    let (path, parameters) := splitParameters base.scheme base.path
    { base with
      path := withParameters path parameters
      query := if reference.query.isEmpty then base.query else reference.query
      fragment := reference.fragment }
  else
    let directory := (splitParameters base.scheme base.path).1
    { base with
      path := withParameters (joinPath directory path) parameters
      query := reference.query
      fragment := reference.fragment }

/-- The text of a reference seen from a base.  It is taken as it is where it has another scheme, or
the base has no hierarchical one, and an empty reference is the base. -/
def joined (base reference : String) : String :=
  let origin := Reference.ofText base
  let target := Reference.ofText reference
  if reference.isEmpty then base
  else if !hierarchicalSchemes.contains origin.scheme then reference
  else if !target.scheme.isEmpty && target.scheme ≠ origin.scheme then reference
  else (origin.resolve target).text

/-- A reference resolved against an address. -/
def join (base reference : Url) : Except Flaw Url := parse (joined base.text reference.text)

/-- Whether a component is missing or empty. -/
def isBlank (component : Option String) : Bool := (component.getD "").isEmpty

/-- The address that a location leads to from `origin`.  One with a scheme but without a host is on
the host of the origin, and the fragment of the origin is kept where there is no other. -/
def redirect (origin location : Url) : Except Flaw Url := do
  let u ← if !location.scheme.isEmpty && location.host.isEmpty
    then Parts.url { location.toParts with host := origin.hostText.toList }
    else pure location
  let u ← if u.isAbsolute then pure u else origin.join u
  if isBlank u.fragment && !isBlank origin.fragment then
    let fragment := Text.Percent.decode ((origin.fragment.getD "").toList)
    Parts.url { u.toParts with fragment := some fragment }
  else return u

end ElasticPanels.Url

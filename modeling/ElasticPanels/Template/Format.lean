import ElasticPanels.Text.Classes

/-!
# Formats of variable values

A variable holds one text or a list of texts.  `Format.render` writes a value in the format that a
reference asks for: escaped for the Lucene query syntax, as a regular expression, as a list with one
of several separators, or as a glob, which is also the format of every unknown name.
-/

namespace ElasticPanels.Template

/-- The value of a variable. -/
inductive Value
  | single (text : String)
  | multi (texts : List String)
  deriving DecidableEq, Repr

/-- The formats that a reference may ask for. -/
inductive Format
  | lucene
  | glob
  | csv
  | pipe
  | raw
  | regex
  | distributed
  deriving DecidableEq, Repr

/-- The format of a name; unknown names mean the glob. -/
def Format.ofName (name : String) : Format :=
  match name with
  | "lucene" => lucene
  | "csv" => csv
  | "pipe" => pipe
  | "raw" => raw
  | "regex" => regex
  | "distributed" => distributed
  | _ => glob

/-! ## Escapes -/

/-- The characters that the Lucene syntax gives a meaning to, blanks included. -/
def isLuceneSpecial (c : Char) : Bool :=
  "!*+-=<>&|()[]\x7b\x7d^~?:\\/\"".toList.contains c || Text.isBlank c

/-- The characters that a regular expression gives a meaning to, ASCII blanks included. -/
def isRegexSpecial (c : Char) : Bool :=
  "()[]\x7b\x7d?*+-|^$\\.&~# \t\n\r\x0b\x0c".toList.contains c

/-- The text with a backslash before each character of a class. -/
def protectChars (special : Char → Bool) (cs : List Char) : List Char :=
  cs.flatMap fun c => if special c then ['\\', c] else [c]

theorem protectChars_cons (special : Char → Bool) (c : Char) (cs : List Char) :
    protectChars special (c :: cs) =
      (if special c then ['\\', c] else [c]) ++ protectChars special cs := rfl

/-- The text with the Lucene syntax taken out of it. -/
def luceneEscape (s : String) : String := .ofList (protectChars isLuceneSpecial s.toList)

/-- The regular expression that matches just this text. -/
def regexEscape (s : String) : String := .ofList (protectChars isRegexSpecial s.toList)

/-! ## Rendering -/

/-- The alternatives as a Lucene group of quoted terms; no alternative is a term of its own. -/
def luceneGroup : List String → String
  | [] => "__empty__"
  | texts =>
    "(" ++ String.intercalate " OR " (texts.map fun s => "\"" ++ luceneEscape s ++ "\"") ++ ")"

/-- The texts between braces, a single one by itself. -/
def globGroup : List String → String
  | [text] => text
  | texts => "\x7b" ++ String.intercalate "," texts ++ "\x7d"

/-- The alternatives as a group of a regular expression, a single one by itself. -/
def regexGroup : List String → String
  | [text] => regexEscape text
  | texts => "(" ++ String.intercalate "|" (texts.map regexEscape) ++ ")"

/-- The texts with the name before each but the first. -/
def distributedList (name : String) : List String → String
  | [] => ""
  | text :: rest => String.intercalate "," (text :: rest.map fun s => name ++ "=" ++ s)

/-- A value in a format, for the variable `name`. -/
def Format.render (format : Format) (name : String) : Value → String
  | .single text =>
    match format with
    | lucene => luceneEscape text
    | regex => regexEscape text
    | _ => text
  | .multi texts =>
    match format with
    | lucene => luceneGroup texts
    | glob => globGroup texts
    | csv | raw => String.intercalate "," texts
    | pipe => String.intercalate "|" texts
    | regex => regexGroup texts
    | distributed => distributedList name texts

end ElasticPanels.Template

import ElasticPanels.Json.Basic
import ElasticPanels.Number.Shortest
import ElasticPanels.Text.Quoted

/-!
# Writing JSON

`Json.render` writes a value on one line.  A `Layout` fixes what varies: the two separators, and
whether characters outside printable ASCII are escaped.  Search payloads use `Layout.spaced`;
request bodies use `Layout.compact`.
-/

namespace ElasticPanels

namespace Json

/-- The free choices of a one-line JSON text. -/
structure Layout where
  comma : List Char
  colon : List Char
  asciiOnly : Bool
  deriving DecidableEq, Repr

/-- Separators with a space, ASCII only. -/
def Layout.spaced : Layout := ⟨[',', ' '], [':', ' '], true⟩

/-- Bare separators, all characters as they are. -/
def Layout.compact : Layout := ⟨[','], [':'], false⟩

/-- Bare separators, ASCII only. -/
def Layout.compactAscii : Layout := ⟨[','], [':'], true⟩

/-- The escape of one UTF-16 unit. -/
def unitEscape (unit : Nat) : List Char := '\\' :: 'u' :: Text.hexDigits 4 unit

/-- The escape of a character, a surrogate pair beyond the first plane. -/
def charEscape (c : Char) : List Char :=
  let n := Text.codePoint c
  if n < 0x10000 then unitEscape n
  else unitEscape (0xd800 + (n - 0x10000) / 0x400) ++ unitEscape (0xdc00 + (n - 0x10000) % 0x400)

/-- One character as it stands inside a JSON string. -/
def stringChar (asciiOnly : Bool) (c : Char) : List Char :=
  if c = '"' then ['\\', '"']
  else if c = '\\' then ['\\', '\\']
  else if c = '\n' then ['\\', 'n']
  else if c = '\r' then ['\\', 'r']
  else if c = '\t' then ['\\', 't']
  else if c = '\x08' then ['\\', 'b']
  else if c = '\x0c' then ['\\', 'f']
  else if c.toNat < 0x20 then charEscape c
  else if asciiOnly && 0x7e < c.toNat then charEscape c
  else [c]

/-- A text as a JSON string. -/
def renderString (asciiOnly : Bool) (s : String) : List Char :=
  '"' :: s.toList.flatMap (stringChar asciiOnly) ++ ['"']

/-- The decimal digits of a whole number. -/
def renderInt (n : Int) : List Char :=
  if n < 0 then '-' :: Nat.toDigits 10 n.natAbs else Nat.toDigits 10 n.natAbs

/-- A floating-point number; those that are not finite have names of their own. -/
def renderFloat : Binary64 → List Char
  | .nan => "NaN".toList
  | .infinite negative => if negative then "-Infinity".toList else "Infinity".toList
  | x => x.text.toList

mutual

/-- The value on one line. -/
def render (layout : Layout) : Json → List Char
  | null => "null".toList
  | bool b => if b then "true".toList else "false".toList
  | int n => renderInt n
  | float x => renderFloat x
  | str s => renderString layout.asciiOnly s
  | arr items => '[' :: renderItems layout [] items ++ [']']
  | obj fields => '{' :: renderFields layout [] fields ++ ['}']

/-- The items of a list, the first after `separator`, the others after a comma. -/
def renderItems (layout : Layout) (separator : List Char) : List Json → List Char
  | [] => []
  | item :: rest => separator ++ render layout item ++ renderItems layout layout.comma rest

/-- The entries of an object, the first after `separator`, the others after a comma. -/
def renderFields (layout : Layout) (separator : List Char) : List (String × Json) → List Char
  | [] => []
  | (key, value) :: rest =>
    separator ++ renderString layout.asciiOnly key ++ layout.colon ++ render layout value ++
      renderFields layout layout.comma rest

end

/-- The value as spaced ASCII text. -/
def spacedText (value : Json) : String := .ofList (value.render .spaced)

/-- The value as compact text. -/
def compactText (value : Json) : String := .ofList (value.render .compact)

/-- The value as compact ASCII text. -/
def compactAsciiText (value : Json) : String := .ofList (value.render .compactAscii)

end Json

end ElasticPanels

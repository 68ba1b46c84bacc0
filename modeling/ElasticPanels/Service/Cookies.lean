import ElasticPanels.Entries
import ElasticPanels.Text.Classes
import ElasticPanels.Text.Cut

/-!
# Cookies of a request

A request names its cookies in one header, divided by semicolons.  Blanks around names and values do
not count; a value in double quotes may hold escapes.
-/

namespace ElasticPanels.Cookies

/-- The value of an octal digit. -/
def octal? (c : Char) : Option Nat :=
  if '0' ≤ c ∧ c ≤ '7' then some (c.toNat - '0'.toNat) else none

/-- The character that three octal digits write. -/
def octalChar? (a b c : Char) : Option Char := do
  let (a, b, c) := (← octal? a, ← octal? b, ← octal? c)
  if a ≤ 3 then some (.ofNat (a * 64 + b * 8 + c)) else none

/-- A quoted value without its escapes: three octal digits, or a character that stands for
itself. -/
def unescape : List Char → List Char
  | '\\' :: a :: b :: c :: rest =>
    match octalChar? a b c with
    | some shown => shown :: unescape rest
    | none =>
      if a = '\n' then '\\' :: unescape (a :: b :: c :: rest) else a :: unescape (b :: c :: rest)
  | '\\' :: a :: rest => if a = '\n' then '\\' :: unescape (a :: rest) else a :: unescape rest
  | c :: rest => c :: unescape rest
  | [] => []

/-- A value without its quotes, if it has any. -/
def unquote (value : List Char) : List Char :=
  if 2 ≤ value.length ∧ value.head? = some '"' ∧ value.getLast? = some '"' then
    unescape (value.drop 1).dropLast
  else value

/-- One cookie; without an equals sign the name is empty. -/
def cookie (chunk : List Char) : List Char × List Char :=
  let trim := Text.trimBoth Text.isBlank
  match Text.cut? '=' chunk with
  | some (name, value) => (trim name, trim value)
  | none => ([], trim chunk)

/-- The cookies of a header.  A repeated name keeps its first place and takes the last value. -/
def parse (header : String) : Entries String :=
  let found := (Text.splitAt ';' header.toList).map cookie
  .ofPairs ((found.filter fun c => !c.1.isEmpty || !c.2.isEmpty).map fun c =>
    (.ofList c.1, .ofList (unquote c.2)))

end ElasticPanels.Cookies

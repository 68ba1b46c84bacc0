import ElasticPanels.Text.HiddenRanges
import ElasticPanels.Text.Surrogate

/-!
# Quoted text

`quoted` writes a text between quotation marks so that each of its characters can be seen: the
mark itself, the backslash and every character without a visible form are written as escapes.
-/

namespace ElasticPanels.Text

/-- The hexadecimal digit of a number below sixteen, in small letters. -/
def hexDigit (n : Nat) : Char :=
  if n < 10 then .ofNat ('0'.toNat + n) else .ofNat ('a'.toNat + (n - 10))

/-- The last `width` hexadecimal digits of `n`. -/
def hexDigits : Nat → Nat → List Char
  | 0, _ => []
  | width + 1, n => hexDigits width (n / 16) ++ [hexDigit (n % 16)]

/-- Whether a character has a visible form; among the ASCII ones the space counts. -/
def isVisible (c : Char) : Bool :=
  if c.toNat < 128 then 32 ≤ c.toNat && c.toNat ≠ 127 else !hiddenRanges.contains c.toNat

/-- The escape of a character that is not shown, two, four or eight digits long. -/
def hiddenEscape (c : Char) : List Char :=
  let n := codePoint c
  if n < 0x100 then '\\' :: 'x' :: hexDigits 2 n
  else if n < 0x10000 then '\\' :: 'u' :: hexDigits 4 n
  else '\\' :: 'U' :: hexDigits 8 n

/-- One character as it stands between two marks `mark`. -/
def quotedChar (mark : Char) (c : Char) : List Char :=
  if c == mark || c == '\\' then ['\\', c]
  else if c == '\n' then ['\\', 'n']
  else if c == '\r' then ['\\', 'r']
  else if c == '\t' then ['\\', 't']
  else if isVisible c then [c]
  else hiddenEscape c

/-- The mark for a text: single, unless the text holds single marks and no double one. -/
def markFor (cs : List Char) : Char :=
  if cs.contains '\'' && !cs.contains '"' then '"' else '\''

/-- The text between quotation marks. -/
def quoted (s : String) : String :=
  let mark := markFor s.toList
  .ofList (mark :: s.toList.flatMap (quotedChar mark) ++ [mark])

end ElasticPanels.Text

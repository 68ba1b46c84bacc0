import ElasticPanels.Text.CaseShifts
import ElasticPanels.Text.Classes

/-!
# Small and capital forms

`lower` and `upper` map a text of any script to small letters and to capitals.  A letter may have a
form of several letters, and the Greek capital sigma has another small form at the end of a word.
-/

namespace ElasticPanels.Text

/-- The image of a code point, if it lies in the run. -/
def CaseShift.imageOf? (shift : CaseShift) (n : Nat) : Option Nat :=
  if shift.first ≤ n ∧ n ≤ shift.last ∧ (n - shift.first) % shift.step = 0 then
    some (shift.image + (n - shift.first))
  else none

/-- The small form of a character. -/
def lowerChar (c : Char) : List Char :=
  if c.toNat < 128 then [c.toLower]
  else if c = 'İ' then ['i', '\u0307']
  else [((lowerShifts.findSome? (·.imageOf? c.toNat)).map Char.ofNat).getD c]

/-- The capital form of a character. -/
def upperChar (c : Char) : List Char :=
  if c.toNat < 128 then [c.toUpper]
  else match upperExpansions.lookup c.toNat with
    | some letters => letters.map Char.ofNat
    | none => [((upperShifts.findSome? (·.imageOf? c.toNat)).map Char.ofNat).getD c]

/-- The text in capitals. -/
def upper (s : String) : String := .ofList (s.toList.flatMap upperChar)

/-- Whether a character has a small and a capital form. -/
def isCased (c : Char) : Bool := lowerChar c != [c] || upperChar c != [c]

/-- Whether a character counts for nothing where the end of a word is looked for: marks, and the
punctuation that may stand within a word. -/
def isCaseless (c : Char) : Bool :=
  ['\'', '.', ':', '^', '`', '\u00ad', '\u00b7', '\u2019'].contains c ||
    (0x300 ≤ c.toNat && c.toNat ≤ 0x36f)

/-- Whether a cased letter comes first, caseless characters aside. -/
def opensWithCased (cs : List Char) : Bool := ((cs.dropWhile isCaseless).head?).any isCased

/-- The small forms of a text whose characters before are `before`, the last of them first. -/
def lowerFrom (before : List Char) : List Char → List Char
  | [] => []
  | c :: rest =>
    let form :=
      if c = 'Σ' then [if opensWithCased before && !opensWithCased rest then 'ς' else 'σ']
      else lowerChar c
    form ++ lowerFrom (c :: before) rest

/-- The text in small letters. -/
def lower (cs : List Char) : List Char := lowerFrom [] cs

end ElasticPanels.Text

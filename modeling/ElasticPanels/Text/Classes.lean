import ElasticPanels.Text.WordRanges

/-!
# Character classes

The classes that names, blanks and numerals are made of: `isWord` for the characters of a variable
or label name, `isBlank` for the characters that separate words of a text, `isWhiteSpace` for those
that may stand around a number, and `digitValue?` for the decimal digits of every script.
-/

namespace ElasticPanels.Text

/-- Whether a list holds only characters of some class is decided on the list. -/
instance decidableForallMem {P : Char → Prop} [DecidablePred P] (cs : List Char) :
    Decidable (∀ c ∈ cs, P c) := List.decidableBAll P cs

/-- A word character is a letter or numeral of any script, or the underscore. -/
def isWord (c : Char) : Bool :=
  c.isAlphanum || c == '_' || (127 < c.toNat && wordRanges.contains c.toNat)

/-- White space in the sense of the Unicode property of that name. -/
def isWhiteSpace (c : Char) : Bool :=
  let n := c.toNat
  (9 ≤ n && n ≤ 13) || n == 0x20 || n == 0x85 || n == 0xa0 || n == 0x1680 ||
    (0x2000 ≤ n && n ≤ 0x200a) || n == 0x2028 || n == 0x2029 || n == 0x202f || n == 0x205f ||
    n == 0x3000

/-- A blank is white space or one of the four ASCII information separators. -/
def isBlank (c : Char) : Bool :=
  isWhiteSpace c || (0x1c ≤ c.toNat && c.toNat ≤ 0x1f)

/-- The code points of the digit zero of every script but ASCII; the other nine digits follow. -/
def zeroDigits : List Nat :=
  [1632, 1776, 1984, 2406, 2534, 2662, 2790, 2918, 3046, 3174, 3302, 3430, 3558, 3664, 3792, 3872,
   4160, 4240, 6112, 6160, 6470, 6608, 6784, 6800, 6992, 7088, 7232, 7248, 42528, 43216, 43264,
   43472, 43504, 43600, 44016, 65296, 66720, 68912, 69734, 69872, 69942, 70096, 70384, 70736,
   70864, 71248, 71360, 71472, 71904, 72016, 72784, 73040, 73120, 92768, 92864, 93008, 120782,
   120792, 120802, 120812, 120822, 123200, 123632, 125264, 130032]

/-- The value of an ASCII digit. -/
def asciiDigit? (c : Char) : Option Nat :=
  if c.isDigit then some (c.toNat - '0'.toNat) else none

/-- The value of a decimal digit of any script. -/
def digitValue? (c : Char) : Option Nat :=
  match asciiDigit? c with
  | some d => some d
  | none => (zeroDigits.find? fun z => z ≤ c.toNat && c.toNat ≤ z + 9).map (c.toNat - ·)

/-- A text without the characters of a class at its two ends. -/
def trimBoth (p : Char → Bool) (cs : List Char) : List Char :=
  (((cs.dropWhile p).reverse).dropWhile p).reverse

/-- A text without the blanks at its two ends. -/
def trim (s : String) : String := .ofList (trimBoth isBlank s.toList)

/-- The text with its ASCII capitals made small. -/
def lowerAscii (s : String) : String := s.map Char.toLower

/-- The text without the run of `c` at its start. -/
def dropLeading (c : Char) (s : String) : String := .ofList (s.toList.dropWhile (· == c))

/-- The text without the run of `c` at its end. -/
def dropTrailing (c : Char) (s : String) : String :=
  .ofList ((s.toList.reverse.dropWhile (· == c)).reverse)

/-! ### Small facts -/

theorem ne_of_class {p : Char → Bool} {c d : Char} (without : p c = false) (within : p d = true) :
    c ≠ d := by
  rintro rfl
  rw [without] at within
  cases within

theorem isWord_of_isAlphanum {c : Char} (h : c.isAlphanum = true) : isWord c = true := by
  simp [isWord, h]

/-! ### Runs of a class -/

section Runs

variable {α : Type} {p : α → Bool} {run rest : List α}

theorem takeWhile_run (h : ∀ a ∈ run, p a = true) (stop : ∀ a ∈ rest.head?, p a = false) :
    (run ++ rest).takeWhile p = run := by
  rw [List.takeWhile_append_of_pos h]
  cases rest with
  | nil => exact List.append_nil run
  | cons a rest => simp [stop a rfl]

theorem dropWhile_run (h : ∀ a ∈ run, p a = true) (stop : ∀ a ∈ rest.head?, p a = false) :
    (run ++ rest).dropWhile p = rest := by
  rw [List.dropWhile_append_of_pos h]
  cases rest with
  | nil => rfl
  | cons a rest => simp [stop a rfl]

end Runs

end ElasticPanels.Text

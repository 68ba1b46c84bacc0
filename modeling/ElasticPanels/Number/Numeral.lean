import ElasticPanels.Number.Binary64
import ElasticPanels.Text.Classes

/-!
# Numerals

The numerals that settings and replies may hold as text.  `readWhole` takes a sign and the decimal
digits of any script, `readLaxWhole` also leading zeros and a fraction of zeros, `readFloat?` a
decimal with point and exponent or one of the names of infinity and of no number.  In each, white
space may stand around the numeral and a single underscore between two digits.

A numeral for a whole number has at most `digitLimit` digits.  One with more of them is refused for
that reason, whatever else is wrong with it further on.
-/

namespace ElasticPanels.Numeral

/-- The most digits that a numeral for a whole number may have. -/
def digitLimit : Nat := 4300

/-- Why a text is no numeral for a whole number. -/
inductive Flaw
  | unreadable
  | tooManyDigits (count : Nat)
  deriving DecidableEq, Repr

/-! ## Parts -/

/-- The digits that continue a run, each after an underscore or none, and what follows them. -/
def moreDigits (digit? : Char → Option Nat) : List Char → List Nat × List Char
  | [] => ([], [])
  | '_' :: c :: rest =>
    match digit? c with
    | some d => let (ds, after) := moreDigits digit? rest; (d :: ds, after)
    | none => ([], '_' :: c :: rest)
  | c :: rest =>
    match digit? c with
    | some d => let (ds, after) := moreDigits digit? rest; (d :: ds, after)
    | none => ([], c :: rest)

/-- The leading run of digits of a text, and what follows it. -/
def digitRun (digit? : Char → Option Nat) : List Char → List Nat × List Char
  | [] => ([], [])
  | c :: rest =>
    match digit? c with
    | some d => let (ds, after) := moreDigits digit? rest; (d :: ds, after)
    | none => ([], c :: rest)

/-- The number that decimal digits write. -/
def value (ds : List Nat) : Nat := ds.foldl (fun n d => 10 * n + d) 0

/-- The number that a sign and digits write. -/
def signed (negative : Bool) (ds : List Nat) : Int :=
  if negative then -(value ds : Int) else value ds

/-- Whether a minus sign comes next, and what follows the sign. -/
def splitSign : List Char → Bool × List Char
  | '-' :: rest => (true, rest)
  | '+' :: rest => (false, rest)
  | cs => (false, cs)

/-- The text without its underscores, if each of them stands alone between other characters. -/
def ungrouped? (cs : List Char) : Option (List Char) :=
  let doubled := (cs.zip (cs.drop 1)).contains ('_', '_')
  if cs.head? = some '_' ∨ cs.getLast? = some '_' ∨ doubled then none
  else some (cs.filter (· ≠ '_'))

/-! ## Whole numbers -/

/-- Reads a sign and digits of any script. -/
def readWhole (s : String) : Except Flaw Int :=
  let (negative, body) := splitSign (Text.trimBoth Text.isWhiteSpace s.toList)
  let (ds, after) := digitRun Text.digitValue? body
  -- An underscore that no digit follows is noticed while the digits are counted.
  if ds.isEmpty || after.head? = some '_' then .error .unreadable
  else if digitLimit < ds.length then .error (.tooManyDigits ds.length)
  else if after.isEmpty then .ok (signed negative ds)
  else .error .unreadable

/-- Reads digits that begin with no zero, or a single zero, after a minus sign or none.  The sign
counts as a digit towards the limit. -/
def readCanonical (cs : List Char) : Except Flaw Int :=
  let (negative, body) := match cs with
    | '-' :: rest => (true, rest)
    | _ => (false, cs)
  let ds := if body.head? = some '0' then ['0'] else body.takeWhile Char.isDigit
  let size := ds.length + (if negative then 1 else 0)
  if ds.isEmpty then .error .unreadable
  else if digitLimit < size then .error (.tooManyDigits size)
  else if ds.length < body.length then .error .unreadable
  else .ok (signed negative (ds.filterMap Text.asciiDigit?))

/-- The text from its first digit that is no zero on, where underscores count as zeros; a minus sign
may stand in place of that digit.  Before a point or the end the last of the zeros is kept, which is
`zero`. -/
def dropZeros? (zero : Char) : List Char → Option (List Char)
  | [] => some [zero]
  | c :: rest =>
    if c = '0' ∨ c = '_' then dropZeros? c rest
    else if c = '.' then some (zero :: c :: rest)
    else if c = '-' ∨ c.isDigit then some (c :: rest)
    else none

/-- The text without its leading zeros.  It must begin with a digit. -/
def withoutZeros? : List Char → Option (List Char)
  | '0' :: rest => dropZeros? '0' rest
  | c :: rest => if c.isDigit then some (c :: rest) else none
  | [] => none

/-- The text without a point and the zeros after it. -/
def withoutZeroFraction (cs : List Char) : List Char :=
  match cs.dropWhile (· ≠ '.') with
  | '.' :: c :: zeros =>
    if (c :: zeros).all (· = '0') then cs.takeWhile (· ≠ '.') else cs
  | _ => cs

/-- The canonical form of a numeral that is written freely. -/
def canonical? (s : String) : Option (List Char) := do
  let cs := Text.trimBoth Text.isWhiteSpace s.toList
  let (negative, body) := splitSign cs
  let body ← withoutZeros? body
  let cs := withoutZeroFraction (if negative then '-' :: body else body)
  return (ungrouped? cs).getD cs

/-- Reads a whole number that may be written freely: with leading zeros and a fraction of zeros, in
ASCII digits. -/
def readLaxWhole (s : String) : Except Flaw Int :=
  match readCanonical s.toList with
  | .error .unreadable => match canonical? s with
    | some cs => readCanonical cs
    | none => .error .unreadable
  | outcome => outcome

/-! ## Floating-point numbers -/

/-- The signed exponent of a decimal, if a mark and at least one digit come next. -/
def exponent (digit? : Char → Option Nat) (cs : List Char) : Int × List Char :=
  match cs with
  | mark :: rest =>
    if mark = 'e' ∨ mark = 'E' then
      let (negative, body) := splitSign rest
      let (ds, after) := digitRun digit? body
      if ds.isEmpty then (0, cs) else (signed negative ds, after)
    else (0, cs)
  | [] => (0, [])

/-- The numbers that have a name, in small letters. -/
def namedNumber? (negative : Bool) (name : String) : Option Binary64 :=
  if name = "inf" || name = "infinity" then some (.infinite negative)
  else if name = "nan" then some .nan
  else none

/-- Reads a decimal or a name, to the end of the text.  The first argument says which characters are
digits. -/
def readDecimal? (digit? : Char → Option Nat) (cs : List Char) : Option Binary64 :=
  let (negative, body) := splitSign cs
  match namedNumber? negative (Text.lowerAscii (.ofList body)) with
  | some x => some x
  | none =>
    let (whole, after) := digitRun digit? body
    let (fraction, after) := match after with
      | '.' :: rest => digitRun digit? rest
      | other => ([], other)
    let (e, after) := exponent digit? after
    if (whole.isEmpty && fraction.isEmpty) || !after.isEmpty then none
    else some (.ofDecimal negative (value (whole ++ fraction)) (e - fraction.length))

/-- Reads a number in digits of any script. -/
def readFloat? (s : String) : Option Binary64 :=
  readDecimal? Text.digitValue? (Text.trimBoth Text.isWhiteSpace s.toList)

/-- Reads a number in ASCII digits.  Where underscores stand in it, no white space may stand around
it, but they may stand between any two characters. -/
def readLaxFloat? (s : String) : Option Binary64 := do
  let trimmed := Text.trimBoth Text.isWhiteSpace s.toList
  let cs ← if trimmed.contains '_' then ungrouped? s.toList else some trimmed
  readDecimal? Text.asciiDigit? cs

end ElasticPanels.Numeral

/-!
# Binary floating-point numbers

`Binary64` holds the numbers of the IEEE 754 format of that width by their meaning: a finite number
is a sign, a whole significand and a power of two.  `Binary64.ofRatio` rounds a quotient to the
nearest number of the format, the even neighbour winning a tie; `Binary64.ofDecimal` and
`Binary64.ofInt` are its two uses.  No machine arithmetic is involved.
-/

namespace ElasticPanels

/-- A number of the binary64 format: `finite negative m q` stands for `±m · 2 ^ q`. -/
inductive Binary64
  | nan
  | infinite (negative : Bool)
  | finite (negative : Bool) (significand : Nat) (exponent : Int)
  deriving DecidableEq, Repr, Inhabited

namespace Binary64

/-- The power of two with a whole exponent. -/
def twoTo (n : Nat) : Nat := Nat.pow 2 n

/-- The power of ten with a whole exponent. -/
def tenTo (n : Nat) : Nat := Nat.pow 10 n

/-- Each finite number has one canonical form: the significand has 53 binary digits, or fewer at
the smallest exponent. -/
def Canonical : Binary64 → Prop
  | nan | infinite _ => True
  | finite _ m q => m < twoTo 53 ∧ -1074 ≤ q ∧ q ≤ 971 ∧ (twoTo 52 ≤ m ∨ q = -1074)

/-- Zero, of either sign. -/
def zero (negative : Bool) : Binary64 := .finite negative 0 (-1074)

/-- Whether the number is finite. -/
def isFinite : Binary64 → Bool
  | finite .. => true
  | _ => false

/-- Whether the number equals zero, whatever its sign. -/
def isZero : Binary64 → Bool
  | finite _ 0 _ => true
  | _ => false

/-! ## Rounding -/

/-- The quotient `num / den` rounded to a whole number, a half going to the even neighbour. -/
def roundHalfEven (num den : Nat) : Nat :=
  let whole := num / den
  let rest := num % den
  if 2 * rest < den then whole
  else if den < 2 * rest then whole + 1
  else whole + whole % 2

/-- The whole `e` with `2 ^ e ≤ num / den < 2 ^ (e + 1)`, for positive `num` and `den`. -/
def binaryOrder (num den : Nat) : Int :=
  let e : Int := (num.log2 : Int) - den.log2
  if num * twoTo (-e).toNat < den * twoTo e.toNat then e - 1 else e

/-- The number nearest to `num / den`; what is too large for the format becomes infinite. -/
def ofRatio (negative : Bool) (num den : Nat) : Binary64 :=
  if num = 0 then zero negative
  else
    let q := max (binaryOrder num den - 52) (-1074)
    let m := roundHalfEven (num * twoTo (-q).toNat) (den * twoTo q.toNat)
    let (m, q) := if m = twoTo 53 then (twoTo 52, q + 1) else (m, q)
    if 971 < q then .infinite negative else .finite negative m q

/-- The number of decimal digits of `n`, with one digit for zero. -/
def digitCount (n : Nat) : Nat := (Nat.toDigits 10 n).length

/-- The number nearest to `digits · 10 ^ e`.  Beyond four hundred places on either side the answer
no longer depends on the digits. -/
def ofDecimal (negative : Bool) (digits : Nat) (e : Int) : Binary64 :=
  if digits = 0 then zero negative
  else
    let order := e + digitCount digits
    if 400 < order then .infinite negative
    else if order < -400 then zero negative
    else ofRatio negative (digits * tenTo e.toNat) (tenTo (-e).toNat)

/-- The number nearest to a whole number. -/
def ofInt (n : Int) : Binary64 := ofRatio (n < 0) n.natAbs 1

/-! ## Back to whole numbers -/

/-- The whole part of a finite number, rounding toward zero. -/
def truncate? : Binary64 → Option Int
  | finite negative m q =>
    let size : Nat := m * twoTo q.toNat / twoTo (-q).toNat
    some (if negative then -size else size)
  | _ => none

/-- Whether a finite number is whole. -/
def isWhole : Binary64 → Bool
  | finite _ m q => m * twoTo q.toNat % twoTo (-q).toNat == 0
  | _ => false

/-- The number equals the given whole number. -/
def equalsInt (x : Binary64) (n : Int) : Bool := x.isWhole && x.truncate? == some n

end Binary64

end ElasticPanels

import ElasticPanels.Number.Binary64

/-!
# The shortest decimal that reads back

`Binary64.shortest` finds, for a positive finite number, a decimal with the fewest digits among
those that round to it, and of these the nearest.  `Binary64.text` writes the digits: positionally
while the decimal order lies between -4 and 15, otherwise with an exponent of two digits or more,
and always with a point or an exponent.
-/

namespace ElasticPanels.Binary64

/-- The interval of quotients that round to `m · 2 ^ q`: its ends over a common denominator, and
whether the ends belong to it. -/
structure Basin where
  low : Nat
  value : Nat
  high : Nat
  den : Nat
  closed : Bool

/-- The basin of `m · 2 ^ q`.  Below a power of two the grid is twice as fine. -/
def basin (m : Nat) (q : Int) : Basin :=
  let scale := twoTo (q - 2).toNat
  let below := if m = twoTo 52 ∧ -1074 < q then 1 else 2
  ⟨(4 * m - below) * scale, 4 * m * scale, (4 * m + 2) * scale, twoTo (2 - q).toNat, m % 2 == 0⟩

/-- The whole `e` with `10 ^ e ≤ num / den < 10 ^ (e + 1)`, for positive `num` and `den`. -/
def decimalOrder (num den : Nat) : Int :=
  -- The factor is the decimal logarithm of two to five places, so the guess is off by one at most.
  let guess : Int := ((num.log2 : Int) - den.log2) * 30103 / 100000
  let reaches (e : Int) : Bool := den * tenTo e.toNat ≤ num * tenTo (-e).toNat
  if !reaches guess then guess - 1
  else if reaches (guess + 1) then guess + 1
  else guess

/-- Whether `c · 10 ^ p` lies in the basin. -/
def Basin.holds (b : Basin) (c : Nat) (p : Int) : Bool :=
  let point := c * tenTo p.toNat * b.den
  let low := b.low * tenTo (-p).toNat
  let high := b.high * tenTo (-p).toNat
  if b.closed then low ≤ point && point ≤ high else low < point && point < high

/-- The multiple of `10 ^ p` in the basin that is nearest to its value, if there is one; a tie goes
to the even multiple. -/
def Basin.onGrid? (b : Basin) (p : Int) : Option Nat :=
  let num := b.value * tenTo (-p).toNat
  let den := b.den * tenTo p.toNat
  let below := num / den
  match b.holds below p, b.holds (below + 1) p with
  | false, false => none
  | true, false => some below
  | false, true => some (below + 1)
  | true, true => some (roundHalfEven num den)

/-- Tries grids one digit finer each time. -/
def Basin.search (b : Basin) (order : Int) : Nat → Nat → Nat × Int
  | 0, _ => (b.value / b.den, 0)
  | tries + 1, digits =>
    let p := order + 1 - digits
    match b.onGrid? p with
    | some c => (c, p)
    | none => b.search order tries (digits + 1)

/-- Digits and exponent of the shortest decimal that rounds to `m · 2 ^ q`.  Seventeen digits
always suffice. -/
def shortest (m : Nat) (q : Int) : Nat × Int :=
  let b := basin m q
  b.search (decimalOrder b.value b.den) 17 1

/-- Writes `0.d₁d₂… · 10 ^ point` for the digits `ds`. -/
def layOut (ds : List Char) (point : Int) : List Char :=
  let order := point - 1
  if -4 ≤ order ∧ order < 16 then
    if point ≤ 0 then '0' :: '.' :: List.replicate (-point).toNat '0' ++ ds
    else
      let whole := ds.take point.toNat
      let rest := ds.drop point.toNat
      whole ++ List.replicate (point.toNat - whole.length) '0' ++
        '.' :: (if rest.isEmpty then ['0'] else rest)
  else
    let size := Nat.toDigits 10 order.natAbs
    let mantissa := ds.take 1 ++ (if ds.length ≤ 1 then [] else '.' :: ds.drop 1)
    mantissa ++ 'e' :: (if order < 0 then '-' else '+') ::
      (List.replicate (2 - size.length) '0' ++ size)

/-- The digits of a decimal without the zeros at its end. -/
def significantDigits (digits : Nat) : List Char :=
  ((Nat.toDigits 10 digits).reverse.dropWhile (· == '0')).reverse

/-- The shortest text of a number. -/
def text : Binary64 → String
  | nan => "nan"
  | infinite negative => if negative then "-inf" else "inf"
  | finite negative m q =>
    let body :=
      if m = 0 then ['0', '.', '0']
      else
        let (digits, e) := shortest m q
        layOut (significantDigits digits) (e + digitCount digits)
    .ofList (if negative then '-' :: body else body)

end ElasticPanels.Binary64

/-!
# Punycode

`Punycode.encode` writes code points as ASCII characters: those of ASCII first, and then, after a
hyphen, a number for each of the others, in their order, that says where it stands.  The digits of a
number are of a base that adapts to the numbers before.  `Punycode.decode?` reads the form back.
-/

namespace ElasticPanels.Text.Punycode

/-- The quotient by which a distance becomes a bias, and the steps that lead there. -/
def scaled (delta : Nat) : Nat :=
  if 455 < delta then 36 + scaled (delta / 35) else 36 * delta / (delta + 38)
termination_by delta
decreasing_by omega

/-- The bias after a number: `count` code points are written, and the number may be the first. -/
def adapt (delta count : Nat) (isFirst : Bool) : Nat :=
  let halved := if isFirst then delta / 700 else delta / 2
  scaled (halved + halved / count)

/-- The bias of the first number. -/
def firstBias : Nat := 72

/-- The first code point that is not ASCII. -/
def firstCode : Nat := 128

/-- The least digit that does not end a number, at the place that counts `k`. -/
def threshold (bias k : Nat) : Nat :=
  if k ≤ bias then 1 else if bias + 26 ≤ k then 26 else k - bias

theorem threshold_pos (bias k : Nat) : 0 < threshold bias k := by
  unfold threshold
  split
  · decide
  · split <;> omega

/-- The character of a digit. -/
def digitChar (d : Nat) : Char :=
  if d < 26 then .ofNat ('a'.toNat + d) else .ofNat ('0'.toNat + (d - 26))

/-- The value of a digit. -/
def digitValue? (c : Char) : Option Nat :=
  if c.isUpper then some (c.toNat - 'A'.toNat)
  else if c.isLower then some (c.toNat - 'a'.toNat)
  else if c.isDigit then some (c.toNat - '0'.toNat + 26)
  else none

/-! ## Writing -/

/-- The digits of a number from the place that counts `k` on. -/
def digits (bias k n : Nat) : List Char :=
  let t := threshold bias k
  if n < t then [digitChar n]
  else digitChar (t + (n - t) % (36 - t)) :: digits bias (k + 36) ((n - t) / (36 - t))
termination_by n
decreasing_by
  have := threshold_pos bias k
  exact Nat.lt_of_le_of_lt (Nat.div_le_self _ _) (by omega)

/-- What has been written: the numbers so far, the code points they and the ASCII characters cover,
the distance since the last of them, and the bias. -/
structure Writer where
  output : List Char
  covered : Nat
  delta : Nat
  bias : Nat
  deriving DecidableEq, Repr

/-- Passes over a code point of the text while `code` is written. -/
def Writer.pass (ascii code : Nat) (w : Writer) (n : Nat) : Writer :=
  if n < code then { w with delta := w.delta + 1 }
  else if n = code then
    { output := w.output ++ digits w.bias 36 w.delta
      covered := w.covered + 1
      delta := 0
      bias := adapt w.delta (w.covered + 1) (w.covered == ascii) }
  else w

/-- Writes the code points of a list of codes, each at least `next`. -/
def writeCodes (ns : List Nat) (ascii next : Nat) (w : Writer) : List Nat → Writer
  | [] => w
  | code :: codes =>
    let w := { w with delta := w.delta + (code - next) * (w.covered + 1) }
    let w := ns.foldl (Writer.pass ascii code) w
    writeCodes ns ascii (code + 1) { w with delta := w.delta + 1 } codes

/-- The code points as ASCII characters. -/
def encode (ns : List Nat) : List Char :=
  let ascii := (ns.filter (· < firstCode)).map Char.ofNat
  let codes := ((ns.filter (firstCode ≤ ·)).mergeSort).eraseDups
  let opening := if ascii.isEmpty then [] else ascii ++ ['-']
  (writeCodes ns ascii.length firstCode ⟨opening, ascii.length, 0, firstBias⟩ codes).output

/-! ## Reading -/

/-- What has been read: the code points so far, the last of the codes, the index at which the next
search begins, the bias, and the number that is being read with the weight and the count of its
next place. -/
structure Reader where
  text : List Nat
  code : Nat
  index : Nat
  bias : Nat
  number : Nat
  weight : Nat
  place : Nat
  deriving DecidableEq, Repr

/-- Inserts the code point that a complete number tells of. -/
def Reader.insert? (r : Reader) (number : Nat) (isFirst : Bool) : Option Reader :=
  let total := r.index + number
  let size := r.text.length + 1
  let code := r.code + total / size
  let index := total % size
  if 0x10ffff < code then none
  else some
    { text := r.text.take index ++ code :: r.text.drop index
      code
      index := index + 1
      bias := adapt number size isFirst
      number := 0
      weight := 1
      place := 36 }

/-- Reads digits to the end. -/
def Reader.run? (ascii : Nat) (r : Reader) : List Char → Option (List Nat)
  | [] => if r.place = 36 then some r.text else none
  | c :: rest => do
    let d ← digitValue? c
    let t := threshold r.bias r.place
    let number := r.number + d * r.weight
    if d < t then (← r.insert? number (r.text.length == ascii)).run? ascii rest
    else run? ascii { r with number, weight := r.weight * (36 - t), place := r.place + 36 } rest

/-- The code points that ASCII characters write. -/
def decode? (cs : List Char) : Option (List Nat) :=
  let tail := (cs.reverse.takeWhile (· ≠ '-')).reverse
  let ascii := (cs.take (cs.length - tail.length)).dropLast.map Char.toNat
  Reader.run? ascii.length ⟨ascii, firstCode, 0, firstBias, 0, 1, 36⟩ tail

end ElasticPanels.Text.Punycode

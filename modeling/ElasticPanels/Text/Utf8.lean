/-!
# UTF-8

`encode` gives the bytes of a text.  `decode` reads any bytes: every part that is no character, and
cannot become one by further bytes, is read as the replacement character.
-/

namespace ElasticPanels.Text.Utf8

/-- The bytes of a text. -/
def encode (cs : List Char) : List UInt8 := (String.ofList cs).toUTF8.toList

/-- A character of which some bytes have been read: how many are missing, the range of the next
one, and the bits so far. -/
structure Pending where
  missing : Nat
  low : Nat
  high : Nat
  bits : Nat
  deriving DecidableEq, Repr

/-- What a first byte of several opens. -/
def opening? (b : Nat) : Option Pending :=
  if 0xc2 ≤ b ∧ b ≤ 0xdf then some ⟨1, 0x80, 0xbf, b - 0xc0⟩
  else if b = 0xe0 then some ⟨2, 0xa0, 0xbf, 0⟩
  else if b = 0xed then some ⟨2, 0x80, 0x9f, 0xd⟩
  else if 0xe1 ≤ b ∧ b ≤ 0xef then some ⟨2, 0x80, 0xbf, b - 0xe0⟩
  else if b = 0xf0 then some ⟨3, 0x90, 0xbf, 0⟩
  else if 0xf1 ≤ b ∧ b ≤ 0xf3 then some ⟨3, 0x80, 0xbf, b - 0xf0⟩
  else if b = 0xf4 then some ⟨3, 0x80, 0x8f, 4⟩
  else none

/-- Reads the first byte of a character. -/
def start (b : Nat) : List Char × Option Pending :=
  if b < 0x80 then ([.ofNat b], none)
  else
    match opening? b with
    | some p => ([], some p)
    | none => (['\ufffd'], none)

/-- Reads one byte. -/
def step (state : Option Pending) (b : Nat) : List Char × Option Pending :=
  match state with
  | none => start b
  | some p =>
    if p.low ≤ b ∧ b ≤ p.high then
      let bits := p.bits * 64 + (b - 0x80)
      if p.missing = 1 then ([.ofNat bits], none) else ([], some ⟨p.missing - 1, 0x80, 0xbf, bits⟩)
    else
      let (cs, next) := start b
      ('\ufffd' :: cs, next)

/-- Reads the bytes that follow a state. -/
def decodeFrom (state : Option Pending) : List UInt8 → List Char
  | [] => if state.isSome then ['\ufffd'] else []
  | b :: rest =>
    let (cs, next) := step state b.toNat
    cs ++ decodeFrom next rest

/-- The text of some bytes. -/
def decode (bytes : List UInt8) : List Char := decodeFrom none bytes

end ElasticPanels.Text.Utf8

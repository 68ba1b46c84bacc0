import ElasticPanels.Text.Utf8

/-!
# Percent encoding

`Percent.encode` writes every character outside a safe class as the bytes of its UTF-8 form, each
after a percent sign; `Percent.decode` reads such bytes back.  A percent sign that two hexadecimal
digits do not follow stands for itself.
-/

namespace ElasticPanels.Text.Percent

/-- A hexadecimal digit in capitals. -/
def hexCapital (n : Nat) : Char :=
  if n < 10 then .ofNat ('0'.toNat + n) else .ofNat ('A'.toNat + (n - 10))

/-- The escape of a byte. -/
def escape (b : UInt8) : List Char := ['%', hexCapital (b.toNat / 16), hexCapital (b.toNat % 16)]

/-- The text with every character that is not safe escaped. -/
def encode (safe : Char → Bool) (cs : List Char) : List Char :=
  cs.flatMap fun c => if safe c then [c] else (Utf8.encode [c]).flatMap escape

/-- The value of a hexadecimal digit of either case. -/
def hexValue? (c : Char) : Option Nat :=
  if '0' ≤ c ∧ c ≤ '9' then some (c.toNat - '0'.toNat)
  else if 'a' ≤ c ∧ c ≤ 'f' then some (c.toNat - 'a'.toNat + 10)
  else if 'A' ≤ c ∧ c ≤ 'F' then some (c.toNat - 'A'.toNat + 10)
  else none

/-- The byte that two hexadecimal digits write. -/
def byte? (high low : Char) : Option UInt8 := do
  return .ofNat ((← hexValue? high) * 16 + (← hexValue? low))

/-- The bytes of a text in which escapes stand for bytes. -/
def bytes : List Char → List UInt8
  | '%' :: high :: low :: rest =>
    match byte? high low with
    | some b => b :: bytes rest
    | none => Utf8.encode ['%'] ++ bytes (high :: low :: rest)
  | c :: rest => Utf8.encode [c] ++ bytes rest
  | [] => []

/-- The text with its escapes read. -/
def decode (cs : List Char) : List Char := Utf8.decode (bytes cs)

end ElasticPanels.Text.Percent

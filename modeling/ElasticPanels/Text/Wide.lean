import ElasticPanels.Text.Quoted
import ElasticPanels.Text.Utf8

/-!
# Texts in wide units

A message need not be in UTF-8: zeros among its first bytes show that it is in UTF-16 or UTF-32, and
in which order its bytes stand.  `decodeBody` finds the encoding and reads the bytes in it.  Halves
of surrogate pairs are kept, and what cannot be read is located by its byte.
-/

namespace ElasticPanels.Text

/-- The order of the bytes of a unit. -/
inductive ByteOrder
  | little
  | big
  deriving DecidableEq, Repr

/-- The name of an order. -/
def ByteOrder.name : ByteOrder → String
  | little => "le"
  | big => "be"

/-- The encodings of a message. -/
inductive BodyForm
  | bytes
  | pairs (order : ByteOrder)
  | quads (order : ByteOrder)
  deriving DecidableEq, Repr

/-- The name of an encoding. -/
def BodyForm.name : BodyForm → String
  | bytes => "utf-8"
  | pairs order => "utf-16-" ++ order.name
  | quads order => "utf-32-" ++ order.name

/-- Why some bytes cannot be read. -/
inductive ByteFlaw
  | truncated
  | outOfRange
  deriving DecidableEq, Repr

/-- The wording of a flaw. -/
def ByteFlaw.message : ByteFlaw → String
  | truncated => "truncated data"
  | outOfRange => "code point not in range(0x110000)"

/-- Bytes that cannot be read: their encoding, the first of them and its index, their number, and
why. -/
structure Undecodable where
  form : BodyForm
  first : UInt8
  start : Nat
  length : Nat
  flaw : ByteFlaw
  deriving DecidableEq, Repr

/-- The wording of bytes that cannot be read. -/
def Undecodable.message (u : Undecodable) : String :=
  let place :=
    if u.length = 1 then
      "byte 0x" ++ .ofList (hexDigits 2 u.first.toNat) ++ " in position " ++ toString u.start
    else "bytes in position " ++ toString u.start ++ "-" ++ toString (u.start + u.length - 1)
  "'" ++ u.form.name ++ "' codec can't decode " ++ place ++ ": " ++ u.flaw.message

namespace BodyForm

/-- The encoding that the first bytes of a message show. -/
def detect : List UInt8 → BodyForm
  | a :: b :: c :: d :: _ =>
    if a = 0 then (if b = 0 then quads .big else pairs .big)
    else if b = 0 then (if c = 0 ∧ d = 0 then quads .little else pairs .little)
    else bytes
  | [a, b] => if a = 0 then pairs .big else if b = 0 then pairs .little else bytes
  | _ => bytes

end BodyForm

/-- The number that bytes write, the lowest byte first. -/
def littleValue (bs : List UInt8) : Nat := bs.foldr (fun b n => b.toNat + 256 * n) 0

/-- The unit that bytes write. -/
def unitValue (order : ByteOrder) (bs : List UInt8) : Nat :=
  littleValue (match order with | .little => bs | .big => bs.reverse)

/-- The units of two bytes from the byte at `index` on. -/
def pairUnits (order : ByteOrder) (index : Nat) : List UInt8 → Except Undecodable (List Nat)
  | a :: b :: rest => do
    return unitValue order [a, b] :: (← pairUnits order (index + 2) rest)
  | [a] => .error ⟨.pairs order, a, index, 1, .truncated⟩
  | [] => .ok []

/-- The characters of UTF-16 units. -/
def ofUnits : List Nat → List Char
  | high :: low :: rest =>
    if opensPair high && closesPair low then ofPair high low :: ofUnits rest
    else ofUnit high :: ofUnits (low :: rest)
  | [unit] => [ofUnit unit]
  | [] => []

/-- The characters of units of four bytes from the byte at `index` on. -/
def quadChars (order : ByteOrder) (index : Nat) : List UInt8 → Except Undecodable (List Char)
  | a :: b :: c :: d :: rest =>
    let unit := unitValue order [a, b, c, d]
    if 0x110000 ≤ unit then .error ⟨.quads order, a, index, 4, .outOfRange⟩
    else do return ofUnit unit :: (← quadChars order (index + 4) rest)
  | a :: rest => .error ⟨.quads order, a, index, rest.length + 1, .truncated⟩
  | [] => .ok []

/-- The text of a message.  A byte order mark that opens it is dropped. -/
def decodeBody (bs : List UInt8) : Except Undecodable (List Char) :=
  match BodyForm.detect bs with
  | .bytes => match Utf8.decode bs with
    | '\ufeff' :: cs => .ok cs
    | cs => .ok cs
  | .pairs order => ofUnits <$> pairUnits order 0 bs
  | .quads order => quadChars order 0 bs

end ElasticPanels.Text

import ElasticPanels.Json.Basic
import ElasticPanels.Number.Numeral
import ElasticPanels.Text.Wide

/-!
# Reading JSON

`Json.read` reads one value from a text and refuses anything after it.  Besides the standard grammar
it takes `NaN`, `Infinity` and `-Infinity`; a repeated key keeps its first place and its last value,
and a whole number may not have more digits than `Numeral.digitLimit`.  A refusal says what was
expected and at which character.  `Json.readBody` reads the bytes of a message, and `Json.readPairs`
a text whose objects keep every entry as it was written.

The readers of the parts take the characters from their place on and give back the rest, so a
refusal is located by the rest it was found at.  Their first argument bounds the depth of calls;
`Json.read` passes one that is large enough for every text of the given length.
-/

namespace ElasticPanels

namespace Json

/-- What is wrong with a text that is not JSON. -/
inductive SyntaxFlaw
  | noValue
  | noKey
  | noColon
  | noComma
  | unterminated
  | controlCharacter
  | badEscape
  | badUnicodeEscape
  | extraData
  | byteOrderMark
  deriving DecidableEq, Repr

/-- A flaw and the index of the character it was found at, with that place as line and column. -/
structure SyntaxError where
  flaw : SyntaxFlaw
  index : Nat
  line : Nat
  column : Nat
  deriving DecidableEq, Repr

/-- The wording of a flaw. -/
def SyntaxFlaw.message : SyntaxFlaw → String
  | noValue => "Expecting value"
  | noKey => "Expecting property name enclosed in double quotes"
  | noColon => "Expecting ':' delimiter"
  | noComma => "Expecting ',' delimiter"
  | unterminated => "Unterminated string starting at"
  | controlCharacter => "Invalid control character at"
  | badEscape => "Invalid \\escape"
  | badUnicodeEscape => "Invalid \\uXXXX escape"
  | extraData => "Extra data"
  | byteOrderMark => "Unexpected UTF-8 BOM (decode using utf-8-sig)"

/-- The wording of an error, with its place. -/
def SyntaxError.message (e : SyntaxError) : String :=
  e.flaw.message ++ ": line " ++ toString e.line ++ " column " ++ toString e.column ++
    " (char " ++ toString e.index ++ ")"

/-- Why a part cannot be read: a flaw, located by the characters from its place to the end of the
text, or a whole number that is too long. -/
inductive Refusal
  | flawed (flaw : SyntaxFlaw) (rest : List Char)
  | tooManyDigits (count : Nat)
  deriving DecidableEq, Repr

/-- Why a text or a message cannot be read. -/
inductive ReadError
  | flawed (error : SyntaxError)
  | tooManyDigits (count : Nat)
  | undecodable (bytes : Text.Undecodable)
  deriving DecidableEq, Repr

/-- The error of a flaw that was found at `rest` within `text`. -/
def SyntaxFlaw.locate (flaw : SyntaxFlaw) (rest text : List Char) : SyntaxError :=
  let index := text.length - rest.length
  let before := text.take index
  ⟨flaw, index, 1 + before.count '\n', 1 + (before.reverse.takeWhile (· ≠ '\n')).length⟩

/-- The error of a refusal within `text`. -/
def Refusal.locate (text : List Char) : Refusal → ReadError
  | flawed flaw rest => .flawed (flaw.locate rest text)
  | tooManyDigits count => .tooManyDigits count

/-- The four characters that may stand between tokens. -/
def isGap (c : Char) : Bool := c = ' ' || c = '\t' || c = '\n' || c = '\r'

/-- The text from the first character that is no gap. -/
def skipGaps (cs : List Char) : List Char := cs.dropWhile isGap

/-! ## Strings -/

/-- The value of a hexadecimal digit. -/
def hexValue? (c : Char) : Option Nat :=
  if '0' ≤ c ∧ c ≤ '9' then some (c.toNat - '0'.toNat)
  else if 'a' ≤ c ∧ c ≤ 'f' then some (c.toNat - 'a'.toNat + 10)
  else if 'A' ≤ c ∧ c ≤ 'F' then some (c.toNat - 'A'.toNat + 10)
  else none

/-- The value of four hexadecimal digits. -/
def hexUnit? (a b c d : Char) : Option Nat := do
  return ((← hexValue? a) * 16 + (← hexValue? b)) * 256 + ((← hexValue? c) * 16 + (← hexValue? d))

/-- The character that a one-letter escape stands for. -/
def shortEscape? : Char → Option Char
  | '"' => some '"'
  | '\\' => some '\\'
  | '/' => some '/'
  | 'b' => some '\x08'
  | 'f' => some '\x0c'
  | 'n' => some '\n'
  | 'r' => some '\r'
  | 't' => some '\t'
  | _ => none

/-- A piece of a string: a character, or the UTF-16 unit of a Unicode escape. -/
inductive Piece
  | shown (c : Char)
  | unit (n : Nat)
  deriving DecidableEq, Repr

/-- The characters of the pieces; an escaped surrogate pair is one character. -/
def joinPieces : List Piece → List Char
  | .unit high :: .unit low :: rest =>
    if Text.opensPair high && Text.closesPair low then Text.ofPair high low :: joinPieces rest
    else Text.ofUnit high :: joinPieces (.unit low :: rest)
  | .unit n :: rest => Text.ofUnit n :: joinPieces rest
  | .shown c :: rest => c :: joinPieces rest
  | [] => []

/-- Reads the pieces of a string that was opened at `opening`, with the closing mark.  A Unicode
escape that the text ends with is refused before the missing mark is. -/
def readPieces (opening : List Char) : List Char → Except Refusal (List Piece × List Char)
  | [] => .error (.flawed .unterminated opening)
  | '"' :: rest => .ok ([], rest)
  | '\\' :: 'u' :: a :: b :: c :: d :: e :: rest =>
    match hexUnit? a b c d with
    | none => .error (.flawed .badUnicodeEscape ('u' :: a :: b :: c :: d :: e :: rest))
    | some n =>
      (readPieces opening (e :: rest)).map fun (pieces, after) => (.unit n :: pieces, after)
  | '\\' :: 'u' :: rest => .error (.flawed .badUnicodeEscape ('u' :: rest))
  | '\\' :: e :: rest =>
    match shortEscape? e with
    | none => .error (.flawed .badEscape ('\\' :: e :: rest))
    | some c => (readPieces opening rest).map fun (pieces, after) => (.shown c :: pieces, after)
  | ['\\'] => .error (.flawed .unterminated opening)
  | c :: rest =>
    if c.toNat < 0x20 then .error (.flawed .controlCharacter (c :: rest))
    else (readPieces opening rest).map fun (pieces, after) => (.shown c :: pieces, after)

/-- Reads the rest of a string that was opened at `opening`. -/
def readString (opening cs : List Char) : Except Refusal (String × List Char) :=
  (readPieces opening cs).map fun (pieces, after) => (.ofList (joinPieces pieces), after)

/-! ## Numbers -/

/-- The number that a run of decimal digits writes. -/
def digitsValue (ds : List Char) : Nat :=
  ds.foldl (fun n d => 10 * n + (d.toNat - '0'.toNat)) 0

/-- The leading decimal digits of a text, and what follows them. -/
def spanDigits (cs : List Char) : List Char × List Char :=
  (cs.takeWhile Char.isDigit, cs.dropWhile Char.isDigit)

/-- The digits of a whole part, and what follows them.  A leading zero stands alone. -/
def readWholePart : List Char → List Char × List Char
  | '0' :: rest => (['0'], rest)
  | cs => spanDigits cs

/-- The digits of a fraction, if a point and at least one digit come next. -/
def readFraction : List Char → List Char × List Char
  | '.' :: rest =>
    let (ds, after) := spanDigits rest
    if ds.isEmpty then ([], '.' :: rest) else (ds, after)
  | cs => ([], cs)

/-- The exponent, if a mark, an optional sign and at least one digit come next. -/
def readExponent (cs : List Char) : Option Int × List Char :=
  match cs with
  | mark :: rest =>
    if mark = 'e' ∨ mark = 'E' then
      let (negative, body) := match rest with
        | '-' :: body => (true, body)
        | '+' :: body => (false, body)
        | body => (false, body)
      let (ds, after) := spanDigits body
      if ds.isEmpty then (none, cs)
      else (some (if negative then -(digitsValue ds : Int) else digitsValue ds), after)
    else (none, cs)
  | [] => (none, [])

/-- Reads the magnitude of a number, which begins at `start`: a whole one if it has neither fraction
nor exponent. -/
def readMagnitude (start : List Char) (negative : Bool) (cs : List Char) :
    Except Refusal (Json × List Char) :=
  let (whole, after) := readWholePart cs
  if whole.isEmpty then .error (.flawed .noValue start)
  else
    let (fraction, after) := readFraction after
    let (exponent, after) := readExponent after
    if fraction.isEmpty && exponent.isNone then
      if Numeral.digitLimit < whole.length then .error (.tooManyDigits whole.length)
      else
        let size : Int := digitsValue whole
        .ok (.int (if negative then -size else size), after)
    else
      let e : Int := exponent.getD 0 - fraction.length
      .ok (.float (.ofDecimal negative (digitsValue (whole ++ fraction)) e), after)

/-- The words that stand for a value. -/
def wordValues : List (List Char × Json) :=
  [("null".toList, .null), ("true".toList, .bool true), ("false".toList, .bool false),
   ("NaN".toList, .float .nan), ("Infinity".toList, .float (.infinite false)),
   ("-Infinity".toList, .float (.infinite true))]

/-- Reads a word or a number. -/
def readScalar (cs : List Char) : Except Refusal (Json × List Char) :=
  match wordValues.find? fun word => word.1.isPrefixOf cs with
  | some (word, value) => .ok (value, cs.drop word.length)
  | none => match cs with
    | '-' :: rest => readMagnitude cs true rest
    | _ => readMagnitude cs false cs

/-! ## Values -/

/-- What is made of the entries of an object that was read. -/
abbrev Gather := List (String × Json) → List (String × Json)

mutual

/-- Reads one value. -/
def readValue (gather : Gather) : Nat → List Char → Except Refusal (Json × List Char)
  | 0, cs => .error (.flawed .noValue cs)
  | fuel + 1, cs =>
    match cs with
    | '"' :: rest => (readString cs rest).map fun (s, after) => (.str s, after)
    | '[' :: rest =>
      match skipGaps rest with
      | ']' :: after => .ok (.arr [], after)
      | start => (readItems gather fuel start).map fun (items, after) => (.arr items, after)
    | '{' :: rest =>
      match skipGaps rest with
      | '}' :: after => .ok (.obj [], after)
      | start =>
        (readFields gather fuel start).map fun (fields, after) => (.obj (gather fields), after)
    | _ => readScalar cs

/-- Reads one item or more, up to and with the closing bracket. -/
def readItems (gather : Gather) : Nat → List Char → Except Refusal (List Json × List Char)
  | 0, cs => .error (.flawed .noValue cs)
  | fuel + 1, cs => do
    let (item, after) ← readValue gather fuel cs
    match skipGaps after with
    | ']' :: rest => return ([item], rest)
    | ',' :: rest =>
      let (items, rest) ← readItems gather fuel (skipGaps rest)
      return (item :: items, rest)
    | other => throw (.flawed .noComma other)

/-- Reads one entry or more, up to and with the closing brace. -/
def readFields (gather : Gather) : Nat → List Char →
    Except Refusal (List (String × Json) × List Char)
  | 0, cs => .error (.flawed .noValue cs)
  | fuel + 1, cs => do
    match cs with
    | '"' :: inside =>
      let (key, after) ← readString cs inside
      match skipGaps after with
      | ':' :: rest =>
        let (value, after) ← readValue gather fuel (skipGaps rest)
        match skipGaps after with
        | '}' :: rest => return ([(key, value)], rest)
        | ',' :: rest =>
          let (fields, rest) ← readFields gather fuel (skipGaps rest)
          return ((key, value) :: fields, rest)
        | other => throw (.flawed .noComma other)
      | other => throw (.flawed .noColon other)
    | other => throw (.flawed .noKey other)

end

/-- Reads one value and what surrounds it, to the end of the text. -/
def readDocument (gather : Gather) (cs : List Char) : Except ReadError Json :=
  -- Two calls for each character are enough: one for a value, one for the list that it stands in.
  let outcome : Except Refusal Json := do
    let (value, after) ← readValue gather (2 * cs.length + 1) (skipGaps cs)
    match skipGaps after with
    | [] => return value
    | rest => throw (.flawed .extraData rest)
  outcome.mapError (Refusal.locate cs)

/-- Reads a text that must not open with a byte order mark. -/
def readText (gather : Gather) (s : String) : Except ReadError Json :=
  match s.toList with
  | '\ufeff' :: _ => .error (.flawed ⟨.byteOrderMark, 0, 1, 1⟩)
  | cs => readDocument gather cs

/-- Reads a text; a repeated key keeps its first place and its last value. -/
def read (s : String) : Except ReadError Json := readText Entries.ofPairs s

/-- Reads a text; the entries of an object are kept as the pairs that were written. -/
def readPairs (s : String) : Except ReadError Json := readText id s

/-- Reads the body of a message, in the encoding that its first bytes show. -/
def readBody (s : String) : Except ReadError Json :=
  match Text.decodeBody (Text.Utf8.encode s.toList) with
  | .ok cs => readDocument Entries.ofPairs cs
  | .error bytes => .error (.undecodable bytes)

end Json

end ElasticPanels

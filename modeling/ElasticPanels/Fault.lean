import ElasticPanels.Http.Status
import ElasticPanels.Json.Plain
import ElasticPanels.Json.Reader
import ElasticPanels.Text.Encoding
import ElasticPanels.Validation.Checked

/-!
# Faults

Everything that can stop an operation, by its cause.  Replies and settings are free-form values, so
a fault may be a value of the wrong kind deep inside one of them; other faults are invalid records,
texts that are not JSON or cannot be sent, errors reported by the search engine, and failed
requests.  `Fault.message?` is the one place that words them.
-/

namespace ElasticPanels

/-- How a request can fail without a reply. -/
inductive TransportFailure
  | connect
  | connectTimeout
  | readTimeout
  | writeTimeout
  | poolTimeout
  | read
  | write
  | close
  | proxy
  | protocol
  | localProtocol
  | unsupportedProtocol
  | decoding
  | tooManyRedirects
  deriving DecidableEq, Repr

/-- A reply whose status is no success, with the address of the request that it answers. -/
structure Rejection where
  code : Nat
  url : String
  body : String
  deriving DecidableEq, Repr

/-- The causes that stop an operation. -/
inductive Fault
  /-- A value of a kind that cannot be indexed, walked or counted as asked. -/
  | wrongKind
  /-- Entries were asked of a value that is no object. -/
  | notAnObject
  /-- A list is too short. -/
  | outOfRange
  /-- An object lacks a key. -/
  | missingKey (key : String)
  /-- A text that is no whole number. -/
  | notWhole (text : String)
  /-- A text for a whole number with too many digits. -/
  | tooManyDigits (count : Nat)
  /-- A whole number was asked of no number. -/
  | wholeOfNaN
  /-- A whole number was asked of an infinite one. -/
  | wholeOfInfinity
  /-- A text that is no number. -/
  | notNumber (text : String)
  /-- A variable of the environment that holds the character that ends it. -/
  | nulInVariable
  /-- An entry of a list that should hold pairs has another length. -/
  | notPair (index length : Nat)
  /-- A search type outside its enumeration, or an engine version. -/
  | notMemberOf (enumeration : String) (value : Json)
  /-- A lookup request that is no object. -/
  | lookupNotObject
  /-- A number that is not finite where the wire format has none. -/
  | notFiniteOnWire
  /-- An address that nothing can be asked of. -/
  | badUrl
  /-- A request whose address has no scheme, where cookies have to be looked up. -/
  | schemeless (url : String)
  /-- A text that is not JSON. -/
  | notJson (error : Json.SyntaxError)
  /-- Bytes that are no text. -/
  | undecodable (bytes : Text.Undecodable)
  /-- A text that the encoding of a message lacks characters for. -/
  | unencodable (gap : Text.Gap)
  /-- A response that cannot be written: it is too deep, or holds a text that UTF-8 lacks characters
  for. -/
  | unwritable (gap : Option Text.Gap)
  /-- A record that failed its checks. -/
  | invalid (record : String) (issues : List Issue)
  /-- The search engine refused a query and said why. -/
  | engine (error : Json)
  /-- A reply that is no success. -/
  | rejected (rejection : Rejection)
  /-- A request without a reply. -/
  | unreachable (failure : TransportFailure) (text : String)
  deriving Repr, Inhabited

/-- What an operation gives back. -/
abbrev Outcome (α : Type) := Except Fault α

/-- The value of a checked record, or its report. -/
def Checked.outcome {α : Type} (record : String) : Checked α → Outcome α
  | .ok a => .ok a
  | .bad issues => .error (.invalid record issues)

/-- The fault of a text that cannot be read as JSON. -/
def Json.ReadError.fault : Json.ReadError → Fault
  | .flawed error => .notJson error
  | .tooManyDigits count => .tooManyDigits count
  | .undecodable bytes => .undecodable bytes

/-- A text that the encoding has bytes for. -/
def Text.Encoding.require (e : Text.Encoding) (text : String) : Outcome Unit :=
  match e.gap? text.toList with
  | some gap => .error (.unencodable gap)
  | none => .ok ()

/-- The reason that the search engine gives: the one named in an error object, else the error. -/
def engineReason : Json → Json
  | .obj fields => (Entries.get? fields "reason").getD .null
  | error => error

/-- The wording of an error of the search engine. -/
def engineMessage (error : Json) : String := "Elasticsearch error: " ++ (engineReason error).plain

namespace Fault

/-- The wording of a fault, for those that have one. -/
def message? : Fault → Option String
  | wrongKind | notAnObject | outOfRange | badUrl => none
  | missingKey key => some key
  | notWhole text =>
    some ("invalid literal for int() with base 10: " ++
      .ofList ((Text.quoted text).toList.take 200))
  | tooManyDigits count =>
    some ("Exceeds the limit (" ++ toString Numeral.digitLimit ++
      " digits) for integer string conversion: value has " ++ toString count ++
      " digits; use sys.set_int_max_str_digits() to increase the limit")
  | wholeOfNaN => some "cannot convert float NaN to integer"
  | wholeOfInfinity => some "cannot convert float infinity to integer"
  | notNumber text => some ("could not convert string to float: " ++ Text.quoted text)
  | nulInVariable => some "embedded null byte"
  | notPair index length =>
    some ("dictionary update sequence element #" ++ toString index ++ " has length " ++
      toString length ++ "; 2 is required")
  | notMemberOf enumeration value =>
    some (value.literalText ++ " is not a valid " ++ enumeration)
  | lookupNotObject => some "Metric find query must be a JSON object"
  | notFiniteOnWire => some "Out of range float values are not JSON compliant"
  | schemeless url => some ("unknown url type: " ++ Text.quoted url)
  | notJson error => some error.message
  | undecodable bytes => some bytes.message
  | unencodable gap => some gap.message
  | unwritable gap =>
    some ("Error serializing to JSON: " ++ match gap with
      | some gap => "UnicodeEncodeError: " ++ gap.message
      | none => "ValueError: Maximum serialization depth exceeded")
  | invalid record issues =>
    some (toString issues.length ++ " validation error" ++
      (if issues.length = 1 then "" else "s") ++ " for " ++ record)
  | engine error => some (engineMessage error)
  | rejected rejection => some (Http.statusMessage rejection.code rejection.url)
  | unreachable _ text => some text

/-- Whether the fault lies in a value that cannot be read as what it should be. -/
def isBadValue : Fault → Bool
  | notWhole _ | tooManyDigits _ | wholeOfNaN | notNumber _ | nulInVariable | notPair ..
  | notMemberOf .. | lookupNotObject | notFiniteOnWire | schemeless _ | notJson _ | undecodable _
  | unencodable _ | unwritable _ | invalid .. => true
  | _ => false

/-- Whether the fault is a failed request, with a reply or without. -/
def isFailedRequest : Fault → Bool
  | rejected _ | unreachable .. => true
  | _ => false

end Fault

namespace Json

/-! ## Free-form values

The ways in which an operation looks into a value of unknown kind. -/

/-- The entry under a key that must be there. -/
def entry (value : Json) (key : String) : Outcome Json :=
  match value with
  | .obj fields => match Entries.get? fields key with
    | some found => .ok found
    | none => .error (.missingKey key)
  | _ => .error .wrongKind

/-- The entry under a key of an object, if it is there. -/
def entry? (value : Json) (key : String) : Outcome (Option Json) :=
  match value with
  | .obj fields => .ok (Entries.get? fields key)
  | _ => .error .notAnObject

/-- The entry under a key of an object, or a default. -/
def entryD (value : Json) (key : String) (default : Json) : Outcome Json := do
  return (← value.entry? key).getD default

/-- The item at a position.  A text has characters as items, and an object no positions. -/
def item (value : Json) (i : Nat) : Outcome Json :=
  match value with
  | .arr items => match items[i]? with
    | some found => .ok found
    | none => .error .outOfRange
  | .str s => match s.toList[i]? with
    | some c => .ok (.str (.singleton c))
    | none => .error .outOfRange
  | .obj _ => .error (.missingKey (toString i))
  | _ => .error .wrongKind

/-- The items to walk: those of a list, the characters of a text, the keys of an object. -/
def walk : Json → Outcome (List Json)
  | .arr items => .ok items
  | .str s => .ok (s.toList.map fun c => .str (.singleton c))
  | .obj fields => .ok (fields.map fun field => .str field.1)
  | _ => .error .wrongKind

/-- The whole number that a setting stands for; a float loses its fraction. -/
def wholeNumber : Json → Outcome Int
  | .int n => .ok n
  | .bool b => .ok (if b then 1 else 0)
  | .float .nan => .error .wholeOfNaN
  | .float x => match x.truncate? with
    | some n => .ok n
    | none => .error .wholeOfInfinity
  | .str s => match Numeral.readWhole s with
    | .ok n => .ok n
    | .error (.tooManyDigits count) => .error (.tooManyDigits count)
    | .error .unreadable => .error (.notWhole s)
  | _ => .error .wrongKind

end Json

end ElasticPanels

/-!
# What can be wrong with a record

An `Issue` says where in a record a value does not fit and how.  Records are validated as a whole,
so a report lists every issue.
-/

namespace ElasticPanels

/-- One step of the way into a record: the name of a field, or a number, which is the index of an
item or a key that is a number.  A branch is one of several ways to read the same value. -/
inductive Step
  | name (field : String)
  | index (i : Int)
  | branch (reading : String)
  deriving DecidableEq, Repr

/-- How a value fails to fit.  Members are given as they are written in a message. -/
inductive Flaw
  | missing
  | notRecord
  | notAttributes
  | notText
  | notUnicode
  | notList
  | notObject
  | notMember (members : List String)
  | notConstant (constant : String)
  | notBool
  | unreadableBool
  | notInt
  | unreadableInt
  | intFromFraction
  | intTooLong
  | notFinite
  | tooSmall (least : Int)
  | notFloat
  | unreadableFloat
  | notTuple
  | tupleTooLong (most length : Nat)
  | textTooShort (least : Nat)
  | badJson (reason : String)
  deriving DecidableEq, Repr

/-- The code of a flaw. -/
def Flaw.code : Flaw → String
  | missing => "missing"
  | notRecord => "model_type"
  | notAttributes => "model_attributes_type"
  | notText => "string_type"
  | notUnicode => "string_unicode"
  | notList => "list_type"
  | notObject => "dict_type"
  | notMember _ => "enum"
  | notConstant _ => "literal_error"
  | notBool => "bool_type"
  | unreadableBool => "bool_parsing"
  | notInt => "int_type"
  | unreadableInt => "int_parsing"
  | intFromFraction => "int_from_float"
  | intTooLong => "int_parsing_size"
  | notFinite => "finite_number"
  | tooSmall _ => "greater_than_equal"
  | notFloat => "float_type"
  | unreadableFloat => "float_parsing"
  | notTuple => "tuple_type"
  | tupleTooLong .. => "too_long"
  | textTooShort _ => "string_too_short"
  | badJson _ => "json_invalid"

/-- Some alternatives in words: commas between them, and "or" before the last. -/
def Flaw.alternatives : List String → String
  | [] => ""
  | [a] => a
  | [a, b] => a ++ " or " ++ b
  | a :: rest => a ++ ", " ++ alternatives rest

/-- A number of things, of which one or several have the given name. -/
def Flaw.counted (n : Nat) (thing : String) : String :=
  toString n ++ " " ++ thing ++ (if n = 1 then "" else "s")

/-- The wording of a flaw. -/
def Flaw.message : Flaw → String
  | missing => "Field required"
  | notRecord => "Input should be a valid dictionary or instance of the record"
  | notAttributes => "Input should be a valid dictionary or object to extract fields from"
  | notText => "Input should be a valid string"
  | notUnicode => "Input should be a valid string, unable to parse raw data as a unicode string"
  | notList => "Input should be a valid list"
  | notObject => "Input should be a valid dictionary"
  | notMember members => "Input should be " ++ alternatives members
  | notConstant constant => "Input should be " ++ constant
  | notBool => "Input should be a valid boolean"
  | unreadableBool => "Input should be a valid boolean, unable to interpret input"
  | notInt => "Input should be a valid integer"
  | unreadableInt => "Input should be a valid integer, unable to parse string as an integer"
  | intFromFraction => "Input should be a valid integer, got a number with a fractional part"
  | intTooLong => "Unable to parse input string as an integer, exceeded maximum size"
  | notFinite => "Input should be a finite number"
  | tooSmall least => "Input should be greater than or equal to " ++ toString least
  | notFloat => "Input should be a valid number"
  | unreadableFloat => "Input should be a valid number, unable to parse string as a number"
  | notTuple => "Input should be a valid tuple"
  | tupleTooLong most length =>
    "Tuple should have at most " ++ counted most "item" ++ " after validation, not " ++
      toString length
  | textTooShort least => "String should have at least " ++ counted least "character"
  | badJson _ => "JSON decode error"

/-- A flaw and the way to the value that has it. -/
structure Issue where
  path : List Step
  flaw : Flaw
  deriving DecidableEq, Repr

/-- The issue seen from one step further out. -/
def Issue.under (step : Step) (issue : Issue) : Issue := { issue with path := step :: issue.path }

end ElasticPanels

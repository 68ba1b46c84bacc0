/-!
# Categories of field types

The engine has more field types than a field picker needs to tell apart; `FieldCategory.ofType?`
groups those that do belong together.
-/

namespace ElasticPanels

/-- The groups of field types. -/
inductive FieldCategory
  | number
  | string
  | date
  | nested
  deriving DecidableEq, Repr

namespace FieldCategory

/-- The wire name. -/
def name : FieldCategory → String
  | number => "number"
  | string => "string"
  | date => "date"
  | nested => "nested"

/-- The category of a field type, if it has one. -/
def ofType? (type : String) : Option FieldCategory :=
  match type with
  | "float" | "double" | "integer" | "long" | "scaled_float" => some number
  | "string" | "text" => some string
  | "date" => some date
  | "nested" => some nested
  | _ => none

end FieldCategory

end ElasticPanels

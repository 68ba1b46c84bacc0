import ElasticPanels.Json.Basic

/-!
# Paths into a value

`Json.at?` follows keys from object to object.
-/

namespace ElasticPanels.Json

/-- What stands at the end of a path of keys, if each of them is a key of the object before it. -/
def at? : Json → List String → Option Json
  | value, [] => some value
  | obj fields, key :: path => (Entries.get? fields key).bind (at? · path)
  | _, _ :: _ => none

@[simp] theorem at?_nil (value : Json) : value.at? [] = some value := by
  cases value <;> rfl

@[simp] theorem at?_obj (fields : List (String × Json)) (key : String) (path : List String) :
    (obj fields).at? (key :: path) = (Entries.get? fields key).bind (at? · path) := rfl

theorem at?_append (value : Json) (path more : List String) :
    value.at? (path ++ more) = (value.at? path).bind (at? · more) := by
  induction path generalizing value with
  | nil => simp
  | cons key path ih =>
    cases value with
    | obj fields => simp [ih, Option.bind_assoc]
    | null | bool | int | float | str | arr => rfl

end ElasticPanels.Json

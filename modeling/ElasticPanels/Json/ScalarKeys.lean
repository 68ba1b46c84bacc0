import ElasticPanels.Json.Printer

/-!
# Entries keyed by scalars

Labels and pairs that come from free-form values may use any scalar as a key.  Two keys are the same
if they are equal texts or equal numbers, a truth value counting as zero or one; `putScalar`
overwrites the entry of such a key in its place.  On the wire every key is a text.
-/

namespace ElasticPanels.Json

/-- Whether a value can be a key. -/
def isScalar : Json → Bool
  | arr _ | obj _ => false
  | _ => true

/-- The whole number that a truth value or whole number stands for. -/
def asInt? : Json → Option Int
  | bool b => some (if b then 1 else 0)
  | int n => some n
  | _ => none

/-- Whether two scalars are the same key. -/
def sameKey (a b : Json) : Bool :=
  match a, b with
  | null, null => true
  | str s, str t => s == t
  | float x, float y => x == y || (x.isZero && y.isZero)
  | float x, other | other, float x =>
    match other.asInt? with
    | some n => x.equalsInt n
    | none => false
  | _, _ =>
    match a.asInt?, b.asInt? with
    | some m, some n => m == n
    | _, _ => false

/-- Writes `value` under a scalar key, in the place of the entry with the same key. -/
def putScalar {α : Type} : List (Json × α) → Json → α → List (Json × α)
  | [], key, value => [(key, value)]
  | (k, v) :: rest, key, value =>
    if sameKey k key then (k, value) :: rest else (k, v) :: putScalar rest key value

/-- The text of a scalar key on the wire. -/
def keyText : Json → String
  | str s => s
  | key => key.spacedText

end ElasticPanels.Json

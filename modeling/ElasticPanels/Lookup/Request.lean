import ElasticPanels.Fault
import ElasticPanels.Panel.Request

/-!
# Reading lookups

A lookup comes as an object or as a JSON text.  An empty one asks for nothing.
-/

namespace ElasticPanels.Lookup

/-- Reads a lookup that has been parsed; `none` if it asks for nothing. -/
def ofJson (value : Json) : Outcome (Option Lookup) :=
  if value.truthy then
    match value with
    | .obj fields => some <$> (Lookup.check .notRecord (.obj fields)).outcome "MetaQuery"
    | _ => throw .lookupNotObject
  else return none

/-- Reads a lookup; a text is parsed first. -/
def read (raw : Json) : Outcome (Option Lookup) :=
  if raw.truthy then
    match raw with
    | .str s => do ofJson (← (Json.read s).mapError Json.ReadError.fault)
    | value => ofJson value
  else return none

/-- What a lookup finds. -/
inductive Target
  | fields
  | terms
  | other
  deriving DecidableEq, Repr

/-- The name of a target. -/
def Target.name : Target → String
  | fields => "fields"
  | terms => "terms"
  | other => "other"

/-- The target of a lookup. -/
def target (l : Lookup) : Target :=
  match l.find with
  | .str "fields" => .fields
  | .str "terms" => .terms
  | _ => .other

end ElasticPanels.Lookup

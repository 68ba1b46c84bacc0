import ElasticPanels.Fault
import ElasticPanels.Validation.Checked

/-!
# Suggestions

The terms of a field are offered as suggestions, each with a label to show and a value to use.
-/

namespace ElasticPanels

/-- A term to choose from.  Label and value are texts or numbers. -/
structure Suggestion where
  label : Json
  value : Json
  deriving Repr, Inhabited

namespace Suggestion

/-- Checks a label or value: a text or number as it is, and a truth value as zero or one. -/
def checkScalar : Check Json
  | .str s => .ok (.str s)
  | .int n => .ok (.int n)
  | .float x => .ok (.float x)
  | .bool b => .ok (.int (if b then 1 else 0))
  | _ => .bad [⟨[.branch "str"], .notText⟩, ⟨[.branch "int"], .notInt⟩,
      ⟨[.branch "float"], .notFloat⟩]

/-- Checks a suggestion. -/
def check (wrong : Flaw) : Check Suggestion := Check.record wrong fun fields =>
  Suggestion.mk <$> Check.required fields "label" checkScalar
    <*> Check.required fields "value" checkScalar

/-- The wire form of a suggestion. -/
def toJson (s : Suggestion) : Json := .obj [("label", s.label), ("value", s.value)]

/-- The suggestion of a bucket; its label is the key as the engine words it, else the key. -/
def ofBucket (bucket : Json) : Outcome Suggestion := do
  let worded ← bucket.entryD "key_as_string" .null
  let label ← if worded.truthy then pure worded else bucket.entry "key"
  let value ← bucket.entry "key"
  (check .notRecord (.obj [("label", label), ("value", value)])).outcome "SuggestionItem"

/-- The suggestions of a slot, in the order of the buckets of the named aggregation.  An absent
aggregation found nothing. -/
def ofSlot (slot : Json) (aggregation : String) : Outcome (List Suggestion) := do
  let found ← slot.entryD "aggregations" .null
  let aggregations := if found.truthy then found else .obj []
  let terms ← aggregations.entryD aggregation .null
  if terms.truthy then (← (← terms.entryD "buckets" (.arr [])).walk).mapM ofBucket else return []

end Suggestion

end ElasticPanels

import ElasticPanels.Lookup.Request
import ElasticPanels.Lookup.Suggestion
import ElasticPanels.Mapping.Listing

/-!
# What lookups find

A lookup finds fields or terms.  The lookups that a service offers under names of their own are
`Lookup.ofKind`, for the fields of one kind, `Lookup.ofAll`, for all fields, and `Lookup.ofField`,
for all terms of a field.
-/

namespace ElasticPanels

/-- What a lookup found; an empty one asked for nothing. -/
inductive Findings
  | nothing
  | fields (found : List FieldDescriptor)
  | terms (found : List Suggestion)
  deriving Repr, Inhabited

/-- The wire form of findings. -/
def Findings.toJson : Findings → Json
  | nothing => .arr []
  | fields found => .arr (found.map FieldDescriptor.toJson)
  | terms found => .arr (found.map Suggestion.toJson)

namespace Lookup

/-- The lookup of the fields of a kind, or of all fields if the kind is null. -/
def ofKind (kind : Json) : Outcome Lookup :=
  (Lookup.check .notRecord (.obj [("find", .str "fields"), ("type", kind)])).outcome "MetaQuery"

/-- The lookup of all fields. -/
def ofAll : Outcome Lookup :=
  (Lookup.check .notRecord (.obj [("find", .str "fields")])).outcome "MetaQuery"

/-- The lookup of all terms of a field. -/
def ofField (field : Json) : Outcome Lookup :=
  (Lookup.check .notRecord
    (.obj [("find", .str "terms"), ("field", field), ("query", .str "*")])).outcome "MetaQuery"

theorem ofAll_eq : ofAll = ofKind .null := rfl

end Lookup

end ElasticPanels

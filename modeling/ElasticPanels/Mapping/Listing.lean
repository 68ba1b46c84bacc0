import ElasticPanels.Mapping.Category
import ElasticPanels.Mapping.Declaration
import ElasticPanels.Text.Surrogate
import ElasticPanels.Validation.Checked

/-!
# Field listings

A listing gives one type to each path: that of its last declaration among those that are shown and
pass the type filter.
-/

namespace ElasticPanels

/-- A field of an index. -/
structure FieldDescriptor where
  path : String
  type : String
  deriving DecidableEq, Repr, Inhabited

/-- Checks a field descriptor. -/
def FieldDescriptor.check (wrong : Flaw) : Check FieldDescriptor := Check.record wrong fun fields =>
  FieldDescriptor.mk <$> Check.required fields "path" Check.text
    <*> Check.required fields "type" Check.text

/-- The wire form of a field descriptor. -/
def FieldDescriptor.toJson (d : FieldDescriptor) : Json :=
  .obj [("path", .str d.path), ("type", .str d.type)]

namespace Mapping

/-- Whether a type passes a filter: the filter is absent or empty, or names the type or its
category. -/
def passes (filter : Option String) (type : String) : Bool :=
  match filter with
  | none => true
  | some wanted =>
    wanted.isEmpty || wanted == type || (FieldCategory.ofType? type).any (·.name == wanted)

/-- A field whose own key begins with an underscore belongs to the engine and is not shown. -/
def Declaration.isShown (d : Declaration) : Bool := d.key.toList.head? ≠ some '_'

/-- The listing that some declarations make, by path. -/
def listing (filter : Option String) (ds : List Declaration) : Entries FieldDescriptor :=
  .ofPairs ((ds.filter fun d => d.isShown && passes filter d.type).map fun d =>
    (d.path, ⟨d.path, d.type⟩))

/-- The listing of a reply, by path. -/
def flatten (reply : Json) (filter : Option String) : Outcome (Entries FieldDescriptor) :=
  return listing filter (← declarations reply)

/-- The descriptors of a listing by path.  The order of a listing is not one to rely on; that of the
mapping is not kept, and this one is a choice made here. -/
def sorted (fields : Entries FieldDescriptor) : List FieldDescriptor :=
  fields.values.mergeSort fun a b => Text.inOrder a.path b.path

end Mapping

end ElasticPanels

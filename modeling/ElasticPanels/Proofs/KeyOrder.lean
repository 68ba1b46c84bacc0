import ElasticPanels.Proofs.FieldListings

/-!
# The order of the keys of a mapping

Two values may differ in the order in which their objects have their keys, at any level
(`Json.Reordered`).  A field that is shown in one mapping is then shown in the other, with the same
type, though at another place (`ShownAt.reordered`).  So the listings of both have the same paths,
and they can differ in the type of a path only if it is shown with several types
(`flatten_reordered`).
-/

namespace ElasticPanels

namespace Json

/-- The values differ at most in the order of the keys of their objects.  An object has each of its
keys once. -/
inductive Reordered : Json → Json → Prop
  | same (value : Json) : Reordered value value
  | arr {items items' : List Json} (length : items.length = items'.length)
      (each : ∀ (i : ℕ) (v v' : Json), items[i]? = some v → items'[i]? = some v' →
        Reordered v v') : Reordered (.arr items) (.arr items')
  | obj {fields fields' : Entries Json} (once : fields.keys.Nodup)
      (keys : fields.keys.Perm fields'.keys)
      (each : ∀ (key : String) (v v' : Json), fields.get? key = some v →
        fields'.get? key = some v' → Reordered v v') : Reordered (.obj fields) (.obj fields')

namespace Reordered

theorem symm {v v' : Json} (h : Reordered v v') : Reordered v' v := by
  induction h with
  | same v => exact .same v
  | arr length _ ih => exact .arr length.symm fun i v v' found found' => ih i v' v found' found
  | obj once keys _ ih =>
    exact .obj (keys.nodup_iff.1 once) keys.symm fun key v v' found found' =>
      ih key v' v found' found

theorem of_perm {fields fields' : Entries Json} (once : fields.keys.Nodup)
    (order : fields.Perm fields') : Reordered (.obj fields) (.obj fields') := by
  have keys : fields.keys.Perm fields'.keys := order.map Prod.fst
  refine .obj once keys fun key v v' found found' => ?_
  have there : (key, v) ∈ fields' := order.subset (Entries.mem_of_get? found)
  have same := Entries.get?_of_mem (keys.nodup_iff.1 once) there
  obtain rfl := Option.some.inj (same.symm.trans found')
  exact .same v

/-- Objects with a single entry, whose values may be reordered. -/
theorem entry (key : String) {v v' : Json} (h : Reordered v v') :
    Reordered (.obj [(key, v)]) (.obj [(key, v')]) := by
  refine .obj (List.nodup_singleton _) (.refl _) fun other w w' found found' => ?_
  rw [Entries.get?_cons] at found found'
  split_ifs at found found' with same
  · obtain rfl := Option.some.inj found
    obtain rfl := Option.some.inj found'
    exact h
  · cases found

theorem eq_str {s : String} {v : Json} (h : Reordered (.str s) v) : v = .str s := by
  cases h
  rfl

theorem exists_obj {fields : Entries Json} {v : Json} (h : Reordered (.obj fields) v) :
    ∃ fields' : Entries Json, v = .obj fields' := by
  cases h with
  | same => exact ⟨fields, rfl⟩
  | obj => exact ⟨_, rfl⟩

section Fields

variable {fields fields' : Entries Json} (h : Reordered (.obj fields) (.obj fields'))
include h

theorem get? {key : String} {v : Json} (found : fields.get? key = some v) :
    ∃ v', fields'.get? key = some v' ∧ Reordered v v' := by
  cases h with
  | same => exact ⟨v, found, .same v⟩
  | obj once keys each =>
    have there : key ∈ fields'.keys := keys.subset (Entries.mem_keys_iff.2 ⟨v, found⟩)
    obtain ⟨v', found'⟩ := Entries.get?_of_mem_keys there
    exact ⟨v', found', each key v v' found found'⟩

/-- An entry is there under its key, but perhaps at another position. -/
theorem getElem? {i : ℕ} {key : String} {v : Json} (here : fields[i]? = some (key, v)) :
    ∃ (j : ℕ) (v' : Json), fields'[j]? = some (key, v') ∧ Reordered v v' := by
  have moved (found : fields.get? key = some v) := h.get? found
  cases h with
  | same => exact ⟨i, v, here, .same v⟩
  | obj once =>
    obtain ⟨v', found', same⟩ :=
      moved (Entries.get?_of_mem once (List.mem_of_getElem? here))
    obtain ⟨j, there⟩ := List.getElem?_of_mem (Entries.mem_of_get? found')
    exact ⟨j, v', there, same⟩

end Fields

end Reordered

end Json

namespace Mapping

open Json (Reordered)

/-! ## Fields of a reordered mapping -/

/-- A node below another one is below it in any order of the keys, past the same branches and keys,
though at other positions. -/
theorem Leads.reordered {node last : Entries Json} {steps : List Descent} {keys : List String}
    (h : Leads node steps keys last) {node' : Entries Json}
    (order : Reordered (.obj node) (.obj node')) :
    ∃ steps' last', Leads node' steps' keys last' ∧ Reordered (.obj last) (.obj last') ∧
      steps'.map Descent.branch = steps.map Descent.branch := by
  induction h generalizing node' with
  | here node => exact ⟨[], node', .here node', order, rfl⟩
  | @down node children child last step steps key keys into atChild onward ih =>
    obtain ⟨_, into', below⟩ := order.get? into
    obtain ⟨children', rfl⟩ := below.exists_obj
    obtain ⟨j, _, atChild', inside⟩ := below.getElem? atChild
    obtain ⟨child', rfl⟩ := inside.exists_obj
    obtain ⟨steps', last', leads, lastOrder, branches⟩ := ih inside
    refine ⟨⟨step.branch, j⟩ :: steps', last', .down into' atChild' leads, lastOrder, ?_⟩
    rw [List.map_cons, List.map_cons, branches]

section Reordered

variable {indices indices' : Entries Json} (order : Reordered (.obj indices) (.obj indices'))
include order

theorem DeclaredAt.reordered {place : Place} {keys : List String} {type : String}
    (h : DeclaredAt indices place keys type) : ∃ place', DeclaredAt indices' place' keys type := by
  obtain ⟨atIndex, mapped, atType, leads, typed⟩ := h
  obtain ⟨i, _, atIndex', indexOrder⟩ := order.getElem? atIndex
  obtain ⟨index', rfl⟩ := indexOrder.exists_obj
  obtain ⟨_, mapped', typesOrder⟩ := indexOrder.get? mapped
  obtain ⟨types', rfl⟩ := typesOrder.exists_obj
  obtain ⟨j, _, atType', docOrder⟩ := typesOrder.getElem? atType
  obtain ⟨docType', rfl⟩ := docOrder.exists_obj
  obtain ⟨steps', node', leads', nodeOrder, branches⟩ := leads.reordered docOrder
  obtain ⟨_, typed', typeOrder⟩ := nodeOrder.get? typed
  obtain rfl := typeOrder.eq_str
  obtain ⟨⟨_, k⟩, rest, rfl, rfl, -⟩ := List.map_eq_cons_iff.1 branches
  exact ⟨(i, j, ⟨.properties, k⟩ :: rest), .mk atIndex' mapped' atType' leads' typed'⟩

theorem ShownAt.reordered {filter : Option String} {place : Place} {path type : String}
    (h : ShownAt indices filter place path type) :
    ∃ place', ShownAt indices' filter place' path type := by
  obtain ⟨declared, visible, passing⟩ := h
  obtain ⟨place', declared'⟩ := declared.reordered order
  exact ⟨place', .mk declared' visible passing⟩

end Reordered

theorem mem_keys_listing_declared {indices : Entries Json} {filter : Option String}
    {path : String} : path ∈ (listing filter (declared indices)).keys ↔
      ∃ place type, ShownAt indices filter place path type := by
  rw [mem_keys_listing]
  constructor
  · rintro ⟨d, hd, same⟩
    obtain ⟨place, shown⟩ := exists_shownAt_iff.2 ⟨d, hd, same, rfl⟩
    exact ⟨place, d.type, shown⟩
  · rintro ⟨place, type, shown⟩
    obtain ⟨d, hd, same, -⟩ := exists_shownAt_iff.1 ⟨place, shown⟩
    exact ⟨d, hd, same⟩

/-- A path that is shown with one type only has this type in the listing. -/
theorem get?_listing_of_only {indices : Entries Json} {filter : Option String} {path type : String}
    (present : path ∈ (listing filter (declared indices)).keys)
    (only : ∀ place other, ShownAt indices filter place path other → other = type) :
    (listing filter (declared indices)).get? path = some ⟨path, type⟩ := by
  obtain ⟨⟨_, other⟩, found⟩ := Entries.get?_of_mem_keys present
  obtain rfl := (get?_listing_eq_some_iff.1 found).1
  obtain ⟨place, shown, -⟩ := get?_listing_declared.1 found
  obtain rfl := only place other shown
  exact found

/-- The listings of two mappings that differ only in the order of their keys.  They have the same
paths, and a path that is shown with one type only has this type in both. -/
theorem flatten_reordered {indices indices' : Entries Json}
    (order : Reordered (.obj indices) (.obj indices')) (filter : Option String) :
    ∃ fields fields', flatten (.obj indices) filter = .ok fields ∧
      flatten (.obj indices') filter = .ok fields' ∧
      (∀ path, path ∈ fields.keys ↔ path ∈ fields'.keys) ∧
      ∀ path type, path ∈ fields.keys →
        (∀ place other, ShownAt indices filter place path other → other = type) →
        fields.get? path = some ⟨path, type⟩ ∧ fields'.get? path = some ⟨path, type⟩ := by
  have paths (path : String) : path ∈ (listing filter (declared indices)).keys ↔
      path ∈ (listing filter (declared indices')).keys := by
    rw [mem_keys_listing_declared, mem_keys_listing_declared]
    constructor
    · rintro ⟨place, type, shown⟩
      obtain ⟨place', shown'⟩ := shown.reordered order
      exact ⟨place', type, shown'⟩
    · rintro ⟨place, type, shown⟩
      obtain ⟨place', shown'⟩ := shown.reordered order.symm
      exact ⟨place', type, shown'⟩
  refine ⟨_, _, flatten_obj indices filter, flatten_obj indices' filter, paths,
    fun path type present only => ⟨get?_listing_of_only present only, ?_⟩⟩
  refine get?_listing_of_only ((paths path).1 present) fun place other shown => ?_
  obtain ⟨place', shown'⟩ := shown.reordered order.symm
  exact only place' other shown'

/-- A field of the given type. -/
def fieldOf (type : String) : Json := .obj [("type", .str type)]

/-- Two indices in either order, with the properties of the first in either order.  The path that
both declare with different types takes its type from the index that comes last. -/
theorem oldAndNew_reordered :
    let message : Json := .obj [("type", .str "text"), ("fields", .obj [("raw", fieldOf "keyword")])]
    let new : Json := mappingOf [("code", fieldOf "keyword")]
    let indices : Entries Json :=
      [("old", mappingOf [("message", message), ("code", fieldOf "long")]), ("new", new)]
    let indices' : Entries Json :=
      [("new", new), ("old", mappingOf [("code", fieldOf "long"), ("message", message)])]
    Reordered (.obj indices) (.obj indices') ∧
      ∃ fields fields', flatten (.obj indices) none = .ok fields ∧
        flatten (.obj indices') none = .ok fields' ∧
        (∀ path, path ∈ fields.keys ↔ path ∈ fields'.keys) ∧
        fields.get? "message" = some ⟨"message", "text"⟩ ∧
        fields'.get? "message" = some ⟨"message", "text"⟩ ∧
        fields.get? "code" = some ⟨"code", "keyword"⟩ ∧
        fields'.get? "code" = some ⟨"code", "long"⟩ := by
  intro message new indices indices'
  have properties : Reordered (mappingOf [("message", message), ("code", fieldOf "long")])
      (mappingOf [("code", fieldOf "long"), ("message", message)]) :=
    .entry _ (.entry _ (.entry _ (.of_perm (by decide) (.swap _ _ _))))
  have order : Reordered (.obj indices) (.obj indices') := by
    refine .obj (by decide) (.swap _ _ _) fun key v v' found found' => ?_
    simp only [indices, indices', Entries.get?_cons, Entries.get?_nil] at found found'
    split_ifs at found found' with old new
    · exact absurd (old.symm.trans new) (by decide)
    · obtain rfl := Option.some.inj found
      obtain rfl := Option.some.inj found'
      exact properties
    · obtain rfl := Option.some.inj found
      obtain rfl := Option.some.inj found'
      exact .same _
  have only (place : Place) (other : String)
      (shown : ShownAt indices none place "message" other) : other = "text" := by
    obtain ⟨d, hd, path, rfl⟩ := exists_shownAt_iff.1 ⟨place, shown⟩
    have all : ∀ d ∈ Mapping.shown none (declared indices), d.path = "message" →
        d.type = "text" := by decide
    exact all d hd path
  obtain ⟨fields, fields', listed, listed', paths, types⟩ := flatten_reordered order none
  obtain rfl := Except.ok.inj listed
  obtain rfl := Except.ok.inj listed'
  obtain ⟨first, second⟩ := types "message" "text" (by decide) only
  exact ⟨order, _, _, rfl, rfl, paths, first, second, by decide, by decide⟩

end Mapping

end ElasticPanels

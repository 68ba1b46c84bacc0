import ElasticPanels.Mapping.Listing
import ElasticPanels.Proofs.VisitingOrder

/-!
# What a field listing holds

A field that is declared at some place of a mapping is shown if its own key does not begin with an
underscore and its type passes the filter (`ShownAt`).  A listing has the type of the field that is
shown at the last place, for each path (`flatten_exact`), and so it tells what a listing without the
filter has to do with it (`flatten_filtered`).
-/

namespace ElasticPanels.Mapping

/-! ## Shown fields -/

/-- A type passes a filter if there is none, if it is empty, or if it names the type or its
category. -/
def Passes (filter : Option String) (type : String) : Prop :=
  filter = none ∨ filter = some "" ∨ filter = some type ∨
    ∃ category, FieldCategory.ofType? type = some category ∧ filter = some category.name

theorem passes_iff {filter : Option String} {type : String} :
    passes filter type = true ↔ Passes filter type := by
  cases filter with
  | none => simp [passes, Passes]
  | some wanted =>
    have category : (FieldCategory.ofType? type).any (·.name == wanted) = true ↔
        ∃ c, FieldCategory.ofType? type = some c ∧ wanted = c.name := by
      simp only [Option.any_eq_true, beq_iff_eq]
      exact exists_congr fun c => and_congr_right fun _ => eq_comm
    simp only [passes, Passes, Bool.or_eq_true, category, String.isEmpty_iff, beq_iff_eq,
      reduceCtorEq, Option.some.injEq, false_or, or_assoc]

instance (filter : Option String) (type : String) : Decidable (Passes filter type) :=
  decidable_of_iff _ passes_iff

/-- At a place of a mapping a field is declared that is shown and passes the filter. -/
inductive ShownAt (indices : Entries Json) (filter : Option String) :
    Place → String → String → Prop
  | mk {place : Place} {parents : List String} {key type : String}
      (declared : DeclaredAt indices place (parents ++ [key]) type)
      (visible : key.toList.head? ≠ some '_') (passing : Passes filter type) :
    ShownAt indices filter place (String.intercalate "." (parents ++ [key])) type

/-- The declarations that a listing is made of. -/
def shown (filter : Option String) (ds : List Declaration) : List Declaration :=
  ds.filter fun d => d.isShown && passes filter d.type

/-! ### What is shown at some place -/

theorem isShown_iff {d : Declaration} :
    d.isShown = true ↔ d.key.toList.head? ≠ some '_' := by
  simp [Declaration.isShown]

theorem shownAt_iff {indices : Entries Json} {filter : Option String} {place : Place}
    {path type : String} :
    ShownAt indices filter place path type ↔
      ∃ d : Declaration, DeclaredAt indices place d.keys d.type ∧
        (d.isShown && passes filter d.type) = true ∧ d.path = path ∧ d.type = type := by
  constructor
  · rintro ⟨declared, visible, passing⟩
    refine ⟨⟨_, _, type⟩, declared, ?_, rfl, rfl⟩
    rw [Bool.and_eq_true]
    exact ⟨isShown_iff.2 visible, passes_iff.2 passing⟩
  · rintro ⟨d, declared, kept, rfl, rfl⟩
    rw [Bool.and_eq_true] at kept
    exact .mk declared (isShown_iff.1 kept.1) (passes_iff.1 kept.2)

/-- What a listing is made of enumerates what is shown. -/
theorem enumerates_shown (indices : Entries Json) (filter : Option String) :
    Enumerates Place.Before
      (fun place d => DeclaredAt indices place d.keys d.type ∧
        (d.isShown && passes filter d.type) = true)
      (shown filter (declared indices)) :=
  (enumerates_declared indices).filter _

theorem exists_shownAt_iff {indices : Entries Json} {filter : Option String} {path type : String} :
    (∃ place, ShownAt indices filter place path type) ↔
      ∃ d ∈ shown filter (declared indices), d.path = path ∧ d.type = type := by
  simp only [shownAt_iff, (enumerates_shown indices filter).mem_iff]
  constructor
  · rintro ⟨place, d, here, kept, same⟩
    exact ⟨d, ⟨place, here, kept⟩, same⟩
  · rintro ⟨d, ⟨place, here, kept⟩, same⟩
    exact ⟨place, d, here, kept, same⟩

/-! ## Listings -/

/-- The descriptor of a declared field. -/
def Declaration.descriptor (d : Declaration) : FieldDescriptor := ⟨d.path, d.type⟩

section Listing

variable {filter : Option String} {ds : List Declaration} {path : String}

theorem listing_eq (filter : Option String) (ds : List Declaration) :
    listing filter ds = .ofPairs ((shown filter ds).map fun d => (d.path, d.descriptor)) := rfl

theorem flatten_obj (indices : Entries Json) (filter : Option String) :
    flatten (.obj indices) filter = .ok (listing filter (declared indices)) := rfl

/-- A listing has the last declaration of each path. -/
theorem get?_listing (filter : Option String) (ds : List Declaration) (path : String) :
    (listing filter ds).get? path =
      (((shown filter ds).filter fun d => d.path == path).getLast?).map Declaration.descriptor := by
  rw [listing_eq, Entries.get?_ofPairs, List.filter_map, List.getLast?_map, Option.map_map]
  rfl

theorem get?_listing_eq_some_iff {descriptor : FieldDescriptor} :
    (listing filter ds).get? path = some descriptor ↔ descriptor.path = path ∧
      ∃ d, ((shown filter ds).filter fun d => d.path == path).getLast? = some d ∧
        d.type = descriptor.type := by
  rw [get?_listing, Option.map_eq_some_iff]
  constructor
  · rintro ⟨d, last, rfl⟩
    have here : d.path = path := by
      simpa using (List.mem_filter.1 (List.mem_of_getLast? last)).2
    exact ⟨here, d, last, rfl⟩
  · rintro ⟨rfl, d, last, type⟩
    have here : d.path = descriptor.path := by
      simpa using (List.mem_filter.1 (List.mem_of_getLast? last)).2
    exact ⟨d, last, by rw [Declaration.descriptor, here, type]⟩

end Listing

/-- A listing of a mapping has the type that is shown at the last place. -/
theorem get?_listing_declared {indices : Entries Json} {filter : Option String}
    {path type : String} : (listing filter (declared indices)).get? path = some ⟨path, type⟩ ↔
      ∃ place, ShownAt indices filter place path type ∧
        ∀ later, Place.Before place later → ∀ other, ¬ ShownAt indices filter later path other := by
  have onPath := (enumerates_shown indices filter).filter fun d => d.path == path
  rw [get?_listing_eq_some_iff]
  simp only [true_and, onPath.getLast?_eq_some_iff, beq_iff_eq, shownAt_iff]
  constructor
  · rintro ⟨d, ⟨place, ⟨⟨here, kept⟩, same⟩, none⟩, rfl⟩
    refine ⟨place, ⟨d, here, kept, same, rfl⟩, ?_⟩
    rintro later order other ⟨e, there, kept', same', -⟩
    exact none later order e ⟨⟨there, kept'⟩, same'⟩
  · rintro ⟨place, ⟨d, here, kept, same, rfl⟩, none⟩
    refine ⟨d, ⟨place, ⟨⟨here, kept⟩, same⟩, ?_⟩, rfl⟩
    rintro later order e ⟨⟨there, kept'⟩, same'⟩
    exact none later order e.type ⟨e, there, kept', same', rfl⟩

/-- The listing of a mapping, in which any part may be of the wrong kind.  It holds a path with a
type just if this type is shown for the path at some place and no type is shown for it at a later
place. -/
theorem flatten_exact (indices : Entries Json) (filter : Option String) :
    ∃ fields, flatten (.obj indices) filter = .ok fields ∧ fields.keys.Nodup ∧
      (∀ path descriptor, fields.get? path = some descriptor → descriptor.path = path) ∧
      ∀ path type, fields.get? path = some ⟨path, type⟩ ↔
        ∃ place, ShownAt indices filter place path type ∧
          ∀ later, Place.Before place later →
            ∀ other, ¬ ShownAt indices filter later path other := by
  refine ⟨_, flatten_obj indices filter, (Entries.ofPairs_spec _).1, ?_, ?_⟩
  · exact fun path descriptor h => (get?_listing_eq_some_iff.1 h).1
  · exact fun path type => get?_listing_declared

/-- The mapping of an index with one document type, which has the given properties. -/
def mappingOf (properties : Entries Json) : Json :=
  .obj [("mappings", .obj [("doc", .obj [("properties", .obj properties)])])]

/-- A key with a dot in it spells the path of a field below an object, and comes later. -/
example : flatten (.obj [("logs", mappingOf [
    ("a", .obj [("properties", .obj [("b", .obj [("type", .str "long")])])]),
    ("a.b", .obj [("type", .str "keyword")])])]) none = .ok [("a.b", ⟨"a.b", "keyword"⟩)] := by
  rfl

/-! ## Listings with a filter -/

section Filtered

variable {filter : Option String} {ds : List Declaration}

theorem shown_eq_filter (filter : Option String) (ds : List Declaration) :
    shown filter ds = (shown none ds).filter fun d => passes filter d.type := by
  rw [shown, shown, List.filter_filter]
  refine List.filter_congr fun d _ => ?_
  rw [show passes none d.type = true from rfl, Bool.and_true, Bool.and_comm]

theorem mem_keys_listing {path : String} :
    path ∈ (listing filter ds).keys ↔ ∃ d ∈ shown filter ds, d.path = path := by
  rw [listing_eq, Entries.mem_keys_ofPairs, List.map_map]
  exact List.mem_map

/-- What is under a path of the listing without the filter is under it with the filter, if it
passes. -/
theorem get?_listing_of_passes {path : String} {descriptor : FieldDescriptor}
    (h : (listing none ds).get? path = some descriptor)
    (passing : passes filter descriptor.type = true) :
    (listing filter ds).get? path = some descriptor := by
  obtain ⟨same, d, last, type⟩ := get?_listing_eq_some_iff.1 h
  refine get?_listing_eq_some_iff.2 ⟨same, d, ?_, type⟩
  obtain ⟨earlier, all⟩ := List.getLast?_eq_some_iff.1 last
  rw [shown_eq_filter, List.filter_comm, all, List.filter_append, List.filter_singleton, type,
    passing]
  simp

theorem passes_of_mem_listing {entry : String × FieldDescriptor}
    (h : entry ∈ listing filter ds) : passes filter entry.2.type = true := by
  obtain ⟨d, hd, rfl⟩ := List.mem_map.1 ((Entries.ofPairs_spec _).2 entry h)
  have kept := (List.mem_filter.1 hd).2
  rw [Bool.and_eq_true] at kept
  exact kept.2

/-- If each path has one type, the filter picks entries of the listing. -/
theorem listing_eq_filter
    (one : ∀ d ∈ shown none ds, ∀ e ∈ shown none ds, d.path = e.path → d.type = e.type) :
    listing filter ds =
      (listing none ds).filter fun entry => passes filter entry.2.type := by
  rw [listing_eq, listing_eq, shown_eq_filter, ← Entries.ofPairs_filter, List.filter_map]
  · rfl
  · rw [List.forall_mem_map]
    intro d hd
    rw [List.forall_mem_map]
    intro e he same
    exact congrArg (passes filter) (one d hd e he same)

end Filtered

/-- The listing with a filter beside the one without it.  It has only paths of that one, all its
entries that pass, and only such as pass.  If no path is shown with two types, these are the entries
of that one that pass, in their order. -/
theorem flatten_filtered (indices : Entries Json) (wanted : String) :
    ∃ whole part, flatten (.obj indices) none = .ok whole ∧
      flatten (.obj indices) (some wanted) = .ok part ∧
      (∀ path ∈ part.keys, path ∈ whole.keys) ∧
      (∀ entry ∈ whole, Passes (some wanted) entry.2.type → entry ∈ part) ∧
      (∀ entry ∈ part, Passes (some wanted) entry.2.type) ∧
      ((∀ path place type place' type', ShownAt indices none place path type →
          ShownAt indices none place' path type' → type = type') →
        part = whole.filter fun entry => Passes (some wanted) entry.2.type) := by
  refine ⟨_, _, flatten_obj indices none, flatten_obj indices (some wanted),
    fun path h => ?_, fun entry h passing => ?_, fun entry h => ?_, fun one => ?_⟩
  · obtain ⟨d, hd, same⟩ := mem_keys_listing.1 h
    rw [shown_eq_filter] at hd
    exact mem_keys_listing.2 ⟨d, (List.mem_filter.1 hd).1, same⟩
  · have keys : (listing none (declared indices)).keys.Nodup := (Entries.ofPairs_spec _).1
    exact Entries.mem_of_get?
      (get?_listing_of_passes (Entries.get?_of_mem keys h) (passes_iff.2 passing))
  · exact passes_iff.1 (passes_of_mem_listing h)
  · rw [listing_eq_filter]
    · refine List.filter_congr fun entry _ => ?_
      rw [← Bool.coe_iff_coe, decide_eq_true_iff, passes_iff]
    · intro d hd e he same
      obtain ⟨place, first⟩ := exists_shownAt_iff.2 ⟨d, hd, rfl, rfl⟩
      obtain ⟨place', second⟩ := exists_shownAt_iff.2 ⟨e, he, same.symm, rfl⟩
      exact one d.path place d.type place' e.type first second

/-- One type for each path, in two indices. -/
theorem textOrLong_filtered :
    let indices : Entries Json := [
      ("old", mappingOf [("message", .obj [("type", .str "text"),
        ("fields", .obj [("raw", .obj [("type", .str "keyword")])])])]),
      ("new", mappingOf [("message", .obj [("type", .str "text")]), ("_id", .str "keyword"),
        ("bytes", .obj [("type", .str "long")])])]
    (∀ path place type place' type', ShownAt indices none place path type →
      ShownAt indices none place' path type' → type = type') ∧
    ∃ whole part, flatten (.obj indices) none = .ok whole ∧
      flatten (.obj indices) (some "string") = .ok part ∧
      whole.keys = ["message.raw", "message", "bytes"] ∧ part.keys = ["message"] ∧
      part = whole.filter fun entry => Passes (some "string") entry.2.type := by
  intro indices
  have one : ∀ path place type place' type', ShownAt indices none place path type →
      ShownAt indices none place' path type' → type = type' := by
    intro path place type place' type' first second
    obtain ⟨d, hd, rfl, rfl⟩ := exists_shownAt_iff.1 ⟨place, first⟩
    obtain ⟨e, he, same, rfl⟩ := exists_shownAt_iff.1 ⟨place', second⟩
    have all : ∀ d ∈ shown none (declared indices), ∀ e ∈ shown none (declared indices),
        e.path = d.path → d.type = e.type := by decide
    exact all d hd e he same
  obtain ⟨whole, part, listed, picked, -, -, -, filtered⟩ := flatten_filtered indices "string"
  refine ⟨one, whole, part, listed, picked, ?_, ?_, filtered one⟩
  · obtain rfl := Except.ok.inj listed
    decide
  · obtain rfl := Except.ok.inj picked
    decide

end ElasticPanels.Mapping

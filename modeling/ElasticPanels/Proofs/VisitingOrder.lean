import ElasticPanels.Mapping.Declaration
import ElasticPanels.Proofs.JsonLayout
import Mathlib.Data.Prod.Basic

/-!
# The order in which a mapping is visited

A field of a mapping is declared at a place: the positions of an index and of a document type, and
the steps that lead down from there (`DeclaredAt`).  Places are visited in document order, and what
is below a node is visited before the node itself (`Place.Before`).  A list enumerates what is found
at some places if it goes through them in their order (`Enumerates`); the declarations of a mapping
enumerate what is declared at its places (`enumerates_declared`).
-/

namespace ElasticPanels.Mapping

/-! ## Enumerations -/

section Enumerations

variable {ι κ α β : Type}

/-- The items are those found at some places, each place once and in the order of the places. -/
def Enumerates (before : ι → ι → Prop) (found : ι → α → Prop) (items : List α) : Prop :=
  ∃ placed : List (ι × α), placed.map Prod.snd = items ∧
    placed.Pairwise (fun p q => before p.1 q.1) ∧ ∀ i a, (i, a) ∈ placed ↔ found i a

/-- The order of the places in several lists: by the position of the list, and then within it. -/
abbrev InTurn (before : ι → ι → Prop) : ℕ × ι → ℕ × ι → Prop := Prod.Lex (· < ·) before

namespace Enumerates

variable {before : ι → ι → Prop} {found found' : ι → α → Prop} {items items' : List α}

theorem nil (h : ∀ i a, ¬ found i a) : Enumerates before found [] :=
  ⟨[], rfl, .nil, fun i a => by simp [h i a]⟩

theorem single {i : ι} {a : α} (h : ∀ j b, found j b ↔ j = i ∧ b = a) :
    Enumerates before found [a] :=
  ⟨[(i, a)], rfl, List.pairwise_singleton .., fun j b => by simp [h j b]⟩

theorem append {either : ι → α → Prop} (h : Enumerates before found items)
    (h' : Enumerates before found' items')
    (apart : ∀ i a j b, found i a → found' j b → before i j)
    (same : ∀ i a, either i a ↔ found i a ∨ found' i a) :
    Enumerates before either (items ++ items') := by
  obtain ⟨placed, rfl, ordered, mem⟩ := h
  obtain ⟨placed', rfl, ordered', mem'⟩ := h'
  refine ⟨placed ++ placed', List.map_append, List.pairwise_append.2 ⟨ordered, ordered', ?_⟩, ?_⟩
  · intro p hp q hq
    exact apart _ _ _ _ ((mem _ _).1 hp) ((mem' _ _).1 hq)
  · intro i a
    rw [List.mem_append, mem, mem', same]

theorem congr (h : Enumerates before found items) (same : ∀ i a, found' i a ↔ found i a) :
    Enumerates before found' items := by
  obtain ⟨placed, listed, ordered, mem⟩ := h
  exact ⟨placed, listed, ordered, fun i a => (mem i a).trans (same i a).symm⟩

/-- The same items at other places. -/
theorem rename {before' : κ → κ → Prop} {found' : κ → α → Prop}
    (h : Enumerates before found items) (f : ι → κ)
    (order : ∀ i j, before i j → before' (f i) (f j))
    (same : ∀ k a, found' k a ↔ ∃ i, f i = k ∧ found i a) : Enumerates before' found' items := by
  obtain ⟨placed, rfl, ordered, mem⟩ := h
  refine ⟨placed.map fun p => (f p.1, p.2), ?_, ?_, ?_⟩
  · rw [List.map_map]
    rfl
  · exact ordered.map _ fun p q => order p.1 q.1
  · intro k a
    rw [same, List.mem_map]
    constructor
    · rintro ⟨⟨i, b⟩, hp, e⟩
      obtain ⟨rfl, rfl⟩ := Prod.mk.inj e
      exact ⟨i, rfl, (mem i b).1 hp⟩
    · rintro ⟨i, rfl, hi⟩
      exact ⟨(i, a), (mem i a).2 hi, rfl⟩

/-- The items of several lists, one list after the other. -/
theorem flatMap {nodes : List β} {items : β → List α} {found : β → ι → α → Prop}
    (each : ∀ node ∈ nodes, Enumerates before (found node) (items node)) :
    Enumerates (InTurn before) (fun p a => ∃ node, nodes[p.1]? = some node ∧ found node p.2 a)
      (nodes.flatMap items) := by
  induction nodes with
  | nil => exact nil fun p a h => by simp at h
  | cons node nodes ih =>
    have here : Enumerates (InTurn before) (fun p a => p.1 = 0 ∧ found node p.2 a) (items node) :=
      (each node (by simp)).rename (fun i => (0, i)) (fun _ _ => .right 0)
        (by simp [Prod.ext_iff, eq_comm])
    have later : Enumerates (InTurn before)
        (fun p a => ∃ n, p.1 = n + 1 ∧ ∃ node, nodes[n]? = some node ∧ found node p.2 a)
        (nodes.flatMap items) := by
      refine (ih fun n hn => each n (by simp [hn])).rename (fun p => (p.1 + 1, p.2)) ?_ ?_
      · intro p q h
        have order := Prod.lex_def.1 h
        exact Prod.lex_def.2 (by simpa using order)
      · rintro ⟨m, i⟩ a
        simp [Prod.ext_iff, eq_comm, and_assoc]
    refine here.append later ?_ ?_
    · rintro ⟨m, i⟩ a ⟨_, j⟩ b ⟨rfl, -⟩ ⟨n, rfl, -⟩
      exact .left _ _ (Nat.succ_pos n)
    · rintro ⟨m, i⟩ a
      cases m <;> simp

theorem filter (h : Enumerates before found items) (p : α → Bool) :
    Enumerates before (fun i a => found i a ∧ p a = true) (items.filter p) := by
  obtain ⟨placed, rfl, ordered, mem⟩ := h
  refine ⟨placed.filter fun q => p q.2, ?_, ordered.filter _, fun i a => ?_⟩
  · rw [List.filter_map]
    rfl
  · rw [List.mem_filter, mem]

/-- What is made of each item, at the same places. -/
theorem map (h : Enumerates before found items) (f : α → β) :
    Enumerates before (fun i b => ∃ a, found i a ∧ f a = b) (items.map f) := by
  obtain ⟨placed, rfl, ordered, mem⟩ := h
  refine ⟨placed.map fun p => (p.1, f p.2), ?_, ordered.map _ fun p q => id, fun i b => ?_⟩
  · rw [List.map_map, List.map_map]
    rfl
  · simp only [List.mem_map, Prod.exists, Prod.mk.injEq, ← mem]
    exact ⟨fun ⟨_, a, h, same, made⟩ => ⟨a, same ▸ h, made⟩, fun ⟨a, h, made⟩ => ⟨i, a, h, rfl, made⟩⟩

theorem mem_iff (h : Enumerates before found items) {a : α} : a ∈ items ↔ ∃ i, found i a := by
  obtain ⟨placed, rfl, -, mem⟩ := h
  simp [← mem]

/-- The last item is what is found at some place and at none after it. -/
theorem getLast?_eq_some_iff [Std.Asymm before] (h : Enumerates before found items) {a : α} :
    items.getLast? = some a ↔ ∃ i, found i a ∧ ∀ j, before i j → ∀ b, ¬ found j b := by
  obtain ⟨placed, rfl, ordered, mem⟩ := h
  rw [List.getLast?_map, Option.map_eq_some_iff]
  constructor
  · rintro ⟨⟨i, b⟩, last, rfl⟩
    obtain ⟨earlier, rfl⟩ := List.getLast?_eq_some_iff.1 last
    refine ⟨i, (mem i b).1 (by simp), fun j later c hc => ?_⟩
    have sooner : before j i ∨ j = i := by
      rcases List.mem_append.1 ((mem j c).2 hc) with he | he
      · exact .inl ((List.pairwise_append.1 ordered).2.2 _ he (i, b) (by simp))
      · exact .inr (Prod.mk.inj (List.mem_singleton.1 he)).1
    rcases sooner with sooner | rfl
    · exact Std.Asymm.asymm _ _ later sooner
    · exact Std.Asymm.asymm _ _ later later
  · rintro ⟨i, hi, none⟩
    have present := (mem i a).2 hi
    obtain ⟨earlier, ⟨j, b⟩, rfl⟩ :=
      (List.eq_nil_or_concat' placed).resolve_left (List.ne_nil_of_mem present)
    refine ⟨(j, b), by simp, ?_⟩
    rcases List.mem_append.1 present with he | he
    · have later := (List.pairwise_append.1 ordered).2.2 _ he (j, b) (by simp)
      exact absurd ((mem j b).1 (by simp)) (none j later b)
    · exact (Prod.mk.inj (List.mem_singleton.1 he)).2.symm

end Enumerates

end Enumerations

/-! ## Places -/

/-- What there may be below a node: the properties of an object, and the variants of a field. -/
inductive Branch
  | properties
  | variants

/-- The key of a branch in its node. -/
def Branch.key : Branch → String
  | properties => "properties"
  | variants => "fields"

/-- A step down from a node: into a branch, to the child at a position. -/
structure Descent where
  branch : Branch
  position : ℕ

/-- The steps lead from the first node down to the last one, past nodes with the given keys. -/
inductive Leads : Entries Json → List Descent → List String → Entries Json → Prop
  | here (node : Entries Json) : Leads node [] [] node
  | down {node children child last : Entries Json} {step : Descent} {steps : List Descent}
      {key : String} {keys : List String} (into : node.get? step.branch.key = some (.obj children))
      (atChild : children[step.position]? = some (key, .obj child))
      (onward : Leads child steps keys last) : Leads node (step :: steps) (key :: keys) last

/-- The order in which the nodes below a node are visited: the properties before the variants, the
children in document order, and what is below a node before the node itself. -/
inductive StepsBefore : List Descent → List Descent → Prop
  | above (step : Descent) (steps : List Descent) : StepsBefore (step :: steps) []
  | branch (m n : ℕ) (steps steps' : List Descent) :
    StepsBefore (⟨.properties, m⟩ :: steps) (⟨.variants, n⟩ :: steps')
  | position (b : Branch) {m n : ℕ} (h : m < n) (steps steps' : List Descent) :
    StepsBefore (⟨b, m⟩ :: steps) (⟨b, n⟩ :: steps')
  | onward (step : Descent) {steps steps' : List Descent} (h : StepsBefore steps steps') :
    StepsBefore (step :: steps) (step :: steps')

theorem StepsBefore.asymm {steps steps' : List Descent} (h : StepsBefore steps steps') :
    ¬ StepsBefore steps' steps := by
  induction h with
  | above => exact fun h => nomatch h
  | branch => exact fun h => nomatch h
  | position b h =>
    intro h'
    cases h' with
    | position _ h' => omega
    | onward => omega
  | onward step h ih =>
    intro h'
    cases h' with
    | position _ h' => omega
    | onward _ h' => exact ih h'

instance : Std.Asymm StepsBefore := ⟨fun _ _ h => h.asymm⟩

/-- Where a field is declared: the positions of the index and of the document type, and the steps
down from there. -/
abbrev Place := ℕ × ℕ × List Descent

/-- The order in which places are visited. -/
abbrev Place.Before : Place → Place → Prop := InTurn (InTurn StepsBefore)

/-- A field is declared at a place of the mapping of some indices: below the properties of a
document type there is a node, reached past the given keys, with the given type. -/
inductive DeclaredAt (indices : Entries Json) : Place → List String → String → Prop
  | mk {i j k : ℕ} {steps : List Descent} {name typeName type : String} {keys : List String}
      {index types docType node : Entries Json} (atIndex : indices[i]? = some (name, .obj index))
      (mapped : index.get? "mappings" = some (.obj types))
      (atType : types[j]? = some (typeName, .obj docType))
      (leads : Leads docType (⟨.properties, k⟩ :: steps) keys node)
      (typed : node.get? "type" = some (.str type)) :
    DeclaredAt indices (i, j, ⟨.properties, k⟩ :: steps) keys type

/-! ## The declarations of a mapping -/

/-- The keys of a declaration, its own one last. -/
def Declaration.keys (d : Declaration) : List String := d.parents ++ [d.key]

/-- Steps down from a value with the keys `above` lead to a node with a declaration. -/
def DeclaredBelow (above : List String) (value : Json) (steps : List Descent) (d : Declaration) :
    Prop :=
  ∃ node keys last, value = .obj node ∧ Leads node steps keys last ∧
    last.get? "type" = some (.str d.type) ∧ d.keys = above ++ keys

theorem declaredBelow_nil_iff {parents : List String} {key : String} {node : Entries Json}
    {d : Declaration} : DeclaredBelow (parents ++ [key]) (.obj node) [] d ↔
      node.get? "type" = some (.str d.type) ∧ d = ⟨parents, key, d.type⟩ := by
  obtain ⟨_, _, type⟩ := d
  constructor
  · rintro ⟨_, _, _, same, ⟨⟩, typed, keys⟩
    obtain rfl := Json.obj.inj same
    obtain ⟨rfl, rfl⟩ := List.append_singleton_inj.1 (keys.trans (List.append_nil _))
    exact ⟨typed, rfl⟩
  · rintro ⟨typed, same⟩
    obtain ⟨rfl, rfl, -⟩ := Declaration.mk.inj same
    exact ⟨node, [], node, rfl, .here node, typed, (List.append_nil _).symm⟩

theorem declaredBelow_cons_iff {above : List String} {node : Entries Json} {step : Descent}
    {steps : List Descent} {d : Declaration} :
    DeclaredBelow above (.obj node) (step :: steps) d ↔
      ∃ children, node.get? step.branch.key = some (.obj children) ∧
        ∃ child, children[step.position]? = some child ∧
          DeclaredBelow (above ++ [child.1]) child.2 steps d := by
  constructor
  · rintro ⟨_, _, last, same, leads, typed, keys⟩
    obtain rfl := Json.obj.inj same
    cases leads with
    | down into atChild onward =>
      exact ⟨_, into, _, atChild, _, _, last, rfl, onward, typed, by simp [keys]⟩
  · rintro ⟨children, into, ⟨key, _⟩, atChild, child, keys, last, rfl, onward, typed, same⟩
    exact ⟨node, key :: keys, last, rfl, .down into atChild onward, typed, by simpa using same⟩

theorem not_declaredBelow {above : List String} {value : Json} (h : ∀ node, value ≠ .obj node)
    (steps : List Descent) (d : Declaration) : ¬ DeclaredBelow above value steps d := by
  rintro ⟨node, -, -, same, -⟩
  exact h node same

/-- The declarations of a node enumerate what is declared below it. -/
def EnumeratesBelow (value : Json) : Prop := ∀ parents key,
  Enumerates StepsBefore (DeclaredBelow (parents ++ [key]) value)
    (nodeDeclarations parents key value)

theorem treeDeclarations_eq_nil (above : List String) {value : Json}
    (h : ∀ children, value ≠ .obj children) : treeDeclarations above value = [] := by
  cases value with
  | obj children => exact absurd rfl (h children)
  | null | bool | int | float | str | arr => rfl

/-- If the children of a branch enumerate what is declared below them, the branch does. -/
theorem enumerates_branch (above : List String) {node : Entries Json} (b : Branch)
    (each : ∀ children, node.get? b.key = some (.obj children) →
      ∀ child ∈ children, EnumeratesBelow child.2) :
    Enumerates StepsBefore
      (fun steps d => ∃ n rest, steps = ⟨b, n⟩ :: rest ∧ DeclaredBelow above (.obj node) steps d)
      (childDeclarations b.key above node) := by
  rw [childDeclarations_eq]
  by_cases some_ : ∃ children, node.get? b.key = some (.obj children)
  · obtain ⟨children, into⟩ := some_
    have all := Enumerates.flatMap fun child hc => each children into child hc above child.1
    rw [into, Option.map_some, Option.getD_some, treeDeclarations, forestDeclarations_eq]
    refine all.rename (fun p => ⟨b, p.1⟩ :: p.2) ?_ ?_
    · rintro ⟨m, steps⟩ ⟨n, steps'⟩ order
      cases order with
      | left _ _ order => exact .position b order _ _
      | right _ order => exact .onward _ order
    · intro steps d
      constructor
      · rintro ⟨n, rest, rfl, declared⟩
        obtain ⟨_, into', child, atChild, below⟩ := declaredBelow_cons_iff.1 declared
        obtain rfl := Json.obj.inj (Option.some.inj (into.symm.trans into'))
        exact ⟨(n, rest), rfl, child, atChild, below⟩
      · rintro ⟨⟨n, rest⟩, rfl, child, atChild, below⟩
        exact ⟨n, rest, rfl, declaredBelow_cons_iff.2 ⟨children, into, child, atChild, below⟩⟩
  · have none : ((node.get? b.key).map (treeDeclarations above)).getD [] = [] := by
      cases found : node.get? b.key with
      | none => rfl
      | some value =>
        refine treeDeclarations_eq_nil above fun children same => some_ ⟨children, ?_⟩
        rw [found, same]
    rw [none]
    refine .nil ?_
    rintro _ d ⟨n, rest, rfl, declared⟩
    obtain ⟨children, into, -⟩ := declaredBelow_cons_iff.1 declared
    exact some_ ⟨children, into⟩

theorem enumerates_ownDeclaration (parents : List String) (key : String) (node : Entries Json) :
    Enumerates StepsBefore
      (fun steps d => steps = [] ∧ DeclaredBelow (parents ++ [key]) (.obj node) steps d)
      (ownDeclaration parents key node) := by
  have own (steps : List Descent) (d : Declaration) :
      (steps = [] ∧ DeclaredBelow (parents ++ [key]) (.obj node) steps d) ↔
        steps = [] ∧ node.get? "type" = some (.str d.type) ∧ d = ⟨parents, key, d.type⟩ := by
    refine and_congr_right ?_
    rintro rfl
    exact declaredBelow_nil_iff
  unfold ownDeclaration
  split
  · rename_i type typed
    refine .single fun steps d => (own steps d).trans (and_congr_right fun _ => ?_)
    rw [typed]
    constructor
    · rintro ⟨same, own⟩
      exact own.trans (by rw [Json.str.inj (Option.some.inj same)])
    · rintro rfl
      exact ⟨rfl, rfl⟩
  · rename_i untyped
    exact .nil fun steps d h => untyped _ ((own steps d).1 h).2.1

/-- A node enumerates what is declared below it, if the children of its branches do. -/
theorem EnumeratesBelow.obj {node : Entries Json}
    (each : ∀ (b : Branch) (children : Entries Json), node.get? b.key = some (.obj children) →
      ∀ child ∈ children, EnumeratesBelow child.2) : EnumeratesBelow (.obj node) := by
  intro parents key
  have below : Enumerates StepsBefore
      (fun steps d => steps ≠ [] ∧ DeclaredBelow (parents ++ [key]) (.obj node) steps d)
      (childDeclarations Branch.properties.key (parents ++ [key]) node ++
        childDeclarations Branch.variants.key (parents ++ [key]) node) := by
    refine (enumerates_branch _ .properties (each _)).append
      (enumerates_branch _ .variants (each _)) ?_ ?_
    · rintro _ d _ e ⟨m, steps, rfl, -⟩ ⟨n, steps', rfl, -⟩
      exact .branch m n steps steps'
    · intro steps d
      constructor
      · rintro ⟨some_, declared⟩
        obtain ⟨⟨_ | _, n⟩, steps, rfl⟩ := List.exists_cons_of_ne_nil some_
        · exact .inl ⟨n, steps, rfl, declared⟩
        · exact .inr ⟨n, steps, rfl, declared⟩
      · rintro (⟨n, steps, rfl, declared⟩ | ⟨n, steps, rfl, declared⟩)
        · exact ⟨List.cons_ne_nil _ _, declared⟩
        · exact ⟨List.cons_ne_nil _ _, declared⟩
  refine below.append (enumerates_ownDeclaration parents key node) ?_ ?_
  · rintro steps d _ e ⟨some_, -⟩ ⟨rfl, -⟩
    obtain ⟨step, steps, rfl⟩ := List.exists_cons_of_ne_nil some_
    exact .above step steps
  · intro steps d
    rw [← or_and_right, iff_and_self]
    exact fun _ => (em (steps = [])).symm

/-- Every node enumerates what is declared below it. -/
theorem enumeratesBelow (value : Json) : EnumeratesBelow value := by
  -- The children of a branch are two objects below the node, so that each value has to bring with
  -- it what holds of its own entries.
  have all : EnumeratesBelow value ∧
      ∀ children, value = .obj children → ∀ child ∈ children, EnumeratesBelow child.2 := by
    induction value using Json.inductionOnParts with
    | obj node ih =>
      refine ⟨.obj fun b children into => (ih _ (Entries.mem_of_get? into)).2 children rfl,
        fun children same child hc => ?_⟩
      obtain rfl := Json.obj.inj same
      exact (ih child hc).1
    | null | bool | int | float | str | arr =>
      refine ⟨fun parents key => .nil (not_declaredBelow ?_), ?_⟩
      · exact fun _ same => nomatch same
      · exact fun _ same => nomatch same
  exact all.1

/-! ### The mapping of indices -/

/-- Steps lead down from the properties of a document type to a node with a declaration. -/
def DeclaredInType (docType : Json) (steps : List Descent) (d : Declaration) : Prop :=
  (∃ k rest, steps = ⟨.properties, k⟩ :: rest) ∧ DeclaredBelow [] docType steps d

/-- A declaration in one of the document types of an index. -/
def DeclaredInIndex (index : Json) (place : ℕ × List Descent) (d : Declaration) : Prop :=
  ∃ fields types : Entries Json, index = .obj fields ∧
    fields.get? "mappings" = some (.obj types) ∧
    ∃ docType, types[place.1]? = some docType ∧ DeclaredInType docType.2 place.2 d

theorem enumerates_ofDocumentType (docType : Json) :
    Enumerates StepsBefore (DeclaredInType docType) (ofDocumentType docType) := by
  cases docType with
  | obj fields =>
    refine (enumerates_branch [] .properties fun children _ child _ =>
      enumeratesBelow child.2).congr fun steps d => ?_
    simp only [DeclaredInType, exists_and_right]
  | null | bool | int | float | str | arr =>
    refine .nil fun steps d h => not_declaredBelow ?_ steps d h.2
    exact fun _ same => nomatch same

theorem enumerates_ofIndex (index : Json) :
    Enumerates (InTurn StepsBefore) (DeclaredInIndex index) (ofIndex index) := by
  by_cases mapped : ∃ fields types : Entries Json, index = .obj fields ∧
      fields.get? "mappings" = some (.obj types)
  · obtain ⟨fields, types, rfl, found⟩ := mapped
    have listed : ofIndex (.obj fields) =
        types.flatMap fun docType => ofDocumentType docType.2 := by
      rw [ofIndex, found]
    rw [listed]
    refine (Enumerates.flatMap fun docType _ => enumerates_ofDocumentType docType.2).congr ?_
    intro place d
    constructor
    · rintro ⟨_, _, same, found', h⟩
      obtain rfl := Json.obj.inj same
      obtain rfl := Json.obj.inj (Option.some.inj (found.symm.trans found'))
      exact h
    · exact fun h => ⟨fields, types, rfl, found, h⟩
  · have none : ofIndex index = [] := by
      unfold ofIndex
      split
      · split
        · rename_i fields _ types found
          exact absurd ⟨fields, types, rfl, found⟩ mapped
        · rfl
      · rfl
    rw [none]
    exact .nil fun place d ⟨fields, types, same, found, _⟩ => mapped ⟨fields, types, same, found⟩

/-- The declarations of the mapping of some indices. -/
def declared (indices : Entries Json) : List Declaration :=
  indices.flatMap fun index => ofIndex index.2

/-- The declarations of a mapping enumerate what is declared at its places. -/
theorem enumerates_declared (indices : Entries Json) :
    Enumerates Place.Before (fun place d => DeclaredAt indices place d.keys d.type)
      (declared indices) := by
  refine (Enumerates.flatMap fun index _ => enumerates_ofIndex index.2).congr ?_
  rintro ⟨i, j, steps⟩ d
  constructor
  · rintro ⟨atIndex, mapped, atType, leads, typed⟩
    exact ⟨_, atIndex, _, _, rfl, mapped, _, atType, ⟨_, _, rfl⟩, _, _, _, rfl, leads, typed, rfl⟩
  · rintro ⟨⟨name, _⟩, atIndex, index, types, rfl, mapped, ⟨typeName, _⟩, atType, ⟨k, rest, rfl⟩,
      docType, keys, node, rfl, leads, typed, same⟩
    have here := DeclaredAt.mk atIndex mapped atType leads typed
    rwa [← List.nil_append keys, ← same] at here

end ElasticPanels.Mapping

import ElasticPanels.Proofs.JsonPaths
import ElasticPanels.Proofs.SearchBodies
import Mathlib.Data.Set.Defs

/-!
# What ad-hoc filters select

A body selects documents by a boolean query: all its "filter" and "must" clauses hold of them and
none of its "must_not" clauses does (`selected`).  Which clauses hold of a document is left open.
Each filter contributes one clause to one of the last two lists, in the order of the filters
(`clausesOf_contributions`).  A body therefore selects what it would select without filters and what
all filters hold of, in whatever order they come, and nothing else in it depends on them
(`body_filtered`).
-/

namespace ElasticPanels

/-! ## Filters and their clauses -/

/-- The clause that the text under a key has the phrase. -/
def phraseClause (key phrase : String) : Json :=
  .obj [("match_phrase", .obj [(key, .obj [("query", .str phrase)])])]

/-- The clause that what is under a key lies on one side of a bound. -/
def boundClause (side key bound : String) : Json :=
  .obj [("range", .obj [(key, .obj [(side, .str bound)])])]

/-- The clause that the text under a key matches a regular expression. -/
def patternClause (key pattern : String) : Json :=
  .obj [("regexp", .obj [(key, .str pattern)])]

namespace AdhocFilter

/-- The filter holds of a document, where `holds` tells which clauses do. -/
def Holds (holds : Json → Prop) (f : AdhocFilter) : Prop :=
  match f.operator with
  | .equals => holds (phraseClause f.key f.value)
  | .notEquals => ¬ holds (phraseClause f.key f.value)
  | .lessThan => holds (boundClause "lt" f.key f.value)
  | .greaterThan => holds (boundClause "gt" f.key f.value)
  | .matchesRegex => holds (patternClause f.key f.value)
  | .notMatchesRegex => ¬ holds (patternClause f.key f.value)

/-- The list of a boolean query to which a filter contributes, and the clause that it contributes. -/
def contribution (f : AdhocFilter) : String × Json :=
  match f.operator with
  | .equals => ("must", phraseClause f.key f.value)
  | .notEquals => ("must_not", phraseClause f.key f.value)
  | .lessThan => ("must", boundClause "lt" f.key f.value)
  | .greaterThan => ("must", boundClause "gt" f.key f.value)
  | .matchesRegex => ("must", patternClause f.key f.value)
  | .notMatchesRegex => ("must_not", patternClause f.key f.value)

/-- The list of the clauses that must not hold, or of those that must. -/
def listName (excludes : Bool) : String := if excludes then "must_not" else "must"

theorem listName_eq_iff {a b : Bool} : listName a = listName b ↔ a = b := by
  cases a <;> cases b <;> decide

theorem contribution_eq (f : AdhocFilter) :
    f.contribution = (listName f.excludes, f.clause) := by
  obtain ⟨key, operator, value⟩ := f
  cases operator <;> rfl

theorem holds_iff {holds : Json → Prop} {f : AdhocFilter} :
    f.Holds holds ↔ if f.excludes then ¬ holds f.clause else holds f.clause := by
  obtain ⟨key, operator, value⟩ := f
  cases operator <;> rfl

theorem forall_holds_iff {holds : Json → Prop} {filters : List AdhocFilter} :
    (∀ f ∈ filters, f.Holds holds) ↔
      (∀ f ∈ filters, f.excludes = false → holds f.clause) ∧
        ∀ f ∈ filters, f.excludes = true → ¬ holds f.clause := by
  rw [← forall₂_and]
  refine forall₂_congr fun f _ => ?_
  rw [holds_iff]
  cases f.excludes <;> simp

end AdhocFilter

namespace Search

/-! ## Boolean queries -/

/-- The clauses in one of the lists of the boolean query of a body, none if the list is absent. -/
def clausesOf (name : String) (body : Json) : List Json :=
  match body.at? ["query", "bool", name] with
  | some (.arr clauses) => clauses
  | _ => []

/-- The documents that a body selects, where `holds` tells which clauses hold of a document. -/
def selected {Document : Type} (holds : Document → Json → Prop) (body : Json) : Set Document :=
  {d | (∀ c ∈ clausesOf "filter" body, holds d c) ∧ (∀ c ∈ clausesOf "must" body, holds d c) ∧
    ∀ c ∈ clausesOf "must_not" body, ¬ holds d c}

/-- The first clauses of a body: the time range and the query text. -/
def baseClauses (timeField text : String) : List Json :=
  [timeClause timeField, textClause (.str text)]

section Clauses

variable {b : Body} {timeField text : String} {filters : List AdhocFilter}
  (same : b.selection = selection timeField text filters)
include same

theorem at?_selection (name : String) : b.toJson.at? ["query", "bool", name] =
    Entries.get? (("filter", .arr (baseClauses timeField text)) :: filterClauses filters) name := by
  have query : b.toJson.at? ["query", "bool", name] = b.selection.at? ["bool", name] := rfl
  rw [query, same, selection]
  simp [Entries.get?_cons, baseClauses]

theorem clausesOf_filter : clausesOf "filter" b.toJson = baseClauses timeField text := by
  rw [clausesOf, at?_selection same]
  rfl

theorem clausesOf_listName (excludes : Bool) :
    clausesOf (AdhocFilter.listName excludes) b.toJson =
      (filters.filter (·.excludes = excludes)).map AdhocFilter.clause := by
  rw [clausesOf, at?_selection same, filterClauses]
  split_ifs with none
  · rw [List.isEmpty_iff.1 none]
    cases excludes <;> rfl
  · cases excludes with
    | true => simp [AdhocFilter.listName, Entries.get?_cons]
    | false => simp [AdhocFilter.listName, Entries.get?_cons]

theorem clausesOf_must : clausesOf "must" b.toJson =
    (filters.filter (·.excludes = false)).map AdhocFilter.clause := clausesOf_listName same false

theorem clausesOf_must_not : clausesOf "must_not" b.toJson =
    (filters.filter (·.excludes = true)).map AdhocFilter.clause := clausesOf_listName same true

/-- Each filter contributes one clause, in the order of the filters. -/
theorem clausesOf_contributions {name : String} (h : name = "must" ∨ name = "must_not") :
    clausesOf name b.toJson =
      ((filters.map AdhocFilter.contribution).filter (·.1 = name)).map Prod.snd := by
  obtain ⟨excludes, rfl⟩ : ∃ excludes, name = AdhocFilter.listName excludes :=
    h.elim (fun must => ⟨false, must⟩) fun mustNot => ⟨true, mustNot⟩
  rw [clausesOf_listName same, List.filter_map, List.map_map]
  have kept : filters.filter (·.excludes = excludes) =
      filters.filter ((·.1 = AdhocFilter.listName excludes) ∘ AdhocFilter.contribution) :=
    List.filter_congr fun f _ => by simp [f.contribution_eq, AdhocFilter.listName_eq_iff]
  rw [kept]
  exact List.map_congr_left fun f _ => (congrArg Prod.snd f.contribution_eq).symm

theorem length_clausesOf : (clausesOf "must" b.toJson).length +
    (clausesOf "must_not" b.toJson).length = filters.length := by
  rw [clausesOf_must same, clausesOf_must_not same, List.length_map, List.length_map, Nat.add_comm,
    ← List.length_append]
  simp only [Bool.decide_eq_true, Bool.decide_eq_false]
  exact (List.filter_append_perm (·.excludes) filters).length_eq

theorem mem_selected_iff {Document : Type} {holds : Document → Json → Prop} {d : Document} :
    d ∈ selected holds b.toJson ↔
      (∀ c ∈ baseClauses timeField text, holds d c) ∧ ∀ f ∈ filters, f.Holds (holds d) := by
  rw [selected, Set.mem_ofPred_eq, clausesOf_filter same, clausesOf_must same,
    clausesOf_must_not same, AdhocFilter.forall_holds_iff]
  simp only [List.forall_mem_map, List.mem_filter, decide_eq_true_eq, and_imp]

end Clauses

/-! ## Bodies -/

/-- What filters make of a body that is built without them. -/
structure Filtered (filters : List AdhocFilter) (bare body : Json) : Prop where
  /-- Of the documents that the body selects without filters, it selects those of which all filters
  hold. -/
  selects : ∀ {Document : Type} (holds : Document → Json → Prop),
    selected holds body = {d ∈ selected holds bare | ∀ f ∈ filters, f.Holds (holds d)}
  /-- Each list of clauses holds the contributions to it, in the order of the filters. -/
  contributes : ∀ name, name = "must" ∨ name = "must_not" →
    clausesOf name body =
      ((filters.map AdhocFilter.contribution).filter (·.1 = name)).map Prod.snd
  /-- There are as many clauses as filters. -/
  once : (clausesOf "must" body).length + (clausesOf "must_not" body).length = filters.length
  /-- All else stays: the boolean query gets no other list, and the body no other entry. -/
  rest : ∃ (before after : List (String × Json)) (base : Json) (added : List (String × Json)),
    bare = .obj (before ++ ("query", .obj [("bool", .obj [("filter", base)])]) :: after) ∧
    body = .obj (before ++ ("query", .obj [("bool", .obj (("filter", base) :: added))]) :: after) ∧
    ∀ list ∈ added, list.1 = "must" ∨ list.1 = "must_not"

/-- The body with another selection. -/
def Body.select (b : Body) (selection : Json) : Body := { b with selection }

/-- Filters change nothing but the selection. -/
theorem body_eq_map (q : PanelQuery) (filters : List AdhocFilter) (text : String) :
    q.body filters text =
      (q.body [] text).map (·.select (selection q.timeField text filters)) := by
  rw [body_eq, body_eq]
  split_ifs
  · rfl
  · cases nest q.timeField (metricAggregations q.metrics) q.buckets <;> rfl

theorem keys_filterClauses (filters : List AdhocFilter) :
    ∀ list ∈ filterClauses filters, list.1 = "must" ∨ list.1 = "must_not" := by
  unfold filterClauses
  split_ifs <;> simp

theorem filtered_select {q : PanelQuery} {filters : List AdhocFilter} {text : String} {bare : Body}
    (built : q.body [] text = .ok bare) :
    Filtered filters bare.toJson (bare.select (selection q.timeField text filters)).toJson where
  selects holds := by
    ext d
    rw [mem_selected_iff rfl, Set.mem_sep_iff, mem_selected_iff (selection_of_body built)]
    simp
  contributes name list := clausesOf_contributions rfl list
  once := length_clausesOf rfl
  rest := by
    refine ⟨[("size", .int bare.size)],
      (bare.sort.map fun s => ("sort", s)).toList ++ aggregationEntries bare.aggregations,
      .arr (baseClauses q.timeField text), filterClauses filters, ?_, ?_,
      keys_filterClauses filters⟩
    · rw [Body.toJson, selection_of_body built]
      rfl
    · rfl

theorem selected_perm {Document : Type} {holds : Document → Json → Prop}
    {filters filters' : List AdhocFilter} {bare body body' : Json} (perm : filters.Perm filters')
    (h : Filtered filters bare body) (h' : Filtered filters' bare body') :
    selected holds body' = selected holds body := by
  rw [h.selects, h'.selects]
  simp only [perm.mem_iff]

/-- With filters the search of a panel query is the search without them, filtered, and the order of
the filters does not matter to what it selects.  Otherwise a bucketing has parameters that cannot be
made, and there is no search with filters or without. -/
theorem body_filtered (q : PanelQuery) (text : String) (filters : List AdhocFilter) :
    (∃ fault, q.body [] text = .error fault ∧ q.body filters text = .error fault ∧
      q.isRawDocument = false ∧ ∃ b ∈ q.buckets, b.parameters q.timeField = .error fault) ∨
    ∃ bare body, q.body [] text = .ok bare ∧ q.body filters text = .ok body ∧
      Filtered filters bare.toJson body.toJson ∧
      ∀ filters' : List AdhocFilter, filters.Perm filters' →
        ∃ body', q.body filters' text = .ok body' ∧
          ∀ {Document : Type} (holds : Document → Json → Prop),
            selected holds body'.toJson = selected holds body.toJson := by
  cases built : q.body [] text with
  | error fault =>
    have alike : q.body filters text = .error fault := by
      rw [body_eq_map, built]
      rfl
    exact .inl ⟨fault, rfl, alike, exists_of_body_eq_error built⟩
  | ok bare =>
    have filtered (fs : List AdhocFilter) :
        q.body fs text = .ok (bare.select (selection q.timeField text fs)) := by
      rw [body_eq_map, built]
      rfl
    refine .inr ⟨bare, _, rfl, filtered filters, filtered_select built, fun filters' perm => ?_⟩
    exact ⟨_, filtered filters', fun _ =>
      selected_perm perm (filtered_select built) (filtered_select built)⟩

end Search

end ElasticPanels

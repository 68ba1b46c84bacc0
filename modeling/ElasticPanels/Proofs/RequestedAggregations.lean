import ElasticPanels.Proofs.SlotAnswers

/-!
# Aggregations that are asked for

A query asks for an aggregation of each bucketing, within that of the bucketing before it, and for
one of each metric in the innermost; a bucketing by filters asks for a filter of each of its
entries (`AsksFor`).  Aggregations stand under ids and filters under labels, and what comes later
overwrites what stands under the same name.  So a body asks for all that its query does if and only
if the metrics have different ids and the filters different labels (`asksFor_body_iff`).
-/

namespace ElasticPanels

open Search (Body aggregationEntries metricAggregations nest nest_cons_eq_ok textClause)

/-! ## Writing under scalar keys -/

namespace Json

variable {α : Type}

/-- No two of the keys are the same, whichever comes first. -/
def KeysDiffer (keys : List Json) : Prop := keys.Pairwise fun k l => sameKey k l = false

/-- The entries that writing the given ones one after the other leaves. -/
def putScalars (acc entries : List (Json × α)) : List (Json × α) :=
  entries.foldl (fun acc entry => putScalar acc entry.1 entry.2) acc

theorem putScalar_of_fresh {acc : List (Json × α)} {key : Json}
    (fresh : ∀ e ∈ acc, sameKey e.1 key = false) (value : α) :
    putScalar acc key value = acc ++ [(key, value)] := by
  induction acc with
  | nil => rfl
  | cons e acc ih =>
    obtain ⟨first, later⟩ := List.forall_mem_cons.1 fresh
    rw [putScalar, first, if_neg Bool.false_ne_true, ih later, List.cons_append]

theorem length_putScalar_le (acc : List (Json × α)) (key : Json) (value : α) :
    (putScalar acc key value).length ≤ acc.length + 1 := by
  induction acc with
  | nil => exact le_rfl
  | cons e acc ih =>
    rw [putScalar]
    split_ifs
    · exact Nat.le_succ _
    · exact Nat.succ_le_succ ih

theorem fresh_of_length {acc : List (Json × α)} {key : Json} {value : α}
    (h : acc.length < (putScalar acc key value).length) : ∀ e ∈ acc, sameKey e.1 key = false := by
  induction acc with
  | nil => simp
  | cons e acc ih =>
    rw [putScalar] at h
    split_ifs at h with same
    · exact absurd h (Nat.lt_irrefl _)
    · exact List.forall_mem_cons.2 ⟨by simpa using same, ih (Nat.lt_of_succ_lt_succ h)⟩

theorem length_putScalars_le (acc entries : List (Json × α)) :
    (putScalars acc entries).length ≤ acc.length + entries.length := by
  induction entries generalizing acc with
  | nil => exact le_rfl
  | cons e entries ih =>
    have step : putScalars acc (e :: entries) = putScalars (putScalar acc e.1 e.2) entries := rfl
    have first := length_putScalar_le acc e.1 e.2
    have later := ih (putScalar acc e.1 e.2)
    rw [step, List.length_cons]
    omega

/-- Nothing is overwritten if the keys differ. -/
theorem putScalars_of_differ {acc entries : List (Json × α)}
    (differ : KeysDiffer ((acc ++ entries).map Prod.fst)) :
    putScalars acc entries = acc ++ entries := by
  induction entries generalizing acc with
  | nil => exact (List.append_nil acc).symm
  | cons e entries ih =>
    have fresh : ∀ d ∈ acc, sameKey d.1 e.1 = false := by
      intro d hd
      rw [KeysDiffer, List.map_append, List.pairwise_append] at differ
      exact differ.2.2 d.1 (List.mem_map_of_mem hd) e.1 (by simp)
    have step : putScalars acc (e :: entries) = putScalars (putScalar acc e.1 e.2) entries := rfl
    rw [step, putScalar_of_fresh fresh, ih (by simpa using differ), List.append_assoc,
      List.singleton_append]

/-- If nothing is lost, the keys differ. -/
theorem differ_of_length (acc : List (Json × α)) {entries : List (Json × α)}
    (differ : KeysDiffer (acc.map Prod.fst))
    (whole : acc.length + entries.length ≤ (putScalars acc entries).length) :
    KeysDiffer ((acc ++ entries).map Prod.fst) := by
  induction entries generalizing acc with
  | nil => rwa [List.append_nil]
  | cons e entries ih =>
    have step : putScalars acc (e :: entries) = putScalars (putScalar acc e.1 e.2) entries := rfl
    have later := length_putScalars_le (putScalar acc e.1 e.2) entries
    rw [step, List.length_cons] at whole
    have grown : acc.length < (putScalar acc e.1 e.2).length := by omega
    have fresh := fresh_of_length grown
    rw [putScalar_of_fresh fresh, Prod.mk.eta] at whole
    have more : KeysDiffer ((acc ++ [e]).map Prod.fst) := by
      rw [KeysDiffer, List.map_append, List.pairwise_append]
      refine ⟨differ, by simp, fun k hk l hl => ?_⟩
      obtain ⟨d, hd, rfl⟩ := List.mem_map.1 hk
      obtain rfl : l = e.1 := by simpa using hl
      exact fresh d hd
    have := ih _ more (by rw [List.length_append, List.length_singleton]; omega)
    rwa [List.append_assoc, List.singleton_append] at this

theorem keysDiffer_str {names : List String} : KeysDiffer (names.map .str) ↔ names.Nodup := by
  rw [KeysDiffer, List.pairwise_map]
  simp [sameKey, List.Nodup]

end Json

/-! ## Entries of their own -/

open Bucketing (named named_foldl_putScalar)

/-- Each of the things asked for has an entry, under a name of its own. -/
def HasOwn {α : Type} (R : α → String × Json → Prop) (asked : List α) (entries : Entries Json) :
    Prop :=
  ∃ own : Entries Json, List.Forall₂ R asked own ∧ own.keys.Nodup ∧ own ⊆ entries

/-- What is written for the things asked for is there for each of them if and only if it is written
under different keys with different names. -/
theorem hasOwn_putScalars_iff {α : Type} {R : α → String × Json → Prop} {asked : List α}
    {written : List (Json × Json)} (each : List.Forall₂ R asked (named written)) :
    HasOwn R asked (named (Json.putScalars [] written)) ↔
      Json.KeysDiffer (written.map Prod.fst) ∧ (named written).keys.Nodup := by
  have count {entries : List (Json × Json)} : (named entries).length = entries.length :=
    List.length_map _
  constructor
  · rintro ⟨own, related, nodup, sub⟩
    have subperm := List.subperm_of_subset nodup.of_map sub
    have length : own.length = written.length := by rw [← related.length_eq, each.length_eq, count]
    have whole := subperm.length_le
    rw [length, count] at whole
    have differ := Json.differ_of_length [] .nil (by simpa using whole)
    rw [List.nil_append] at differ
    rw [Json.putScalars_of_differ differ] at subperm
    have perm := subperm.perm_of_length_le (by rw [count, length]; rfl)
    exact ⟨differ, (perm.map Prod.fst).nodup_iff.1 nodup⟩
  · rintro ⟨differ, nodup⟩
    rw [Json.putScalars_of_differ differ]
    exact ⟨_, each, nodup, List.Subset.refl _⟩

/-! ## What a body asks for -/

/-- The entry is an aggregation of the metric's own kind on its own field. -/
def Metric.IsAsked (m : Metric) (entry : String × Json) : Prop :=
  ∃ parameters : Entries Json, entry.2 = .obj [(m.kind.name, .obj parameters)] ∧
    parameters.get? "field" = some (.ofText? m.field)

/-- The entry is a filter by the query of an entry of the settings. -/
def IsNamedFilter (filter : Json) (entry : String × Json) : Prop :=
  ∃ query, filter.entry "query" = .ok query ∧ entry.2 = textClause query

namespace Bucketing

/-- The list of filters in the settings of a bucketing. -/
def filterEntries (b : Bucketing) : Outcome (List Json) :=
  (b.setting "filters" (.arr [.obj [("query", .str "*")]])).walk

/-- The parameters have a filter for each entry of the settings. -/
def AsksForFilters (b : Bucketing) (parameters : Json) : Prop :=
  b.kind = .filters → ∃ filters fields, b.filterEntries = .ok filters ∧
    parameters = .obj [("filters", .obj fields)] ∧ HasOwn IsNamedFilter filters fields

/-- The filters of a bucketing have different labels, and the labels different names. -/
def LabelsDiffer (b : Bucketing) : Prop :=
  b.kind = .filters → ∀ filters clauses, b.filterEntries = .ok filters →
    filters.mapM labelled = .ok clauses →
      Json.KeysDiffer (clauses.map Prod.fst) ∧ (clauses.map (·.1.keyText)).Nodup

/-- The parameters of a bucketing hold all its filters if and only if their labels differ. -/
theorem asksForFilters_iff {b : Bucketing} {timeField : String} {parameters : Json}
    (made : b.parameters timeField = .ok parameters) :
    b.AsksForFilters parameters ↔ b.LabelsDiffer := by
  by_cases kind : b.kind = .filters
  · rw [Bucketing.parameters, kind] at made
    obtain ⟨filters, found, made⟩ := Outcome.bind_eq_ok.1 made
    obtain ⟨clauses, each, made⟩ := Outcome.bind_eq_ok.1 made
    obtain rfl := Outcome.pure_eq_ok.1 made
    have related : List.Forall₂ IsNamedFilter filters (named clauses) := by
      rw [named, List.forall₂_map_right_iff]
      refine (Outcome.mapM_eq_ok.1 each).imp fun filter clause h => ?_
      obtain ⟨-, query, -, hq, -, rfl⟩ := labelled_eq_ok h
      exact ⟨query, hq, rfl⟩
    have names : (named clauses).keys = clauses.map (·.1.keyText) := List.map_map
    have own := hasOwn_putScalars_iff related
    rw [names] at own
    constructor
    · intro asks _ filters' clauses' found' each'
      obtain rfl := Except.ok.inj (found.symm.trans found')
      obtain rfl := Except.ok.inj (each.symm.trans each')
      obtain ⟨filters', fields, found', same, has⟩ := asks kind
      obtain rfl := Except.ok.inj (found.symm.trans found')
      obtain rfl : named (Json.putScalars [] clauses) = fields := by
        simpa [named, Json.putScalars] using same
      exact own.1 has
    · intro differ _
      exact ⟨filters, _, found, rfl, own.2 (differ kind filters clauses found each)⟩
  · exact ⟨fun _ h => absurd h kind, fun _ h => absurd h kind⟩

end Bucketing

/-- The aggregations have one for each bucketing, the next within it, and the innermost one for each
metric other than the number of documents. -/
def AsksFor (metrics : List Metric) : List Bucketing → Entries Json → Prop
  | [], aggregations => HasOwn Metric.IsAsked (metrics.filter (·.kind ≠ .count)) aggregations
  | b :: rest, aggregations => ∃ parameters nested,
    (b.id, .obj ((b.kind.name, parameters) :: aggregationEntries nested)) ∈ aggregations ∧
      b.AsksForFilters parameters ∧ AsksFor metrics rest nested

theorem isAsked_aggregation (m : Metric) (name : String) : m.IsAsked (name, m.aggregation) :=
  ⟨_, rfl, by rw [Entries.get?_cons, if_pos rfl]⟩

/-- Each metric has its own aggregation if and only if the ids differ. -/
theorem hasOwn_metricAggregations_iff (metrics : List Metric) :
    HasOwn Metric.IsAsked (metrics.filter (·.kind ≠ .count)) (metricAggregations metrics) ↔
      ((metrics.filter (·.kind ≠ .count)).map Metric.id).Nodup := by
  let written := (metrics.filter (·.kind ≠ .count)).map fun m => (Json.str m.id, m.aggregation)
  have same : metricAggregations metrics = named (Json.putScalars [] written) := by
    have texts : Bucketing.TextKeys written := List.forall_mem_map.2 fun m _ => ⟨m.id, rfl⟩
    rw [Json.putScalars, named_foldl_putScalar texts, named, List.map_map]
    rfl
  have each : List.Forall₂ Metric.IsAsked (metrics.filter (·.kind ≠ .count)) (named written) := by
    rw [named, List.map_map, List.forall₂_map_right_iff, List.forall₂_same]
    exact fun m _ => isAsked_aggregation m _
  have ids : written.map Prod.fst =
      ((metrics.filter (·.kind ≠ .count)).map Metric.id).map .str := by
    rw [List.map_map, List.map_map]
    rfl
  have names : (named written).keys = (metrics.filter (·.kind ≠ .count)).map Metric.id := by
    rw [Entries.keys, named, List.map_map, List.map_map]
    rfl
  rw [same, hasOwn_putScalars_iff each, ids, names, Json.keysDiffer_str, and_self]

theorem asksFor_nest_iff {metrics : List Metric} {timeField : String} {buckets : List Bucketing}
    {aggregations : Entries Json}
    (made : nest timeField (metricAggregations metrics) buckets = .ok aggregations) :
    AsksFor metrics buckets aggregations ↔
      ((metrics.filter (·.kind ≠ .count)).map Metric.id).Nodup ∧ ∀ b ∈ buckets, b.LabelsDiffer := by
  induction buckets generalizing aggregations with
  | nil =>
    obtain rfl := Outcome.pure_eq_ok.1 made
    rw [AsksFor]
    simpa using hasOwn_metricAggregations_iff metrics
  | cons b rest ih =>
    obtain ⟨parameters, nested, here, inner, rfl⟩ := nest_cons_eq_ok made
    have one : AsksFor metrics (b :: rest)
        [(b.id, .obj ((b.kind.name, parameters) :: aggregationEntries nested))] ↔
          b.AsksForFilters parameters ∧ AsksFor metrics rest nested := by
      constructor
      · rintro ⟨parameters', nested', mem, filters, deeper⟩
        obtain ⟨rfl, below⟩ : parameters' = parameters ∧
          aggregationEntries nested' = aggregationEntries nested := by simpa using mem
        obtain rfl := aggregationEntries_injective below
        exact ⟨filters, deeper⟩
      · rintro ⟨filters, deeper⟩
        exact ⟨parameters, nested, by simp, filters, deeper⟩
    rw [one, Bucketing.asksForFilters_iff here, ih inner, List.forall_mem_cons]
    tauto

/-- A body asks for all that its query asks for if and only if the metrics other than the number of
documents have different ids, and the filters of each bucketing different labels. -/
theorem asksFor_body_iff (q : PanelQuery) (computes : q.isRawDocument = false)
    {filters : List AdhocFilter} {text : String} {body : Body}
    (built : q.body filters text = .ok body) :
    AsksFor q.metrics q.buckets body.aggregations ↔
      ((q.metrics.filter (·.kind ≠ .count)).map Metric.id).Nodup ∧
        ∀ b ∈ q.buckets, b.LabelsDiffer :=
  asksFor_nest_iff (nest_of_body built computes)

theorem errorsOverTime_asksFor : errorsOverTime.isRawDocument = false ∧
    ∃ body, errorsOverTime.body [] "*" = .ok body ∧
      AsksFor errorsOverTime.metrics errorsOverTime.buckets body.aggregations := by
  obtain ⟨body, built⟩ : ∃ body, errorsOverTime.body [] "*" = .ok body := ⟨_, rfl⟩
  refine ⟨rfl, body, built, (asksFor_body_iff errorsOverTime rfl built).2 ⟨by decide, ?_⟩⟩
  intro b hb kind filters clauses found each
  rcases List.mem_pair.1 hb with rfl | rfl
  · obtain rfl := Except.ok.inj found
    obtain rfl := Except.ok.inj each
    exact ⟨by simp [Json.KeysDiffer], by simp⟩
  · cases kind

/-- A query for the mean of one field and the maximum of another, without ids. -/
def meanAndMaximum : Json :=
  .obj [("metrics", .arr [.obj [("type", .str "avg"), ("field", .str "latency")],
    .obj [("type", .str "max"), ("field", .str "size")]])]

/-- Metrics without ids have the same one, and only the last of them is asked for. -/
theorem meanAndMaximum_not_asksFor : ∃ q body, PanelQuery.check .notRecord meanAndMaximum = .ok q ∧
    q.isRawDocument = false ∧ q.body [] "*" = .ok body ∧
    ¬ AsksFor q.metrics q.buckets body.aggregations := by
  obtain ⟨q, checked, computes, same, body, built⟩ : ∃ q,
      PanelQuery.check .notRecord meanAndMaximum = .ok q ∧ q.isRawDocument = false ∧
        (q.metrics.filter (·.kind ≠ .count)).map Metric.id = ["1", "1"] ∧
        ∃ body, q.body [] "*" = .ok body := ⟨_, rfl, rfl, rfl, _, rfl⟩
  refine ⟨q, body, checked, computes, built, fun asks => ?_⟩
  have distinct := ((asksFor_nest_iff (nest_of_body built computes)).1 asks).1
  rw [same] at distinct
  exact absurd distinct (by decide)

end ElasticPanels

import ElasticPanels.Proofs.WireValues
import ElasticPanels.Search.Payload

/-!
# What search bodies hold

The settings of a query come from a text, and a body that is built from them is such a value as a
text gives again (`isWire_body`), provided that the labels of its filters are texts, so that no two
of them are written alike (`Bucketing.TextLabels`).
-/

namespace ElasticPanels

/-! ## Conditions -/

open Json (IsWire)

namespace Search

theorem isWire_textClause {query : Json} (h : IsWire query) : IsWire (textClause query) :=
  .entry _ (.obj (by simp) (by simpa using ⟨IsWire.bool true, h⟩))

theorem isWire_timeClause (timeField : String) : IsWire (timeClause timeField) := by
  refine .entry _ (.entry _ (.obj (by simp) ?_))
  simpa using ⟨IsWire.str _, IsWire.str _, IsWire.str _⟩

theorem isWire_clause (f : AdhocFilter) : IsWire f.clause := by
  unfold AdhocFilter.clause
  split
  · exact .entry _ (.entry _ (.entry _ (.str _)))
  · exact .entry _ (.entry _ (.entry _ (.str _)))
  · exact .entry _ (.entry _ (.entry _ (.str _)))
  · exact .entry _ (.entry _ (.entry _ (.str _)))
  · exact .entry _ (.entry _ (.str _))
  · exact .entry _ (.entry _ (.str _))

theorem isWire_selection (timeField query : String) (filters : List AdhocFilter) :
    IsWire (selection timeField query filters) := by
  have both : IsWire (.arr [timeClause timeField, textClause (.str query)]) :=
    .arr (by simpa using ⟨isWire_timeClause timeField, isWire_textClause (.str query)⟩)
  refine .entry _ ?_
  unfold filterClauses
  split_ifs
  · exact .entry _ both
  · refine .obj (by simp) ?_
    have clauses (fs : List AdhocFilter) : IsWire (.arr (fs.map AdhocFilter.clause)) :=
      .arr (List.forall_mem_map.2 fun f _ => isWire_clause f)
    simpa using ⟨both, clauses _, clauses _⟩

end Search

/-! ## Parameters -/

namespace Json

/-- What holds of all values that are put holds of all that is left of them. -/
theorem forall_foldl_putScalar {α : Type} {P : α → Prop} {clauses : List (Json × α)}
    (h : ∀ clause ∈ clauses, P clause.2) :
    ∀ clause ∈ clauses.foldl (fun acc entry => putScalar acc entry.1 entry.2) [], P clause.2 := by
  have put {acc : List (Json × α)} (ha : ∀ e ∈ acc, P e.2) (key : Json) {value : α}
      (hv : P value) : ∀ e ∈ putScalar acc key value, P e.2 := by
    induction acc with
    | nil => simpa [putScalar] using hv
    | cons e acc ih =>
      obtain ⟨k, v⟩ := e
      obtain ⟨first, later⟩ := List.forall_mem_cons.1 ha
      rw [putScalar]
      split_ifs
      · exact List.forall_mem_cons.2 ⟨hv, later⟩
      · exact List.forall_mem_cons.2 ⟨first, ih later⟩
  have all (acc : List (Json × α)) (ha : ∀ e ∈ acc, P e.2) :
      ∀ e ∈ clauses.foldl (fun acc entry => putScalar acc entry.1 entry.2) acc, P e.2 := by
    induction clauses generalizing acc with
    | nil => exact ha
    | cons clause clauses ih =>
      obtain ⟨first, later⟩ := List.forall_mem_cons.1 h
      exact ih later _ (put ha clause.1 first)
  exact all [] (by simp)

end Json

/-- The settings of a metric are such as a text gives. -/
def Metric.IsWire (m : Metric) : Prop := ∀ setting ∈ m.settings, setting.2.IsWire

/-- The settings of a bucketing are such as a text gives. -/
def Bucketing.IsWire (b : Bucketing) : Prop := ∀ setting ∈ b.settings, setting.2.IsWire

/-- The labels of a bucketing by filters are texts or left out, and its queries are texts. -/
def Bucketing.TextLabels (b : Bucketing) : Prop :=
  b.kind = .filters →
    ∀ entries, (b.setting "filters" (.arr [.obj [("query", .str "*")]])).walk = .ok entries →
      ∀ e ∈ entries,
        (∀ label, e.entryD "label" .null = .ok label → label = .null ∨ ∃ s, label = .str s) ∧
        ∀ query, e.entry "query" = .ok query → ∃ s, query = .str s

theorem Metric.isWire_parameters {m : Metric} (h : m.IsWire) : m.parameters.IsWire := by
  unfold Metric.parameters
  dsimp only
  generalize hp : (if m.kind = .percentiles then m.settings.get? "percents" else none) = percents
  cases percents with
  | none => exact .entry _ (.ofText? _)
  | some p =>
    have : p.IsWire := by
      split_ifs at hp
      exact h _ (Entries.mem_of_get? hp)
    refine .obj (by simp) ?_
    simpa using ⟨IsWire.ofText? m.field, this⟩

namespace Bucketing

variable {b : Bucketing} (wire : b.IsWire)
include wire

theorem isWire_setting (name : String) {default : Json} (h : default.IsWire) :
    (b.setting name default).IsWire := by
  unfold setting
  cases found : b.settings.get? name with
  | none => exact h
  | some v => exact wire _ (Entries.mem_of_get? found)

theorem isShort_setting {name : String} {n m : ℤ}
    (h : (b.setting name (.int n)).wholeNumber = .ok m) (short : IsShort n) : IsShort m :=
  isShort_wholeNumber (isWire_setting wire name (.int short)).legible h

theorem isWire_byTime {timeField : String} {v : Json} (h : b.byTime timeField = .ok v) :
    v.IsWire := by
  unfold byTime at h
  dsimp only at h
  rw [Outcome.bind_eq_ok] at h
  obtain ⟨least, hl, h⟩ := h
  obtain rfl := Outcome.pure_eq_ok.1 h
  have interval := isWire_setting wire "interval" (.str "auto")
  have bounds : Json.IsWire (.obj [("min", .str "$timeFrom"), ("max", .str "$timeTo")]) :=
    .obj (by simp) (by simpa using ⟨Json.IsWire.str _, Json.IsWire.str _⟩)
  have short := isShort_setting wire hl (by decide)
  refine .obj (by simp) ?_
  simp only [List.forall_mem_cons, List.not_mem_nil, false_implies, implies_true, and_true]
  refine ⟨?_, .str _, .int short, bounds, .str _⟩
  split
  · exact .str _
  · exact interval

theorem isWire_byTerm {v : Json} (h : b.byTerm = .ok v) : v.IsWire := by
  unfold byTerm at h
  dsimp only at h
  rw [Outcome.bind_eq_ok] at h
  obtain ⟨size, hs, h⟩ := h
  have order : Json.IsWire (.obj [((b.setting "order_by" (.str "_term")).keyText,
      b.setting "order" (.str "desc"))]) := .entry _ (isWire_setting wire _ (.str _))
  have limit : IsShort (if size = 0 then Search.termsLimit else size) := by
    split_ifs
    · decide
    · exact isShort_setting wire hs (by decide)
  generalize (if size = 0 then Search.termsLimit else size) = n at h limit
  by_cases scalar : (b.setting "order_by" (.str "_term")).isScalar = true
  · simp only [scalar, Bool.not_true, Bool.false_eq_true, if_false, pure_bind] at h
    split at h
    · rename_i setting found
      obtain ⟨least, hl, h⟩ := Outcome.bind_eq_ok.1 h
      obtain ⟨m, hm, rfl⟩ := Outcome.map_eq_ok.1 hl
      obtain rfl := Outcome.pure_eq_ok.1 h
      have short := isShort_wholeNumber (wire _ (Entries.mem_of_get? found)).legible hm
      refine .obj (by simp) ?_
      simpa using ⟨Json.IsWire.ofText? b.field, Json.IsWire.int limit, order, .int short⟩
    · obtain rfl := Outcome.pure_eq_ok.1 h
      refine .obj (by simp) ?_
      simpa using ⟨Json.IsWire.ofText? b.field, Json.IsWire.int limit, order⟩
  · simp only [scalar, Bool.not_false, if_true] at h
    cases h

theorem isWire_byNumber {v : Json} (h : b.byNumber = .ok v) : v.IsWire := by
  unfold byNumber at h
  rw [Outcome.bind_eq_ok] at h
  obtain ⟨least, hl, h⟩ := h
  obtain rfl := Outcome.pure_eq_ok.1 h
  have short := isShort_setting wire hl (by decide)
  have interval := isWire_setting wire "interval" (.int (n := 1000) (by decide))
  refine .obj (by simp) ?_
  simpa using ⟨Json.IsWire.ofText? b.field, interval, Json.IsWire.int short⟩

omit wire

/-- Entries with the texts of their keys. -/
def named {α : Type} (entries : List (Json × α)) : Entries α :=
  entries.map fun entry => (entry.1.keyText, entry.2)

/-- All keys are texts. -/
def TextKeys {α : Type} (entries : List (Json × α)) : Prop :=
  ∀ entry ∈ entries, ∃ s, entry.1 = .str s

theorem putScalar_text {α : Type} {entries : List (Json × α)} (texts : TextKeys entries)
    (s : String) (value : α) :
    named (Json.putScalar entries (.str s) value) = (named entries).put s value ∧
      TextKeys (Json.putScalar entries (.str s) value) := by
  induction entries with
  | nil => exact ⟨rfl, by simp [TextKeys, Json.putScalar]⟩
  | cons entry rest ih =>
    obtain ⟨k, v⟩ := entry
    obtain ⟨t, rfl⟩ : ∃ t, k = .str t := texts (k, v) (by simp)
    have textsRest : TextKeys rest := fun entry h => texts entry (by simp [h])
    obtain ⟨same, later⟩ := ih textsRest
    have put : (named ((.str t, v) :: rest)).put s value =
        if t = s then (t, value) :: named rest else (t, v) :: (named rest).put s value := rfl
    rw [put, Json.putScalar]
    simp only [Json.sameKey, beq_iff_eq]
    split_ifs with h
    · exact ⟨rfl, List.forall_mem_cons.2 ⟨⟨t, rfl⟩, textsRest⟩⟩
    · rw [← same]
      exact ⟨rfl, List.forall_mem_cons.2 ⟨⟨t, rfl⟩, later⟩⟩

/-- Entries whose keys are texts are put as entries of an object are. -/
theorem named_foldl_putScalar {α : Type} {clauses : List (Json × α)} (texts : TextKeys clauses) :
    named (clauses.foldl (fun acc entry => Json.putScalar acc entry.1 entry.2) []) =
      Entries.ofPairs (named clauses) := by
  have all (acc : List (Json × α)) (h : TextKeys acc) :
      named (clauses.foldl (fun acc entry => Json.putScalar acc entry.1 entry.2) acc) =
        (named acc).putAll (named clauses) := by
    induction clauses generalizing acc with
    | nil => rfl
    | cons entry rest ih =>
      obtain ⟨k, v⟩ := entry
      obtain ⟨s, rfl⟩ : ∃ s, k = .str s := texts (k, v) (by simp)
      obtain ⟨same, texts'⟩ := putScalar_text h s v
      rw [List.foldl_cons, ih (fun entry h => texts entry (by simp [h])) _ texts', same]
      rfl
  exact all [] (by simp [TextKeys])

theorem labelled_eq_ok {e : Json} {clause : Json × Json} (h : labelled e = .ok clause) :
    ∃ label query, e.entryD "label" .null = .ok label ∧ e.entry "query" = .ok query ∧
      (if label.truthy then label else query).isScalar = true ∧
      clause = (if label.truthy then label else query, Search.textClause query) := by
  unfold labelled at h
  obtain ⟨label, hl, h⟩ := Outcome.bind_eq_ok.1 h
  obtain ⟨query, hq, h⟩ := Outcome.bind_eq_ok.1 h
  dsimp only at h
  refine ⟨label, query, hl, hq, ?_⟩
  generalize (if label.truthy then label else query) = key at h
  cases scalar : key.isScalar with
  | false => simp only [scalar, Bool.not_false, if_true] at h; cases h
  | true =>
    simp only [scalar, Bool.not_true, Bool.false_eq_true, if_false] at h
    exact ⟨rfl, (Outcome.pure_eq_ok.1 h).symm⟩

theorem byFilter_eq_ok {v : Json} (h : b.byFilter = .ok v) : ∃ entries clauses,
    (b.setting "filters" (.arr [.obj [("query", .str "*")]])).walk = .ok entries ∧
      entries.mapM labelled = .ok clauses ∧
      v = .obj [("filters", .obj (named (clauses.foldl
        (fun acc entry => Json.putScalar acc entry.1 entry.2) [])))] := by
  unfold byFilter at h
  obtain ⟨entries, walked, h⟩ := Outcome.bind_eq_ok.1 h
  obtain ⟨clauses, made, h⟩ := Outcome.bind_eq_ok.1 h
  exact ⟨entries, clauses, walked, made, (Outcome.pure_eq_ok.1 h).symm⟩

theorem isWire_byFilter (labels : b.TextLabels) (kind : b.kind = .filters) {v : Json}
    (h : b.byFilter = .ok v) : v.IsWire := by
  obtain ⟨entries, clauses, he, hc, rfl⟩ := byFilter_eq_ok h
  have texts := labels kind entries he
  have clause : ∀ clause ∈ clauses, (∃ s, clause.1 = .str s) ∧ clause.2.IsWire := by
    intro clause mem
    obtain ⟨e, me, made⟩ := Outcome.exists_of_mapM hc mem
    obtain ⟨text, query⟩ := texts e me
    obtain ⟨label, q, hl, hq, -, rfl⟩ := labelled_eq_ok made
    obtain ⟨s, rfl⟩ := query q hq
    refine ⟨?_, Search.isWire_textClause (.str s)⟩
    rcases text label hl with rfl | ⟨t, rfl⟩
    · exact ⟨s, rfl⟩
    · dsimp only
      split_ifs
      · exact ⟨t, rfl⟩
      · exact ⟨s, rfl⟩
  have keys := Entries.ofPairs_spec (named clauses)
  rw [named_foldl_putScalar fun c hc => (clause c hc).1]
  refine .entry _ (.obj keys.1 fun field hf => ?_)
  obtain ⟨c, mem, rfl⟩ := List.mem_map.1 (keys.2 field hf)
  exact (clause c mem).2

/-- Whatever the labels are, a text can hold the numbers of the clauses. -/
theorem legible_byFilter (wire : b.IsWire) {v : Json} (h : b.byFilter = .ok v) : v.Legible := by
  obtain ⟨entries, clauses, he, hc, rfl⟩ := byFilter_eq_ok h
  have everything : Json.IsWire (.arr [.obj [("query", .str "*")]]) :=
    .arr (by simpa using Json.IsWire.entry "query" (.str "*"))
  have filters := isWire_setting wire "filters" everything
  have clause : ∀ clause ∈ clauses, clause.2.Legible := by
    intro clause mem
    obtain ⟨e, me, made⟩ := Outcome.exists_of_mapM hc mem
    obtain ⟨label, query, -, hq, -, rfl⟩ := labelled_eq_ok made
    exact (Search.isWire_textClause ((filters.of_walk he e me).of_entry hq)).legible
  refine .obj (List.forall_mem_singleton.2 (.obj (List.forall_mem_map.2 ?_)))
  exact Json.forall_foldl_putScalar clause

theorem legible_parameters (wire : b.IsWire) {timeField : String} {v : Json}
    (h : b.parameters timeField = .ok v) : v.Legible := by
  unfold parameters at h
  split at h
  · exact (isWire_byTime wire h).legible
  · exact (isWire_byTerm wire h).legible
  · exact (isWire_byNumber wire h).legible
  · exact legible_byFilter wire h

theorem isWire_parameters (wire : b.IsWire) (labels : b.TextLabels) {timeField : String} {v : Json}
    (h : b.parameters timeField = .ok v) : v.IsWire := by
  unfold parameters at h
  split at h
  · exact isWire_byTime wire h
  · exact isWire_byTerm wire h
  · exact isWire_byNumber wire h
  · rename_i kind
    exact isWire_byFilter labels kind h

end Bucketing

/-! ## Bodies -/

/-- The free-form values of a panel query are such as a text gives. -/
structure PanelQuery.IsWire (q : PanelQuery) : Prop where
  size : ∀ n, q.size = some n → IsShort n
  metrics : ∀ m ∈ q.metrics, m.IsWire
  buckets : ∀ b ∈ q.buckets, b.IsWire

namespace Search

theorem nodup_keys_aggregationEntries (first : List (String × Json)) {aggregations : Entries Json}
    (keys : (first.map Prod.fst).Nodup) (other : "aggs" ∉ first.map Prod.fst) :
    ((first ++ aggregationEntries aggregations).map Prod.fst).Nodup := by
  unfold aggregationEntries
  split_ifs
  · simpa using keys
  · rw [List.map_append, List.nodup_append]
    refine ⟨keys, by simp, fun a ha b hb same => other ?_⟩
    obtain rfl : b = "aggs" := by simpa using hb
    rwa [← same]

theorem isWire_metricAggregations {metrics : List Metric} (h : ∀ m ∈ metrics, m.IsWire) :
    Json.IsWire (.obj (metricAggregations metrics)) := by
  obtain ⟨keys, mem⟩ := Entries.ofPairs_spec ((metrics.filter (·.kind ≠ .count)).map fun m =>
    (m.id, Json.obj [(m.kind.name, m.parameters)]))
  refine .obj keys fun field hf => ?_
  obtain ⟨m, hm, rfl⟩ := List.mem_map.1 (mem field hf)
  exact .entry _ (Metric.isWire_parameters (h m (List.mem_of_mem_filter hm)))

theorem isWire_newestFirst (timeField : String) : Json.IsWire (newestFirst timeField) :=
  .entry _ (.obj (by simp) (by simpa using ⟨Json.IsWire.str _, Json.IsWire.str _⟩))

/-- A bucketing around others stands alone and holds them. -/
theorem nest_cons_eq_ok {timeField : String} {innermost aggregations : Entries Json} {b : Bucketing}
    {rest : List Bucketing} (h : nest timeField innermost (b :: rest) = .ok aggregations) :
    ∃ parameters nested, b.parameters timeField = .ok parameters ∧
      nest timeField innermost rest = .ok nested ∧
      aggregations =
        [(b.id, .obj ((b.kind.name, parameters) :: aggregationEntries nested))] := by
  obtain ⟨parameters, hp, h⟩ := Outcome.bind_eq_ok.1 h
  obtain ⟨nested, hn, h⟩ := Outcome.bind_eq_ok.1 h
  exact ⟨parameters, nested, hp, hn, (Outcome.pure_eq_ok.1 h).symm⟩

/-- Nesting fails only for parameters that cannot be made. -/
theorem exists_of_nest_eq_error {timeField : String} {innermost : Entries Json}
    {buckets : List Bucketing} {fault : Fault}
    (h : nest timeField innermost buckets = .error fault) :
    ∃ b ∈ buckets, b.parameters timeField = .error fault := by
  induction buckets with
  | nil => cases h
  | cons b rest ih =>
    obtain first | ⟨parameters, -, h⟩ := Outcome.bind_eq_error.1 h
    · exact ⟨b, by simp, first⟩
    obtain later | ⟨nested, -, h⟩ := Outcome.bind_eq_error.1 h
    · obtain ⟨c, hc, failed⟩ := ih later
      exact ⟨c, by simp [hc], failed⟩
    · cases h

theorem body_eq (q : PanelQuery) (filters : List AdhocFilter) (text : String) :
    q.body filters text =
      if q.isRawDocument then
        .ok ⟨q.size.getD documentLimit, selection q.timeField text filters,
          some (newestFirst q.timeField), []⟩
      else (nest q.timeField (metricAggregations q.metrics) q.buckets).map fun aggregations =>
        ⟨0, selection q.timeField text filters, none, aggregations⟩ := by
  unfold PanelQuery.body
  dsimp only
  split_ifs
  · rfl
  · cases nest q.timeField (metricAggregations q.metrics) q.buckets <;> rfl

/-- A body asks for documents, or for the nested aggregations of its query. -/
theorem body_cases {q : PanelQuery} {filters : List AdhocFilter} {text : String} {body : Body}
    (built : q.body filters text = .ok body) :
    (q.isRawDocument = true ∧
      body = ⟨q.size.getD documentLimit, selection q.timeField text filters,
        some (newestFirst q.timeField), []⟩) ∨
    (q.isRawDocument = false ∧ ∃ aggregations,
      nest q.timeField (metricAggregations q.metrics) q.buckets = .ok aggregations ∧
        body = ⟨0, selection q.timeField text filters, none, aggregations⟩) := by
  rw [body_eq] at built
  split_ifs at built with raw
  · exact .inl ⟨raw, (Except.ok.inj built).symm⟩
  · obtain ⟨aggregations, nested, rfl⟩ := Outcome.map_eq_ok.1 built
    exact .inr ⟨by simpa using raw, aggregations, nested, rfl⟩

/-- The search of a query fails only for a bucketing whose parameters cannot be made. -/
theorem exists_of_body_eq_error {q : PanelQuery} {filters : List AdhocFilter} {text : String}
    {fault : Fault} (h : q.body filters text = .error fault) :
    q.isRawDocument = false ∧ ∃ b ∈ q.buckets, b.parameters q.timeField = .error fault := by
  rw [body_eq] at h
  split_ifs at h with raw
  have failed : nest q.timeField (metricAggregations q.metrics) q.buckets = .error fault := by
    cases nested : nest q.timeField (metricAggregations q.metrics) q.buckets with
    | ok aggregations =>
      rw [nested] at h
      cases h
    | error other =>
      rw [nested] at h
      cases h
      rfl
  exact ⟨by simpa using raw, exists_of_nest_eq_error failed⟩

theorem selection_of_body {q : PanelQuery} {filters : List AdhocFilter} {text : String}
    {body : Body} (built : q.body filters text = .ok body) :
    body.selection = selection q.timeField text filters := by
  obtain ⟨-, rfl⟩ | ⟨-, aggregations, -, rfl⟩ := body_cases built <;> rfl

section Body

/-! What holds of all values of `IsWire`, and of an object if it holds of its parts, holds of a body
if it holds of the parameters in it. -/

variable {P : Json → Prop} (ofWire : ∀ v, v.IsWire → P v)
  (ofParts : ∀ fields : List (String × Json), (fields.map Prod.fst).Nodup →
    (∀ field ∈ fields, P field.2) → P (.obj fields))

theorem forall_aggregationEntries {aggregations : Entries Json} (h : P (.obj aggregations)) :
    ∀ field ∈ aggregationEntries aggregations, P field.2 := by
  unfold aggregationEntries
  split_ifs
  · simp
  · simpa using h

include ofParts

theorem nest_of_parts {timeField : String} {innermost : Entries Json}
    (inner : P (.obj innermost)) {buckets : List Bucketing}
    (parameters : ∀ b ∈ buckets, ∀ v, b.parameters timeField = .ok v → P v)
    {aggregations : Entries Json} (h : nest timeField innermost buckets = .ok aggregations) :
    P (.obj aggregations) := by
  induction buckets generalizing aggregations with
  | nil =>
    obtain rfl := Outcome.pure_eq_ok.1 h
    exact inner
  | cons b rest ih =>
    obtain ⟨v, nested, hv, hn, rfl⟩ := nest_cons_eq_ok h
    have deeper := ih (fun b hb => parameters b (by simp [hb])) hn
    have keys : (((b.kind.name, v) :: aggregationEntries nested).map Prod.fst).Nodup := by
      apply nodup_keys_aggregationEntries [(b.kind.name, v)] (by simp)
      cases b.kind <;> simp [BucketKind.name]
    have node := ofParts _ keys (List.forall_mem_cons.2
      ⟨parameters b (by simp) v hv, forall_aggregationEntries deeper⟩)
    exact ofParts _ (by simp) (by simpa using node)

include ofWire

theorem body_of_parts {q : PanelQuery} (wire : q.IsWire)
    (parameters : ∀ b ∈ q.buckets, ∀ v, b.parameters q.timeField = .ok v → P v)
    {filters : List AdhocFilter} {text : String} {body : Body}
    (h : q.body filters text = .ok body) : P body.toJson := by
  have selection := isWire_selection q.timeField text filters
  obtain ⟨-, rfl⟩ | ⟨-, aggregations, ha, rfl⟩ := body_cases h
  · have size : IsShort (q.size.getD documentLimit) := by
      cases hs : q.size with
      | none => decide
      | some n => exact wire.size n hs
    refine ofWire _ (.obj (by simp [aggregationEntries]) ?_)
    simpa [aggregationEntries] using
      ⟨Json.IsWire.int size, selection, isWire_newestFirst q.timeField⟩
  · have nested := nest_of_parts ofParts (ofWire _ (isWire_metricAggregations wire.metrics))
      parameters ha
    refine ofParts _ ?_ ?_
    · exact nodup_keys_aggregationEntries [("size", .int 0), ("query", _)] (by simp) (by simp)
    · simpa [or_imp, forall_and] using ⟨ofWire _ (Json.IsWire.int (by decide : IsShort 0)),
        ofWire _ selection, fun key value h => forall_aggregationEntries nested (key, value) h⟩

end Body

/-- A body that is built from settings such as a text gives is such a value itself. -/
theorem isWire_body {q : PanelQuery} (wire : q.IsWire) (labels : ∀ b ∈ q.buckets, b.TextLabels)
    {filters : List AdhocFilter} {text : String} {body : Body}
    (h : q.body filters text = .ok body) : body.toJson.IsWire :=
  body_of_parts (fun _ wire => wire) (fun _ => .obj) wire
    (fun b hb _ => Bucketing.isWire_parameters (wire.buckets b hb) (labels b hb)) h

/-- Whatever its labels are, a text can hold the numbers of a body. -/
theorem legible_body {q : PanelQuery} (wire : q.IsWire) {filters : List AdhocFilter}
    {text : String} {body : Body} (h : q.body filters text = .ok body) : body.toJson.Legible :=
  body_of_parts (fun _ wire => wire.legible) (fun _ _ => .obj) wire
    (fun b hb _ => Bucketing.legible_parameters (wire.buckets b hb)) h

/-- The header that is sent names the number of shard requests for the newest tier only. -/
theorem sentJson_header (settings : Settings) (searchType : SearchType) :
    (settings.header searchType).sentJson =
      .obj ([("search_type", .str searchType.name), ("ignore_unavailable", .bool true),
        ("index", .str settings.index)] ++
        if settings.version = .v56 then
          [("max_concurrent_shard_requests", .int settings.maxConcurrentShardRequests)]
        else []) := by
  unfold Header.sentJson Settings.header EngineVersion.includesShardConcurrency
  cases settings.version <;> rfl

theorem isWire_sentJson {settings : Settings} (short : IsShort settings.maxConcurrentShardRequests)
    (searchType : SearchType) : (settings.header searchType).sentJson.IsWire := by
  rw [sentJson_header]
  have fixed : Json.IsWire (.str searchType.name) ∧ Json.IsWire (.bool true) ∧
      Json.IsWire (.str settings.index) := ⟨.str _, .bool _, .str _⟩
  split_ifs
  · exact .obj (by simp) (by simpa using ⟨fixed.1, fixed.2.1, fixed.2.2, Json.IsWire.int short⟩)
  · exact .obj (by simp) (by simpa using fixed)

end Search

end ElasticPanels

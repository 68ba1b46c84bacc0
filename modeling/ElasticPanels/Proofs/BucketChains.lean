import ElasticPanels.Proofs.JsonPaths
import ElasticPanels.Proofs.SlotAnswers
import ElasticPanels.Proofs.VisitingOrder

/-!
# The series along chains of buckets

The bucketings of a query lead through nested buckets down to the innermost ones.  `ChainAt` says
which chains of buckets there are in a reply and at which place, that is, through the buckets at
which positions.  If the innermost buckets hold numbers and nulls where they hold anything
(`IsRegular`), a query gets the series of its shown metrics in the innermost buckets of each chain,
chain after chain in the order of their places, and the labels in the name of a series are those of
its own chain (`results_of_regular`).  A bucket without one of the aggregations has no chain through
it, whatever the buckets beside it hold.
-/

namespace ElasticPanels

open Mapping (Enumerates)

/-! ## Chains of buckets -/

/-- Buckets through which nested bucketings lead, the outermost first, and the innermost buckets to
which they lead. -/
structure Chain where
  through : List (Entries Json)
  innermost : List (Entries Json)

/-- The chain that leads through one more bucket, further out. -/
def Chain.within (bucket : Entries Json) (chain : Chain) : Chain :=
  ⟨bucket :: chain.through, chain.innermost⟩

/-- Bucketings lead along a chain, through the buckets at the given positions.  The aggregation of
each of them is there. -/
inductive ChainAt : List Bucketing → Entries Json → List ℕ → Chain → Prop
  | last {b : Bucketing} {fields : Entries Json} {aggregation : Json}
      {buckets : List (Entries Json)} (found : fields.get? b.id = some aggregation)
      (holds : HoldsBuckets aggregation buckets) : ChainAt [b] fields [] ⟨[], buckets⟩
  | more {b c : Bucketing} {rest : List Bucketing} {fields bucket : Entries Json}
      {aggregation : Json} {buckets : List (Entries Json)} {i : ℕ} {place : List ℕ} {chain : Chain}
      (found : fields.get? b.id = some aggregation) (holds : HoldsBuckets aggregation buckets)
      (atBucket : buckets[i]? = some bucket) (onward : ChainAt (c :: rest) bucket place chain) :
      ChainAt (b :: c :: rest) fields (i :: place) (chain.within bucket)

/-! ## What stands in the innermost buckets -/

/-- The key of a bucket. -/
def keyIn (bucket : Entries Json) : Json := (bucket.get? "key").getD .null

/-- The number at the end of a path into a bucket; there is none if a key is missing on the way, or
if the value is null. -/
def numberAt (path : List String) (bucket : Entries Json) : Option Binary64 :=
  match (Json.obj bucket).at? path with
  | some (.float x) => some x
  | some (.int n) => some (.ofInt n)
  | _ => none

/-- The percentages of a metric in the first bucket. -/
def percentsIn (m : Metric) (buckets : List (Entries Json)) : List String :=
  match buckets.head?.bind fun bucket => (Json.obj bucket).at? [m.id, "values"] with
  | some (.obj values) => Entries.keys values
  | _ => []

/-- The labels of the buckets of a chain, each under the name of its bucketing. -/
def Chain.labels (bucketings : List Bucketing) (chain : Chain) : List (String × String) :=
  (bucketings.map Bucketing.labelField).zip
    (chain.through.map fun bucket => labelOf (keyIn bucket) bucket)

/-- The series of a metric over some buckets: a datapoint for each bucket, with its key. -/
def PanelQuery.seriesIn (q : PanelQuery) (labels : Entries String) (buckets : List (Entries Json))
    (m : Metric) : List TimeSeries :=
  let series (title : String) (path : List String) : TimeSeries :=
    ⟨q.seriesName m labels q.visibleMetrics.length title, q.refId,
      buckets.map fun bucket => (numberAt path bucket, keyIn bucket)⟩
  if m.kind = .count then [series m.title ["doc_count"]]
  else if m.kind = .percentiles then
    (percentsIn m buckets).map fun percent =>
      series (m.percentileTitle percent) [m.id, "values", percent]
  else [series m.title [m.id, "value"]]

/-- The series of the shown metrics at the end of a chain. -/
def Chain.series (q : PanelQuery) (chain : Chain) : List TimeSeries :=
  q.visibleMetrics.flatMap (q.seriesIn (.ofPairs (chain.labels q.buckets)) chain.innermost)

/-- Where a metric has an answer in a bucket, it is an object with numbers or nulls. -/
def Metric.IsReadable (m : Metric) (bucket : Entries Json) : Prop :=
  ∀ answer, bucket.get? m.id = some answer → ∃ fields : Entries Json, answer = .obj fields ∧
    if m.kind = .percentiles then
      ∀ found, fields.get? "values" = some found → ∃ values : Entries Json, found = .obj values ∧
        ∀ value ∈ values, ∃ x, IsReading value.2 x
    else ∀ value, fields.get? "value" = some value → ∃ x, IsReading value x

/-- An innermost bucket has a number of documents, and its answers can be read. -/
structure IsReadable (metrics : List Metric) (bucket : Entries Json) : Prop where
  counted : ∃ count x, bucket.get? "doc_count" = some count ∧ IsReading count x
  answers : ∀ m ∈ metrics, m.kind ≠ .count → m.IsReadable bucket

/-- Where there is an aggregation of a bucketing it holds buckets, each with a key, and the innermost
buckets can be read. -/
def IsRegular (metrics : List Metric) : List Bucketing → Entries Json → Prop
  | [], bucket => IsReadable metrics bucket
  | b :: inner, fields => ∀ aggregation, fields.get? b.id = some aggregation →
    aggregation ≠ .null → ∃ buckets, HoldsBuckets aggregation buckets ∧
      ∀ bucket ∈ buckets, (∃ key, bucket.get? "key" = some key) ∧ IsRegular metrics inner bucket

/-! ## Reading a bucket -/

theorem keyIn_of_get? {bucket : Entries Json} {key : Json} (h : bucket.get? "key" = some key) :
    keyIn bucket = key := by
  rw [keyIn, h]
  rfl

theorem numberAt_of_isReading {bucket : Entries Json} {path : List String} {value : Json}
    {x : Option Binary64} (found : (Json.obj bucket).at? path = some value)
    (reading : IsReading value x) : numberAt path bucket = x := by
  rw [numberAt, found]
  cases reading <;> rfl

theorem isReading_numberAt {bucket : Entries Json} {path : List String}
    (h : ∀ value, (Json.obj bucket).at? path = some value → ∃ x, IsReading value x) :
    IsReading (((Json.obj bucket).at? path).getD .null) (numberAt path bucket) := by
  cases found : (Json.obj bucket).at? path with
  | none =>
    rw [numberAt, found]
    exact .null
  | some value =>
    obtain ⟨x, reading⟩ := h value found
    rwa [numberAt_of_isReading found reading]

section Bucket

variable {m : Metric} {bucket : Entries Json} (readable : m.IsReadable bucket)
include readable

theorem metricValue_of_isReadable (single : m.kind ≠ .percentiles) :
    ∃ value, metricValue m (.obj bucket) = .ok value ∧
      IsReading value (numberAt [m.id, "value"] bucket) := by
  have reading : IsReading (((Json.obj bucket).at? [m.id, "value"]).getD .null)
      (numberAt [m.id, "value"] bucket) := by
    refine isReading_numberAt fun value found => ?_
    rw [Json.at?_obj] at found
    obtain ⟨answer, here, inside⟩ := Option.bind_eq_some_iff.1 found
    obtain ⟨fields, rfl, readings⟩ := readable answer here
    rw [if_neg single] at readings
    exact readings value (by simpa using inside)
  refine ⟨_, ?_, reading⟩
  rw [metricValue, metricAnswer, Json.entryD_obj, Json.at?_obj]
  cases here : bucket.get? m.id with
  | none => rfl
  | some answer =>
    obtain ⟨fields, rfl, -⟩ := readable answer here
    show Json.entryD (.obj fields) "value" .null = _
    simp only [Json.entryD_obj, Option.bind_some, Json.at?_obj, Json.at?_nil,
      Option.bind_fun_some]

/-- The percentiles of a bucket are an object, empty if there are none. -/
theorem percentileValues_of_isReadable (several : m.kind = .percentiles) :
    ∃ values : Entries Json, percentileValues m (.obj bucket) = .ok (.obj values) ∧
      ((Json.obj bucket).at? [m.id, "values"] = some (.obj values) ∨
        (Json.obj bucket).at? [m.id, "values"] = none ∧ values = []) ∧
      ∀ value ∈ values, ∃ x, IsReading value.2 x := by
  rw [percentileValues, metricAnswer, Json.entryD_obj, Json.at?_obj]
  cases here : bucket.get? m.id with
  | none => exact ⟨[], rfl, .inr ⟨rfl, rfl⟩, by simp⟩
  | some answer =>
    obtain ⟨fields, rfl, readings⟩ := readable answer here
    rw [if_pos several] at readings
    show ∃ values : Entries Json, Json.entryD (.obj fields) "values" (.obj []) = _ ∧ _
    rw [Json.entryD_obj, Option.bind_some, Json.at?_obj]
    cases found : fields.get? "values" with
    | none => exact ⟨[], rfl, .inr ⟨rfl, rfl⟩, by simp⟩
    | some inside =>
      obtain ⟨values, rfl, each⟩ := readings inside found
      exact ⟨values, rfl, .inl (Json.at?_nil _), each⟩

theorem percentileValue_of_isReadable (several : m.kind = .percentiles) (percent : String) :
    ∃ value, percentileValue m (.str percent) (.obj bucket) = .ok value ∧
      IsReading value (numberAt [m.id, "values", percent] bucket) := by
  obtain ⟨values, read, path, readings⟩ := percentileValues_of_isReadable readable several
  have inside : (Json.obj bucket).at? [m.id, "values", percent] = values.get? percent := by
    rw [show [m.id, "values", percent] = [m.id, "values"] ++ [percent] from rfl, Json.at?_append]
    rcases path with found | ⟨none, rfl⟩
    · rw [found, Option.bind_some, Json.at?_obj]
      exact Option.bind_fun_some _
    · rw [none]
      rfl
  refine ⟨_, ?_, isReading_numberAt fun value found => ?_⟩
  · rw [percentileValue, read, inside]
    rfl
  · exact readings _ (Entries.mem_of_get? (inside ▸ found))

end Bucket

/-! ## The series of the innermost buckets -/

section Innermost

variable {m : Metric} {buckets : List (Entries Json)}

theorem percentages_of_readable (several : m.kind = .percentiles)
    (readable : ∀ bucket ∈ buckets, m.IsReadable bucket) :
    percentages m (.arr (buckets.map .obj)) = .ok ((percentsIn m buckets).map .str) := by
  cases buckets with
  | nil => rfl
  | cons bucket others =>
    obtain ⟨values, read, path, -⟩ :=
      percentileValues_of_isReadable (readable bucket (by simp)) several
    show (percentileValues m (.obj bucket) >>= Json.walk) = _
    rw [read, percentsIn, List.head?_cons, Option.bind_some]
    rcases path with found | ⟨none, rfl⟩
    · rw [found]
      show Except.ok (values.map _) = .ok ((values.map Prod.fst).map Json.str)
      rw [List.map_map]
      rfl
    · rw [none]
      rfl

theorem metricSeries_of_readable (q : PanelQuery) (labels : Entries String)
    {metrics : List Metric} (hm : m ∈ metrics) (readable : ∀ bucket ∈ buckets,
      (∃ key, bucket.get? "key" = some key) ∧ IsReadable metrics bucket) :
    q.metricSeries labels (.arr (buckets.map .obj)) m = .ok (q.seriesIn labels buckets m) := by
  have each : List.Forall₂ (fun fields bucket => fields = bucket ∧
      fields.get? "key" = some (keyIn bucket) ∧ IsReadable metrics bucket) buckets buckets := by
    refine List.forall₂_same.2 fun bucket hb => ⟨rfl, ?_, (readable bucket hb).2⟩
    obtain ⟨key, found⟩ := (readable bucket hb).1
    rw [found, keyIn_of_get? found]
  by_cases counted : m.kind = .count
  · rw [PanelQuery.seriesIn, if_pos counted]
    refine metricSeries_of_counts each counted ?_
    rintro bucket _ ⟨rfl, key, h⟩
    obtain ⟨count, x, found, reading⟩ := h.counted
    have entry : (Json.obj bucket).entry "doc_count" = .ok count := by rw [Json.entry, found]
    have path : (Json.obj bucket).at? ["doc_count"] = some count := by
      rw [Json.at?_obj, found]
      exact Json.at?_nil _
    exact ⟨key, count, entry, numberAt_of_isReading path reading ▸ reading⟩
  rw [PanelQuery.seriesIn, if_neg counted]
  by_cases several : m.kind = .percentiles
  · rw [if_pos several]
    have answers : ∀ bucket ∈ buckets, m.IsReadable bucket := fun bucket hb =>
      (readable bucket hb).2.answers m hm counted
    refine metricSeries_of_percentiles each several (percentages_of_readable several answers) ?_
    rintro percent - bucket _ ⟨rfl, key, h⟩
    exact ⟨key, percentileValue_of_isReadable (h.answers m hm counted) several percent⟩
  · rw [if_neg several]
    refine metricSeries_of_values each counted several ?_
    rintro bucket _ ⟨rfl, key, h⟩
    exact ⟨key, metricValue_of_isReadable (h.answers m hm counted) several⟩

end Innermost

/-! ## The series of all chains -/

theorem IsRegular.cases {metrics : List Metric} {b : Bucketing} {inner : List Bucketing}
    {fields : Entries Json} (h : IsRegular metrics (b :: inner) fields) :
    (fields.get? b.id).getD .null = .null ∨
      ∃ buckets aggregation, fields.get? b.id = some aggregation ∧
        HoldsBuckets aggregation buckets ∧ ∀ bucket ∈ buckets,
          (∃ key, bucket.get? "key" = some key) ∧ IsRegular metrics inner bucket := by
  cases found : fields.get? b.id with
  | none => exact .inl rfl
  | some aggregation =>
    by_cases absent : aggregation = .null
    · exact .inl absent
    · obtain ⟨buckets, holds, each⟩ := h aggregation found absent
      exact .inr ⟨buckets, aggregation, rfl, holds, each⟩

theorem not_chainAt {b : Bucketing} {inner : List Bucketing} {fields : Entries Json}
    (absent : (fields.get? b.id).getD .null = .null) (place : List ℕ) (chain : Chain) :
    ¬ ChainAt (b :: inner) fields place chain := by
  have none {aggregation : Json} {buckets : List (Entries Json)}
      (found : fields.get? b.id = some aggregation) (holds : HoldsBuckets aggregation buckets) :
      False := by
    obtain ⟨reply, rfl⟩ := holds.exists_obj
    rw [found] at absent
    cases absent
  intro h
  cases h with
  | last found holds => exact none found holds
  | more found holds => exact none found holds

theorem enumerates_last {b : Bucketing} {fields : Entries Json} {aggregation : Json}
    {buckets : List (Entries Json)} (found : fields.get? b.id = some aggregation)
    (holds : HoldsBuckets aggregation buckets) :
    Enumerates (· < ·) (ChainAt [b] fields) [⟨[], buckets⟩] := by
  refine .single (i := []) fun place chain => ⟨fun h => ?_, ?_⟩
  · cases h with
    | last found' holds' =>
      obtain rfl := Option.some.inj (found.symm.trans found')
      exact ⟨rfl, by rw [holds.unique holds']⟩
  · rintro ⟨rfl, rfl⟩
    exact .last found holds

theorem enumerates_more {b c : Bucketing} {rest : List Bucketing} {fields : Entries Json}
    {aggregation : Json} {buckets : List (Entries Json)} {inner : Entries Json → List Chain}
    (found : fields.get? b.id = some aggregation) (holds : HoldsBuckets aggregation buckets)
    (each : ∀ bucket ∈ buckets, Enumerates (· < ·) (ChainAt (c :: rest) bucket) (inner bucket)) :
    Enumerates (· < ·) (ChainAt (b :: c :: rest) fields)
      (buckets.flatMap fun bucket => (inner bucket).map (Chain.within bucket)) := by
  refine (Enumerates.flatMap fun bucket hb => (each bucket hb).map (Chain.within bucket)).rename
    (fun p => p.1 :: p.2) ?_ fun place chain => ⟨fun h => ?_, ?_⟩
  · rintro ⟨i, place⟩ ⟨j, place'⟩ order
    cases order with
    | left _ _ sooner => exact .rel sooner
    | right _ sooner => exact .cons sooner
  · cases h with
    | more found' holds' atBucket onward =>
      obtain rfl := Option.some.inj (found.symm.trans found')
      obtain rfl := holds.unique holds'
      exact ⟨(_, _), rfl, _, atBucket, _, onward, rfl⟩
  · rintro ⟨⟨i, place⟩, rfl, bucket, atBucket, chain, onward, rfl⟩
    exact .more found holds atBucket onward

theorem seriesBelow_absent (q : PanelQuery) {b : Bucketing} {fields : Entries Json}
    (absent : (fields.get? b.id).getD .null = .null) (labels : Entries String)
    (inner : List Bucketing) : q.seriesBelow (.obj fields) labels (b :: inner) = .ok [] := by
  rw [PanelQuery.seriesBelow, Json.entry?]
  refine Outcome.bind_eq_ok.2 ⟨_, rfl, ?_⟩
  rw [absent]
  rfl

/-- A query gets the series of all chains, in order. -/
theorem seriesBelow_of_regular (q : PanelQuery) {b : Bucketing} {inner : List Bucketing}
    {fields : Entries Json} (regular : IsRegular q.visibleMetrics (b :: inner) fields) :
    ∃ chains, Enumerates (· < ·) (ChainAt (b :: inner) fields) chains ∧
      ∀ labels : Entries String, q.seriesBelow (.obj fields) labels (b :: inner) =
        .ok (chains.flatMap fun chain => q.visibleMetrics.flatMap
          (q.seriesIn (labels.putAll (chain.labels (b :: inner))) chain.innermost)) := by
  induction inner generalizing b fields with
  | nil =>
    obtain absent | ⟨buckets, aggregation, found, holds, each⟩ := regular.cases
    · exact ⟨[], .nil (not_chainAt absent), fun labels => seriesBelow_absent q absent labels []⟩
    obtain ⟨reply, rfl⟩ := holds.exists_obj
    refine ⟨_, enumerates_last found holds, fun labels => ?_⟩
    rw [seriesBelow_last found holds.bucketList_eq fun m hm =>
      metricSeries_of_readable q labels hm each]
    simp [Chain.labels, Entries.putAll]
  | cons c rest ih =>
    obtain absent | ⟨buckets, aggregation, found, holds, each⟩ := regular.cases
    · exact ⟨[], .nil (not_chainAt absent), fun labels => seriesBelow_absent q absent labels _⟩
    obtain ⟨reply, rfl⟩ := holds.exists_obj
    choose! inner enumerates series using fun bucket hb => ih (each bucket hb).2
    refine ⟨_, enumerates_more found holds enumerates, fun labels => ?_⟩
    have all : List.Forall₂ (fun fields bucket => fields = bucket ∧ bucket ∈ buckets)
        buckets buckets := List.forall₂_same.2 fun bucket hb => ⟨rfl, hb⟩
    have labelled (fields bucket : Entries Json) (h : fields = bucket ∧ bucket ∈ buckets) :
        bucketLabel (.obj fields) = .ok (labelOf (keyIn bucket) bucket) := by
      obtain ⟨rfl, hb⟩ := h
      obtain ⟨key, has⟩ := (each fields hb).1
      rw [bucketLabel_of_key has, keyIn_of_get? has]
    rw [seriesBelow_more found holds.bucketList_eq c rest all labelled fun fields bucket h => by
      obtain ⟨rfl, hb⟩ := h
      exact series fields hb _]
    rw [List.flatMap_assoc]
    simp only [List.flatMap_map]
    rfl

/-! ## Names -/

/-- Without an alias a name is made of the labels, followed by the name of the metric unless the
labels name a count that is shown by itself. -/
theorem seriesName_plain {q : PanelQuery} (plain : q.aliasPattern.getD "" = "")
    (labels : Entries String) (m : Metric) (visible : ℕ) (title : String) :
    q.seriesName m labels visible title = String.intercalate " " (labels.values ++
      if labels = [] ∨ 1 < visible ∨ m.kind ≠ .count then [title] else []) := by
  have none : q.aliasPattern.filter (!·.isEmpty) = none := by
    cases found : q.aliasPattern with
    | none => rfl
    | some pattern =>
      rw [found] at plain
      simp [show pattern = "" from plain]
  rw [PanelQuery.seriesName, none]
  cases labels with
  | nil => simp [Entries.values]
  | cons label labels =>
    have some_ : Entries.values (label :: labels) ≠ [] := by simp [Entries.values]
    show (if 1 < visible ∨ m.kind ≠ .count then
      " ".intercalate (Entries.values (label :: labels)) ++ " " ++ title
      else " ".intercalate (Entries.values (label :: labels))) = _
    by_cases titled : 1 < visible ∨ m.kind ≠ .count
    · rw [if_pos titled, if_pos (.inr titled),
        String.intercalate_append_of_ne_nil some_ (List.cons_ne_nil _ _),
        String.intercalate_singleton]
    · have none : ¬ (label :: labels = [] ∨ 1 < visible ∨ m.kind ≠ .count) := by
        simpa only [reduceCtorEq, false_or] using titled
      rw [if_neg titled, if_neg none, List.append_nil]

/-- The labels by which the series along a chain are named, and how they name them. -/
structure Chain.IsNamed (q : PanelQuery) (chain : Chain) : Prop where
  /-- There is one label for each name of a bucketing. -/
  once : (Entries.ofPairs (chain.labels q.buckets)).keys.Nodup
  /-- Of several labels under one name the innermost stays. -/
  innermost : ∀ field, (Entries.ofPairs (chain.labels q.buckets)).get? field =
    (((chain.labels q.buckets).filter (·.1 == field)).getLast?).map Prod.snd
  /-- Without an alias a name is made of the labels, followed by the name of the metric unless the
  labels name a count that is shown by itself. -/
  plain : q.aliasPattern.getD "" = "" → ∀ (m : Metric) (title : String),
    q.seriesName m (.ofPairs (chain.labels q.buckets)) q.visibleMetrics.length title =
      String.intercalate " " ((Entries.ofPairs (chain.labels q.buckets)).values ++
        if Entries.ofPairs (chain.labels q.buckets) = [] ∨ 1 < q.visibleMetrics.length ∨
          m.kind ≠ .count then [title] else [])

/-- From a regular reply a query gets the series along all chains of buckets through its bucketings,
in the order of their places and nothing else, and each chain names its series by itself. -/
theorem results_of_regular {q : PanelQuery} (computed : q.isRawDocument = false)
    (grouped : q.buckets ≠ []) {slot aggregations : Entries Json}
    (noError : ∀ error, slot.get? "error" = some error → error.truthy = false)
    (found : (slot.get? "aggregations").getD (.obj []) = .obj aggregations)
    (regular : IsRegular q.visibleMetrics q.buckets aggregations)
    {reply : Entries Json} {others : List Json}
    (slots : reply.get? "responses" = some (.arr (.obj slot :: others))) :
    ∃ chains, Enumerates (· < ·) (ChainAt q.buckets aggregations) chains ∧
      results [q] (.obj reply) = .ok ((chains.flatMap (Chain.series q)).map .series) ∧
      ∀ chain ∈ chains, chain.IsNamed q := by
  obtain ⟨b, inner, eq⟩ := List.exists_cons_of_ne_nil grouped
  obtain ⟨chains, enumerates, series⟩ := seriesBelow_of_regular q (eq ▸ regular)
  rw [← eq] at enumerates series
  refine ⟨chains, enumerates, ?_, fun chain _ => ?_⟩
  · rw [results_single slots, answer_eq noError, computed, found, series]
    rfl
  · exact ⟨(Entries.ofPairs_spec _).1, Entries.get?_ofPairs _,
      fun plain m => seriesName_plain plain _ m _⟩

theorem noError_of_aggregations (aggregations : Json) (error : Json)
    (h : Entries.get? [("aggregations", aggregations)] "error" = some error) :
    error.truthy = false := by
  cases h

/-- Errors over time beside other buckets: one without the aggregation over time, and one with a
bucket in which no metric has an answer. -/
def unevenErrors : Entries Json :=
  [("3", .obj [("buckets", .obj [
    ("errors", .obj [("doc_count", .int 3), ("2", .obj [("buckets",
      .arr [.obj (errorsAt 1000 2 40 (.int 30)), .obj (errorsAt 2000 1 50 .null)])])]),
    ("warnings", .obj [("doc_count", .int 0)]),
    ("others", .obj [("doc_count", .int 1), ("2", .obj [("buckets",
      .arr [.obj [("key", .int 1000), ("doc_count", .int 1)]])])])])])]

theorem visibleMetrics_errorsOverTime :
    errorsOverTime.visibleMetrics = [.default, meanLatency, medianLatency] := rfl

theorem errorsAt_readable (time count mean : ℤ) {median : Json} {x : Option Binary64}
    (counted : (Binary64.ofInt count).isFinite = true)
    (inRange : (Binary64.ofInt mean).isFinite = true) (reading : IsReading median x) :
    IsReadable errorsOverTime.visibleMetrics (errorsAt time count mean median) where
  counted := ⟨_, _, rfl, .int counted⟩
  answers := by
    have means : meanLatency.IsReadable (errorsAt time count mean median) := by
      intro answer found
      cases found
      refine ⟨_, rfl, fun value found => ?_⟩
      cases found
      exact ⟨_, .int inRange⟩
    have medians : medianLatency.IsReadable (errorsAt time count mean median) := by
      intro answer found
      cases found
      refine ⟨_, rfl, fun value found => ?_⟩
      cases found
      exact ⟨_, rfl, by simpa using ⟨x, reading⟩⟩
    rw [visibleMetrics_errorsOverTime]
    simpa [Metric.default] using ⟨fun _ => means, fun _ => medians⟩

theorem unevenErrors_regular :
    IsRegular errorsOverTime.visibleMetrics errorsOverTime.buckets unevenErrors := by
  -- below each of the three keyed buckets
  have errors : IsRegular errorsOverTime.visibleMetrics [.default]
      [("doc_count", .int 3), ("2", .obj [("buckets",
        .arr [.obj (errorsAt 1000 2 40 (.int 30)), .obj (errorsAt 2000 1 50 .null)])]),
        ("key", .str "errors")] := by
    intro aggregation found _
    cases found
    refine ⟨[errorsAt 1000 2 40 (.int 30), errorsAt 2000 1 50 .null], .listed rfl, ?_⟩
    have median : IsReading (.int 30) (some (.ofInt 30)) := .int (by decide)
    have first := errorsAt_readable 1000 2 40 (by decide) (by decide) median
    have second := errorsAt_readable 2000 1 50 (by decide) (by decide) .null
    simpa using ⟨⟨⟨_, rfl⟩, first⟩, ⟨_, rfl⟩, second⟩
  intro aggregation found _
  cases found
  refine ⟨_, @HoldsBuckets.keyed _ [("errors", _), ("warnings", _), ("others", _)] rfl, ?_⟩
  simp only [List.map_cons, List.map_nil, List.forall_mem_cons, List.not_mem_nil, false_implies,
    implies_true, and_true]
  refine ⟨⟨⟨_, rfl⟩, errors⟩, ⟨⟨_, rfl⟩, ?_⟩, ⟨_, rfl⟩, ?_⟩
  · intro aggregation found
    cases found
  · intro aggregation found _
    cases found
    refine ⟨[[("key", .int 1000), ("doc_count", .int 1)]], .listed rfl, ?_⟩
    refine List.forall_mem_singleton.2 ⟨⟨_, rfl⟩, ⟨_, _, rfl, .int (by decide)⟩, ?_⟩
    intro m hm asked answer found
    obtain rfl | rfl | rfl : m = .default ∨ m = meanLatency ∨ m = medianLatency := by
      simpa [visibleMetrics_errorsOverTime] using hm
    · exact absurd rfl asked
    · cases found
    · cases found

theorem unevenErrors_results :
    errorsOverTime.isRawDocument = false ∧ errorsOverTime.buckets ≠ [] ∧
      IsRegular errorsOverTime.visibleMetrics errorsOverTime.buckets unevenErrors ∧
      (∃ chains, Enumerates (· < ·) (ChainAt errorsOverTime.buckets unevenErrors) chains ∧
        results [errorsOverTime]
            (.obj [("responses", .arr [.obj [("aggregations", .obj unevenErrors)]])]) =
          .ok ((chains.flatMap (Chain.series errorsOverTime)).map .series) ∧
        ∀ chain ∈ chains, chain.IsNamed errorsOverTime) ∧
      results [errorsOverTime]
          (.obj [("responses", .arr [.obj [("aggregations", .obj unevenErrors)]])]) =
        .ok [.series ⟨"errors Count", "A",
            [(some (.ofInt 2), .int 1000), (some (.ofInt 1), .int 2000)]⟩,
          .series ⟨"errors Average latency", "A",
            [(some (.ofInt 40), .int 1000), (some (.ofInt 50), .int 2000)]⟩,
          .series ⟨"errors p50.0 latency", "A",
            [(some (.ofInt 30), .int 1000), (none, .int 2000)]⟩,
          .series ⟨"others Count", "A", [(some (.ofInt 1), .int 1000)]⟩,
          .series ⟨"others Average latency", "A", [(none, .int 1000)]⟩] := by
  have noError := noError_of_aggregations (.obj unevenErrors)
  exact ⟨rfl, by decide, unevenErrors_regular,
    results_of_regular rfl (by decide) noError rfl unevenErrors_regular rfl, rfl⟩

/-- A query for the number of documents over time. -/
def countOverTime : PanelQuery :=
  ⟨"A", none, false, none, none, "@timestamp", [.default], [.default]⟩

/-- One bucket, with the given number of documents. -/
def bucketOf (n : ℤ) : Entries Json := [("key", .int 1000), ("doc_count", .int n)]

/-- The aggregations of a slot with one bucket over time. -/
def bucketsOf (n : ℤ) : Entries Json := [("2", .obj [("buckets", .arr [.obj (bucketOf n)])])]

/-- The fault of a series whose first datapoint has no number of a series. -/
def noSeriesNumber : Fault :=
  .invalid "TimeSeries" [⟨[.name "datapoints", .index 0, .index 0], .notFloat⟩]

theorem series_of_overflow {n : ℤ} (large : (Binary64.ofInt n).isFinite = false) (q : PanelQuery)
    (target : String) (key : Json) : q.series target [(.int n, key)] = .error noSeriesNumber := by
  have float : Check.nullable Check.float (.int n) = .fail .notFloat := by
    rw [Check.nullable, Check.float]
    · simp only [large, Bool.false_eq_true, if_false]
      rfl
    · exact fun h => by cases h
  rw [PanelQuery.series, Checked.items, TimeSeries.checkPoint, float]
  rfl

/-- A whole number that is too large for a series ends the query. -/
theorem results_of_overflow {n : ℤ} (large : (Binary64.ofInt n).isFinite = false) :
    results [countOverTime]
        (.obj [("responses", .arr [.obj [("aggregations", .obj (bucketsOf n))]])]) =
      .error noSeriesNumber := by
  have metric : countOverTime.metricSeries [] (.arr [.obj (bucketOf n)]) .default =
      .error noSeriesNumber :=
    Outcome.bind_eq_error.2 (.inr ⟨[(.int n, .int 1000)], rfl,
      Outcome.bind_eq_error.2 (.inl (series_of_overflow large _ _ _))⟩)
  have below : countOverTime.seriesBelow (.obj (bucketsOf n)) [] [.default] =
      .error noSeriesNumber := by
    rw [PanelQuery.seriesBelow]
    refine Outcome.bind_eq_error.2 (.inr ⟨_, rfl, ?_⟩)
    refine Outcome.bind_eq_error.2 (.inr ⟨.arr [.obj (bucketOf n)], rfl, ?_⟩)
    refine Outcome.bind_eq_error.2 (.inl ?_)
    show List.mapM (countOverTime.metricSeries [] (.arr [.obj (bucketOf n)])) [.default] = _
    rw [List.mapM_cons, metric]
    rfl
  rw [results_single rfl, answer_eq (noError_of_aggregations _)]
  show (countOverTime.seriesBelow (.obj (bucketsOf n)) [] [.default]).map _ = _
  rw [below]
  rfl

/-- There is a chain, but no series along it. -/
theorem countless_refused :
    ChainAt countOverTime.buckets (bucketsOf (10 ^ 400)) [] ⟨[], [bucketOf (10 ^ 400)]⟩ ∧
      results [countOverTime]
          (.obj [("responses", .arr [.obj [("aggregations", .obj (bucketsOf (10 ^ 400)))]])]) =
        .error noSeriesNumber :=
  ⟨.last rfl (.listed rfl), results_of_overflow (by decide +kernel)⟩

end ElasticPanels

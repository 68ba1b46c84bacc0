import ElasticPanels.Proofs.Checks
import ElasticPanels.Proofs.SearchBodies
import ElasticPanels.Result.Reply

/-!
# Slots that answer a body

`Answers` says what it is for a reply to answer the aggregations of a body, each under its name, and
`SlotAnswer` is what it then says: the number of a metric with the aggregation it was asked for, or
the buckets of a bucketing with the answers nested in each.  The path of labels to each innermost
list of buckets is in `paths`.  A query reads its slot by the names under which it wrote its body,
so it finds the answer to each of its metrics in each of the innermost buckets
(`results_of_answers`).
-/

namespace ElasticPanels

open Search (aggregationEntries metricAggregations nest nest_cons_eq_ok)

/-! ## What a reply says -/

/-- A number or null, as a series holds it. -/
inductive IsReading : Json → Option Binary64 → Prop
  | null : IsReading .null none
  | float (x : Binary64) : IsReading (.float x) (some x)
  | int {n : ℤ} (inRange : (Binary64.ofInt n).isFinite = true) :
      IsReading (.int n) (some (.ofInt n))

mutual

/-- What a reply says to an aggregation. -/
inductive SlotAnswer
  | value (aggregation : Json) (x : Option Binary64)
  | percents (aggregation : Json) (values : List (String × Option Binary64))
  | buckets (members : List Bucket)

/-- A bucket with its key, its label, its number of documents and the answers in it, by name. -/
inductive Bucket
  | mk (key : Json) (label : String) (count : Binary64) (answers : List (String × SlotAnswer))

end

namespace Bucket

/-- The key of a bucket. -/
def key : Bucket → Json
  | mk key _ _ _ => key

/-- The label of a bucket. -/
def label : Bucket → String
  | mk _ label _ _ => label

/-- The number of documents in a bucket. -/
def count : Bucket → Binary64
  | mk _ _ count _ => count

/-- The answers in a bucket. -/
def answers : Bucket → Entries SlotAnswer
  | mk _ _ _ answers => answers

/-- The number that stands under a name. -/
def value (b : Bucket) (name : String) : Option Binary64 :=
  match b.answers.get? name with
  | some (.value _ x) => x
  | _ => none

/-- The percentiles that stand under a name, by percentage. -/
def percents (b : Bucket) (name : String) : Entries (Option Binary64) :=
  match b.answers.get? name with
  | some (.percents _ values) => values
  | _ => []

/-- One of the percentiles that stand under a name. -/
def percent (b : Bucket) (name percentage : String) : Option Binary64 :=
  ((b.percents name).get? percentage).getD none

/-- The lists of buckets that are nested in a bucket. -/
def nested (b : Bucket) : List (List Bucket) :=
  b.answers.filterMap fun
    | (_, .buckets members) => some members
    | _ => none

end Bucket

/-- Each list of buckets `depth` levels further in, with the labels of the buckets it lies in. -/
def paths : ℕ → List Bucket → List (List String × List Bucket)
  | 0, buckets => [([], buckets)]
  | depth + 1, buckets => buckets.flatMap fun b =>
    (b.nested.flatMap (paths depth)).map fun path => (b.label :: path.1, path.2)

/-- The percentages that the first bucket has under a name. -/
def percentNames (name : String) : List Bucket → List String
  | [] => []
  | b :: _ => (b.percents name).keys

/-- The aggregation of a metric in a body. -/
def Metric.aggregation (m : Metric) : Json := .obj [(m.kind.name, m.parameters)]

/-- The name of the labels that the buckets of a bucketing give. -/
def Bucketing.labelField (b : Bucketing) : String :=
  (b.field.filter (!·.isEmpty)).getD b.kind.name

/-- Each bucket has the answer to the aggregation of the metric. -/
def Metric.IsAnswered (m : Metric) (buckets : List Bucket) : Prop :=
  ∀ b ∈ buckets,
    if m.kind = .percentiles then
      (∃ values, b.answers.get? m.id = some (.percents m.aggregation values)) ∧
        ∀ name ∈ percentNames m.id buckets, ∃ x, (b.percents m.id).get? name = some x
    else ∃ x, b.answers.get? m.id = some (.value m.aggregation x)

/-- The series of a metric over some buckets: the answers to its aggregation, or the numbers of
documents, each beside the key of its bucket. -/
def PanelQuery.seriesOver (q : PanelQuery) (labels : Entries String) (buckets : List Bucket)
    (m : Metric) : List TimeSeries :=
  let name (title : String) : String := q.seriesName m labels q.visibleMetrics.length title
  if m.kind = .count then
    [⟨name m.title, q.refId, buckets.map fun b => (some b.count, b.key)⟩]
  else if m.kind = .percentiles then
    (percentNames m.id buckets).map fun percentage =>
      ⟨name (m.percentileTitle percentage), q.refId,
        buckets.map fun b => (b.percent m.id percentage, b.key)⟩
  else [⟨name m.title, q.refId, buckets.map fun b => (b.value m.id, b.key)⟩]

/-- The series of the shown metrics over one of the `paths`, where `labels` are those of the buckets
further out. -/
def PanelQuery.seriesAlong (q : PanelQuery) (labels : Entries String) (bucketings : List Bucketing)
    (path : List String × List Bucket) : List TimeSeries :=
  q.visibleMetrics.flatMap <|
    q.seriesOver (labels.putAll ((bucketings.map Bucketing.labelField).zip path.1)) path.2

/-! ## What answers an aggregation -/

/-- The wire names of bucketings. -/
def bucketNames : List String := BucketKind.all.map BucketKind.name

/-- The label of a bucket: its key as the engine words it, else the key itself. -/
def labelOf (key : Json) (fields : Entries Json) : String :=
  match fields.get? "key_as_string" with
  | some worded => if worded.truthy then worded.plain else key.plain
  | none => key.plain

/-- The buckets of a reply with their keys: listed with their keys in them, or keyed. -/
inductive IsMembers : Json → List (Json × Entries Json) → Prop
  | listed {members : List (Json × Entries Json)}
      (keys : ∀ member ∈ members, member.2.get? "key" = some member.1) :
      IsMembers (.arr (members.map fun member => .obj member.2)) members
  | keyed (members : List (String × Entries Json)) :
      IsMembers (.obj (members.map fun member => (member.1, .obj member.2)))
        (members.map fun member => (.str member.1, member.2))

/-- All buckets of a list have the same percentages. -/
def SamePercents (buckets : List Bucket) : Prop :=
  ∀ b ∈ buckets, ∀ c ∈ buckets, ∀ name percentage,
    percentage ∈ (b.percents name).keys → percentage ∈ (c.percents name).keys

mutual

/-- A reply answers an aggregation. -/
inductive Answers : Json → Json → SlotAnswer → Prop
  | value {kind : String} {parameters v : Json} {reply : Entries Json} {x : Option Binary64}
      (metric : kind ∉ bucketNames) (single : kind ≠ "percentiles")
      (found : reply.get? "value" = some v) (reading : IsReading v x) :
      Answers (.obj [(kind, parameters)]) (.obj reply) (.value (.obj [(kind, parameters)]) x)
  | percents {parameters : Json} {reply values : Entries Json} {xs : Entries (Option Binary64)}
      (found : reply.get? "values" = some (.obj values))
      (readings : List.Forall₂ (fun v x => v.1 = x.1 ∧ IsReading v.2 x.2) values xs) :
      Answers (.obj [("percentiles", parameters)]) (.obj reply)
        (.percents (.obj [("percentiles", parameters)]) xs)
  | buckets {kind : String} {parameters listing : Json} {below nested reply : Entries Json}
      {members : List (Json × Entries Json)} {buckets : List Bucket}
      (bucketing : kind ∈ bucketNames) (nests : below = aggregationEntries nested)
      (found : reply.get? "buckets" = some listing) (isMembers : IsMembers listing members)
      (each : AnswersBuckets nested members buckets) (same : SamePercents buckets) :
      Answers (.obj ((kind, parameters) :: below)) (.obj reply) (.buckets buckets)

/-- Each bucket has a number of documents and answers the nested aggregations. -/
inductive AnswersBuckets : Entries Json → List (Json × Entries Json) → List Bucket → Prop
  | nil {nested : Entries Json} : AnswersBuckets nested [] []
  | cons {nested fields : Entries Json} {key c : Json} {count : Binary64}
      {answers : Entries SlotAnswer} {members : List (Json × Entries Json)} {buckets : List Bucket}
      (counted : fields.get? "doc_count" = some c) (reading : IsReading c (some count))
      (inside : AnswersAll nested fields answers) (rest : AnswersBuckets nested members buckets) :
      AnswersBuckets nested ((key, fields) :: members)
        (.mk key (labelOf key fields) count answers :: buckets)

/-- The fields answer each aggregation under its name. -/
inductive AnswersAll : Entries Json → Entries Json → Entries SlotAnswer → Prop
  | nil {fields : Entries Json} : AnswersAll [] fields []
  | cons {name : String} {aggregation reply : Json} {aggregations fields : Entries Json}
      {answer : SlotAnswer} {answers : Entries SlotAnswer}
      (found : fields.get? name = some reply) (here : Answers aggregation reply answer)
      (others : AnswersAll aggregations fields answers) :
      AnswersAll ((name, aggregation) :: aggregations) fields ((name, answer) :: answers)

end

/-! ## Looking answers up -/

/-- Under the same keys stand things that are in the same relation. -/
theorem Entries.get?_of_forall₂ {α β : Type} {R : α → β → Prop} {as : Entries α} {bs : Entries β}
    (h : List.Forall₂ (fun a b => a.1 = b.1 ∧ R a.2 b.2) as bs) (key : String) :
    (as.get? key = none ∧ bs.get? key = none) ∨
      ∃ a b, as.get? key = some a ∧ bs.get? key = some b ∧ R a b := by
  induction h with
  | nil => exact .inl ⟨rfl, rfl⟩
  | @cons a b as bs here _ ih =>
    obtain ⟨k, x⟩ := a
    obtain ⟨k', y⟩ := b
    obtain ⟨same, related⟩ := here
    dsimp only at same related
    subst same
    rw [Entries.get?_cons, Entries.get?_cons]
    by_cases h : key = k
    · exact .inr ⟨x, y, by rw [if_pos h], by rw [if_pos h], related⟩
    · rwa [if_neg h, if_neg h]

theorem AnswersAll.get? {aggregations fields : Entries Json} {answers : Entries SlotAnswer}
    (h : AnswersAll aggregations fields answers) {name : String} {aggregation : Json}
    (asked : aggregations.get? name = some aggregation) :
    ∃ reply answer, fields.get? name = some reply ∧ Answers aggregation reply answer ∧
      answers.get? name = some answer := by
  induction aggregations generalizing answers with
  | nil => simp at asked
  | cons first rest ih =>
    cases h with
    | @cons k spec reply _ _ answer answers found here others =>
      rw [Entries.get?_cons] at asked ⊢
      by_cases same : name = k
      · obtain rfl := Option.some.inj ((if_pos same).symm.trans asked)
        exact ⟨reply, answer, same ▸ found, here, if_pos same⟩
      · rw [if_neg same] at asked ⊢
        exact ih others asked

/-- Fields of other names do not matter. -/
theorem AnswersAll.put {aggregations fields : Entries Json} {answers : Entries SlotAnswer}
    (h : AnswersAll aggregations fields answers) {key : String}
    (other : ∀ aggregation ∈ aggregations, aggregation.1 ≠ key) (value : Json) :
    AnswersAll aggregations (fields.put key value) answers := by
  induction aggregations generalizing answers with
  | nil =>
    cases h
    exact .nil
  | cons first rest ih =>
    cases h with
    | @cons name aggregation _ _ _ _ _ found here others =>
      have ne : name ≠ key := other (name, aggregation) (by simp)
      refine .cons ((Entries.get?_put_of_ne _ _ ne).trans found) here ?_
      exact ih others fun aggregation ha => other aggregation (by simp [ha])

theorem labelOf_put (key : Json) (fields : Entries Json) (value : Json) :
    labelOf key (fields.put "key" value) = labelOf key fields := by
  rw [labelOf, Entries.get?_put_of_ne _ _ (by decide), labelOf]

/-- What is known of a bucket and its fields. -/
structure IsBucket (nested : Entries Json) (member : Json × Entries Json) (b : Bucket) : Prop where
  key : b.key = member.1
  label : b.label = labelOf member.1 member.2
  count : ∃ c, member.2.get? "doc_count" = some c ∧ IsReading c (some b.count)
  answers : AnswersAll nested member.2 b.answers

theorem AnswersBuckets.forall₂ {nested : Entries Json} {members : List (Json × Entries Json)}
    {buckets : List Bucket} (h : AnswersBuckets nested members buckets) :
    List.Forall₂ (IsBucket nested) members buckets := by
  induction members generalizing buckets with
  | nil =>
    cases h
    exact .nil
  | cons member members ih =>
    cases h with
    | cons counted reading inside rest =>
      exact .cons ⟨rfl, rfl, ⟨_, counted, reading⟩, inside⟩ (ih rest)

/-- What is known of a bucket in a list, where its key is one of its fields. -/
structure IsListed (nested : Entries Json) (fields : Entries Json) (b : Bucket) : Prop where
  key : fields.get? "key" = some b.key
  label : b.label = labelOf b.key fields
  count : ∃ c, fields.get? "doc_count" = some c ∧ IsReading c (some b.count)
  answers : AnswersAll nested fields b.answers

theorem IsBucket.isListed {nested : Entries Json} {member : Json × Entries Json} {b : Bucket}
    (h : IsBucket nested member b) (key : member.2.get? "key" = some member.1) :
    IsListed nested member.2 b :=
  ⟨h.key ▸ key, h.key ▸ h.label, h.count, h.answers⟩

theorem IsBucket.isListed_put {nested : Entries Json} {name : String} {fields : Entries Json}
    {b : Bucket} (h : IsBucket nested (.str name, fields) b)
    (other : ∀ aggregation ∈ nested, aggregation.1 ≠ "key") :
    IsListed nested (fields.put "key" (.str name)) b where
  key := (Entries.get?_put_self _ _ _).trans (by rw [h.key])
  label := h.label.trans (by rw [labelOf_put, h.key])
  count := by
    obtain ⟨c, found, reading⟩ := h.count
    exact ⟨c, (Entries.get?_put_of_ne _ _ (by decide)).trans found, reading⟩
  answers := h.answers.put other _

/-- The buckets in an aggregation of a reply: those of a list, or those of an object, which get
their names as their keys. -/
inductive HoldsBuckets : Json → List (Entries Json) → Prop
  | listed {reply : Entries Json} {buckets : List (Entries Json)}
      (found : reply.get? "buckets" = some (.arr (buckets.map .obj))) :
      HoldsBuckets (.obj reply) buckets
  | keyed {reply : Entries Json} {named : List (String × Entries Json)}
      (found : reply.get? "buckets" =
        some (.obj (named.map fun bucket => (bucket.1, .obj bucket.2)))) :
      HoldsBuckets (.obj reply) (named.map fun bucket => bucket.2.put "key" (.str bucket.1))

theorem HoldsBuckets.bucketList_eq {aggregation : Json} {buckets : List (Entries Json)}
    (h : HoldsBuckets aggregation buckets) :
    bucketList aggregation = .ok (.arr (buckets.map .obj)) := by
  cases h with
  | listed found =>
    rw [bucketList, Json.entryD_obj, found]
    rfl
  | keyed found =>
    rw [bucketList, Json.entryD_obj, found, List.map_map]
    refine Outcome.bind_eq_ok.2 ⟨_, rfl, Outcome.bind_eq_ok.2 ⟨_, ?_, rfl⟩⟩
    apply Outcome.mapM_of_forall₂
    apply List.forall₂_map_left_iff.2
    exact List.forall₂_same.2 fun bucket _ => rfl

theorem HoldsBuckets.unique {aggregation : Json} {buckets others : List (Entries Json)}
    (h : HoldsBuckets aggregation buckets) (h' : HoldsBuckets aggregation others) :
    buckets = others := by
  have same := Except.ok.inj (h.bucketList_eq.symm.trans h'.bucketList_eq)
  exact List.map_injective_iff.2 (fun _ _ => Json.obj.inj) (Json.arr.inj same)

theorem HoldsBuckets.exists_obj {aggregation : Json} {buckets : List (Entries Json)}
    (h : HoldsBuckets aggregation buckets) : ∃ reply, aggregation = .obj reply := by
  cases h <;> exact ⟨_, rfl⟩

/-- The buckets of a reply become a list of buckets with their keys in them. -/
theorem bucketList_of_members {nested reply : Entries Json} {listing : Json}
    {members : List (Json × Entries Json)} {buckets : List Bucket}
    (found : reply.get? "buckets" = some listing) (isMembers : IsMembers listing members)
    (each : List.Forall₂ (IsBucket nested) members buckets)
    (other : ∀ aggregation ∈ nested, aggregation.1 ≠ "key") :
    ∃ listed : List (Entries Json), bucketList (.obj reply) = .ok (.arr (listed.map .obj)) ∧
      List.Forall₂ (IsListed nested) listed buckets := by
  cases isMembers with
  | listed keys =>
    have same : members.map (fun member => Json.obj member.2) =
        (members.map Prod.snd).map .obj := by
      rw [List.map_map]
      rfl
    rw [same] at found
    refine ⟨members.map Prod.snd, (HoldsBuckets.listed found).bucketList_eq,
      List.forall₂_map_left_iff.2 ?_⟩
    exact ((List.forall₂_and_left _ _).2 ⟨keys, each⟩).imp fun member b h => h.2.isListed h.1
  | keyed members =>
    rw [List.forall₂_map_left_iff] at each
    refine ⟨_, (HoldsBuckets.keyed found).bucketList_eq, List.forall₂_map_left_iff.2 ?_⟩
    exact each.imp fun member b h => h.isListed_put other

/-! ## Series of readings -/

theorem nullable_of_isReading {v : Json} {x : Option Binary64} (h : IsReading v x) :
    Check.nullable Check.float v = .ok x := by
  cases h with
  | null => rfl
  | float x => rfl
  | int inRange =>
    rw [Check.nullable, Check.float, if_pos inRange]
    · rfl
    · exact fun h => by cases h

/-- Datapoints of numbers and nulls pass their checks. -/
theorem items_of_readings {points : List (Json × Json)} {expected : List (Option Binary64 × Json)}
    (h : List.Forall₂ (fun point x => IsReading point.1 x.1 ∧ point.2 = x.2) points expected)
    (start : ℕ) :
    Checked.items (fun point => TimeSeries.checkPoint point.1 point.2) start points =
      .ok expected := by
  refine Checked.items_eq_ok.2 (h.imp fun point x here => ?_)
  rw [TimeSeries.checkPoint, nullable_of_isReading here.1, here.2]
  rfl

/-- In a bucket, with its key, a number or null is read. -/
def ReadsNumber (value : Json → Outcome Json) (fields : Entries Json) (key : Json)
    (x : Option Binary64) : Prop :=
  fields.get? "key" = some key ∧ ∃ v, value (.obj fields) = .ok v ∧ IsReading v x

section Readings

variable {q : PanelQuery} {α : Type} {R : Entries Json → α → Prop} {listed : List (Entries Json)}
  {buckets : List α} {key : α → Json} (each : List.Forall₂ R listed buckets)
include each

/-- The datapoints of what is read in each bucket make a series. -/
theorem series_of_readings (q : PanelQuery) {value : Json → Outcome Json}
    {number : α → Option Binary64}
    (reads : ∀ fields b, R fields b → ReadsNumber value fields (key b) (number b)) :
    ∃ points, datapoints value (.arr (listed.map .obj)) = .ok points ∧ ∀ target,
      q.series target points = .ok ⟨target, q.refId, buckets.map fun b => (number b, key b)⟩ := by
  obtain ⟨points, made, read⟩ : ∃ points,
      datapoints value (.arr (listed.map .obj)) = .ok points ∧
        List.Forall₂ (fun point b => IsReading point.1 (number b) ∧ point.2 = key b)
          points buckets := by
    refine Outcome.exists_mapM (R := fun bucket b => ∃ fields, bucket = Json.obj fields ∧
      R fields b) ?_ ?_
    · rw [List.forall₂_map_left_iff]
      exact each.imp fun fields b h => ⟨fields, rfl, h⟩
    · rintro bucket b ⟨fields, rfl, related⟩
      obtain ⟨found, v, hv, reading⟩ := reads fields b related
      refine ⟨(v, key b), ?_, reading, rfl⟩
      rw [hv, Json.entry, found]
      rfl
  have checked := items_of_readings (List.forall₂_map_right_iff (f := fun b => (number b, key b)).2
    read) 0
  refine ⟨points, made, fun target => ?_⟩
  rw [PanelQuery.series, checked]
  rfl

variable {m : Metric} {labels : Entries String}

/-- A count gives one series, of the numbers of documents. -/
theorem metricSeries_of_counts (counted : m.kind = .count) {number : α → Option Binary64}
    (reads : ∀ fields b, R fields b → ReadsNumber (·.entry "doc_count") fields (key b) (number b)) :
    q.metricSeries labels (.arr (listed.map .obj)) m =
      .ok [⟨q.seriesName m labels q.visibleMetrics.length m.title, q.refId,
        buckets.map fun b => (number b, key b)⟩] := by
  obtain ⟨points, made, series⟩ := series_of_readings each q reads
  simp only [PanelQuery.metricSeries, counted, made]
  show (q.series _ points >>= fun s => pure [s]) = _
  rw [series]
  rfl

/-- A metric with one value gives one series, of its values. -/
theorem metricSeries_of_values (asked : m.kind ≠ .count) (single : m.kind ≠ .percentiles)
    {number : α → Option Binary64}
    (reads : ∀ fields b, R fields b → ReadsNumber (metricValue m) fields (key b) (number b)) :
    q.metricSeries labels (.arr (listed.map .obj)) m =
      .ok [⟨q.seriesName m labels q.visibleMetrics.length m.title, q.refId,
        buckets.map fun b => (number b, key b)⟩] := by
  obtain ⟨points, made, series⟩ := series_of_readings each q reads
  unfold PanelQuery.metricSeries
  split
  · exact absurd ‹m.kind = .count› asked
  · exact absurd ‹m.kind = .percentiles› single
  · rw [made]
    show (q.series _ points >>= fun s => pure [s]) = _
    rw [series]
    rfl

/-- Percentiles give one series for each percentage. -/
theorem metricSeries_of_percentiles (several : m.kind = .percentiles) {names : List String}
    (named : percentages m (.arr (listed.map .obj)) = .ok (names.map Json.str))
    {number : String → α → Option Binary64}
    (reads : ∀ name ∈ names, ∀ fields b, R fields b →
      ReadsNumber (percentileValue m (.str name)) fields (key b) (number name b)) :
    q.metricSeries labels (.arr (listed.map .obj)) m =
      .ok (names.map fun name =>
        ⟨q.seriesName m labels q.visibleMetrics.length (m.percentileTitle name), q.refId,
          buckets.map fun b => (number name b, key b)⟩) := by
  simp only [PanelQuery.metricSeries, several, named]
  apply Outcome.mapM_of_forall₂
  apply List.forall₂_map_left_iff.2
  apply List.forall₂_same.2
  intro name hn
  obtain ⟨points, made, series⟩ := series_of_readings each q (reads name hn)
  rw [made]
  exact series _

end Readings

/-! ## The answer to a metric -/

theorem get?_metricAggregations {metrics : List Metric}
    (distinct : ((metrics.filter (·.kind ≠ .count)).map Metric.id).Nodup) {m : Metric}
    (hm : m ∈ metrics) (asked : m.kind ≠ .count) :
    (metricAggregations metrics).get? m.id = some m.aggregation := by
  have keys : (((metrics.filter (·.kind ≠ .count)).map fun m =>
      (m.id, m.aggregation)).map Prod.fst).Nodup := by
    rw [List.map_map]
    exact distinct
  have same : metricAggregations metrics =
      (metrics.filter (·.kind ≠ .count)).map fun m => (m.id, m.aggregation) :=
    Entries.ofPairs_of_nodup keys
  rw [same]
  have here : (m.id, m.aggregation) ∈
      (metrics.filter (·.kind ≠ .count)).map fun m => (m.id, m.aggregation) :=
    List.mem_map_of_mem (by simpa using ⟨hm, asked⟩)
  exact Entries.get?_of_mem keys here

theorem Metric.name_not_mem_bucketNames (m : Metric) : m.kind.name ∉ bucketNames := by
  cases m.kind <;> decide

theorem Metric.name_eq_percentiles {m : Metric} :
    m.kind.name = "percentiles" ↔ m.kind = .percentiles := by
  cases m.kind <;> decide

theorem Answers.value_of_metric {m : Metric} (single : m.kind ≠ .percentiles) {reply : Json}
    {answer : SlotAnswer} (h : Answers m.aggregation reply answer) :
    ∃ fields v x, reply = .obj fields ∧ answer = .value m.aggregation x ∧
      Entries.get? fields "value" = some v ∧ IsReading v x := by
  have other := mt Metric.name_eq_percentiles.1 single
  have metric := m.name_not_mem_bucketNames
  unfold Metric.aggregation at h ⊢
  generalize m.kind.name = kind at h other metric ⊢
  cases h with
  | value _ _ found reading => exact ⟨_, _, _, rfl, rfl, found, reading⟩
  | percents => exact absurd rfl other
  | buckets bucketing => exact absurd bucketing metric

theorem Answers.percents_of_metric {m : Metric} (several : m.kind = .percentiles) {reply : Json}
    {answer : SlotAnswer} (h : Answers m.aggregation reply answer) :
    ∃ fields values xs, reply = .obj fields ∧ answer = .percents m.aggregation xs ∧
      Entries.get? fields "values" = some (.obj values) ∧
      List.Forall₂ (fun v x => v.1 = x.1 ∧ IsReading v.2 x.2) values xs := by
  have same := Metric.name_eq_percentiles.2 several
  have metric := m.name_not_mem_bucketNames
  unfold Metric.aggregation at h ⊢
  generalize m.kind.name = kind at h same metric ⊢
  cases h with
  | value _ other => exact absurd same other
  | percents found readings => exact ⟨_, _, _, rfl, rfl, found, readings⟩
  | buckets bucketing => exact absurd bucketing metric

theorem keys_of_readings {values : Entries Json} {xs : Entries (Option Binary64)}
    (h : List.Forall₂ (fun v x => v.1 = x.1 ∧ IsReading v.2 x.2) values xs) :
    values.keys = xs.keys := by
  induction h with
  | nil => rfl
  | cons here _ ih => exact congrArg₂ List.cons here.1 ih

section Metric

variable {metrics : List Metric} {fields : Entries Json} {b : Bucket}
  (isListed : IsListed (metricAggregations metrics) fields b)
  (distinct : ((metrics.filter (·.kind ≠ .count)).map Metric.id).Nodup)
  {m : Metric} (hm : m ∈ metrics)
include isListed distinct hm

theorem metricValue_of_isListed (asked : m.kind ≠ .count) (single : m.kind ≠ .percentiles) :
    (∃ x, b.answers.get? m.id = some (.value m.aggregation x)) ∧
      ∃ v, metricValue m (.obj fields) = .ok v ∧ IsReading v (b.value m.id) := by
  obtain ⟨reply, answer, found, answers, here⟩ :=
    isListed.answers.get? (get?_metricAggregations distinct hm asked)
  obtain ⟨inside, v, x, rfl, rfl, value, reading⟩ := answers.value_of_metric single
  refine ⟨⟨x, here⟩, v, ?_, ?_⟩
  · rw [metricValue, metricAnswer, Json.entryD_obj, found]
    show Json.entryD (.obj inside) "value" .null = _
    rw [Json.entryD_obj, value]
    rfl
  · rwa [Bucket.value, here]

theorem percentileValues_of_isListed (several : m.kind = .percentiles) :
    (∃ xs, b.answers.get? m.id = some (.percents m.aggregation xs)) ∧
      ∃ values, percentileValues m (.obj fields) = .ok (.obj values) ∧
        List.Forall₂ (fun v x => v.1 = x.1 ∧ IsReading v.2 x.2) values (b.percents m.id) := by
  obtain ⟨reply, answer, found, answers, here⟩ :=
    isListed.answers.get? (get?_metricAggregations distinct hm (by simp [several]))
  obtain ⟨inside, values, xs, rfl, rfl, value, readings⟩ := answers.percents_of_metric several
  refine ⟨⟨xs, here⟩, values, ?_, ?_⟩
  · rw [percentileValues, metricAnswer, Json.entryD_obj, found]
    show Json.entryD (.obj inside) "values" (.obj []) = _
    rw [Json.entryD_obj, value]
    rfl
  · rwa [Bucket.percents, here]

/-- A percentile is read as it was answered; one that is absent is null. -/
theorem percentileValue_of_isListed (several : m.kind = .percentiles) (name : String) :
    ∃ v, percentileValue m (.str name) (.obj fields) = .ok v ∧
      IsReading v (b.percent m.id name) := by
  obtain ⟨-, values, read, readings⟩ := percentileValues_of_isListed isListed distinct hm several
  refine ⟨(Entries.get? values name).getD .null, ?_, ?_⟩
  · rw [percentileValue, read]
    rfl
  · rw [Bucket.percent]
    rcases Entries.get?_of_forall₂ readings name with ⟨left, right⟩ | ⟨v, x, left, right, reading⟩
    · rw [left, right]
      exact .null
    · rw [left, right]
      exact reading

end Metric

section Innermost

variable (q : PanelQuery) {metrics : List Metric} {listed : List (Entries Json)}
  {buckets : List Bucket}
  (each : List.Forall₂ (IsListed (metricAggregations metrics)) listed buckets)
  (distinct : ((metrics.filter (·.kind ≠ .count)).map Metric.id).Nodup)
  {m : Metric} (hm : m ∈ metrics)
include each distinct hm

theorem isAnswered_of_listed (asked : m.kind ≠ .count) (same : SamePercents buckets) :
    m.IsAnswered buckets := by
  intro b hb
  obtain ⟨fields, -, isListed⟩ := exists_of_forall₂ each hb
  split_ifs with several
  · refine ⟨(percentileValues_of_isListed isListed distinct hm several).1, fun name hn => ?_⟩
    cases buckets with
    | nil => simp at hb
    | cons first others => exact Entries.get?_of_mem_keys (same first (by simp) b hb m.id name hn)
  · exact (metricValue_of_isListed isListed distinct hm asked several).1

theorem percentages_of_listed (several : m.kind = .percentiles) :
    percentages m (.arr (listed.map .obj)) =
      .ok ((percentNames m.id buckets).map Json.str) := by
  cases each with
  | nil => rfl
  | @cons fields b _ _ first _ =>
    obtain ⟨-, values, read, readings⟩ := percentileValues_of_isListed first distinct hm several
    show (percentileValues m (.obj fields) >>= Json.walk) = _
    rw [read, percentNames, ← keys_of_readings readings, Entries.keys, List.map_map]
    rfl

theorem metricSeries_of_listed (labels : Entries String) :
    q.metricSeries labels (.arr (listed.map .obj)) m = .ok (q.seriesOver labels buckets m) := by
  by_cases counted : m.kind = .count
  · rw [PanelQuery.seriesOver, if_pos counted]
    refine metricSeries_of_counts each counted fun fields b h => ⟨h.key, ?_⟩
    obtain ⟨c, found, reading⟩ := h.count
    have entry : (Json.obj fields).entry "doc_count" = .ok c := by rw [Json.entry, found]
    exact ⟨c, entry, reading⟩
  rw [PanelQuery.seriesOver, if_neg counted]
  by_cases several : m.kind = .percentiles
  · rw [if_pos several]
    exact metricSeries_of_percentiles each several (percentages_of_listed each distinct hm several)
      fun name _ fields b h =>
        ⟨h.key, percentileValue_of_isListed h distinct hm several name⟩
  · rw [if_neg several]
    exact metricSeries_of_values each counted several fun fields b h =>
      ⟨h.key, (metricValue_of_isListed h distinct hm counted several).2⟩

end Innermost

/-! ## Levels of buckets -/

theorem bucketLabel_of_key {fields : Entries Json} {key : Json}
    (h : fields.get? "key" = some key) : bucketLabel (.obj fields) = .ok (labelOf key fields) := by
  have entry : (Json.obj fields).entry "key" = .ok key := by rw [Json.entry, h]
  rw [bucketLabel, entry, labelOf, Json.entryD_obj]
  cases fields.get? "key_as_string" with
  | none => rfl
  | some worded =>
    show (if worded.truthy then pure worded.plain else pure key.plain : Outcome String) = _
    dsimp only
    split_ifs <;> rfl

theorem bucketLabel_of_listed {nested fields : Entries Json} {b : Bucket}
    (h : IsListed nested fields b) : bucketLabel (.obj fields) = .ok b.label := by
  rw [bucketLabel_of_key h.key, h.label]

theorem aggregationEntries_injective {a b : Entries Json}
    (h : aggregationEntries a = aggregationEntries b) : a = b := by
  unfold aggregationEntries at h
  split_ifs at h with ha hb hb
  · rw [List.isEmpty_iff.1 ha, List.isEmpty_iff.1 hb]
  · simpa using h

/-- The reply to a bucketing holds a list of buckets that answer what is nested in it. -/
theorem AnswersAll.of_bucketing {b : Bucketing} {parameters : Json} {nested fields : Entries Json}
    {answers : Entries SlotAnswer} (other : ∀ aggregation ∈ nested, aggregation.1 ≠ "key")
    (h : AnswersAll [(b.id, .obj ((b.kind.name, parameters) :: aggregationEntries nested))] fields
      answers) :
    ∃ reply buckets listed, fields.get? b.id = some (.obj reply) ∧
      answers = [(b.id, .buckets buckets)] ∧ SamePercents buckets ∧
      bucketList (.obj reply) = .ok (.arr (listed.map .obj)) ∧
      List.Forall₂ (IsListed nested) listed buckets := by
  have kind : b.kind.name ∈ bucketNames := by cases b.kind <;> decide
  have single : b.kind.name ≠ "percentiles" := by cases b.kind <;> decide
  cases h with
  | cons found here others =>
    cases others
    generalize b.kind.name = name at here kind single
    generalize hb : aggregationEntries nested = below at here
    cases here with
    | value metric => exact absurd kind metric
    | percents => exact absurd rfl single
    | buckets _ nests inside isMembers each same =>
      obtain rfl := aggregationEntries_injective (hb.trans nests)
      obtain ⟨listed, made, all⟩ := bucketList_of_members inside isMembers each.forall₂ other
      exact ⟨_, _, listed, found, rfl, same, made, all⟩

section Levels

variable {q : PanelQuery} {b : Bucketing} {fields reply : Entries Json}
  {listed : List (Entries Json)} (found : fields.get? b.id = some (.obj reply))
  (made : bucketList (.obj reply) = .ok (.arr (listed.map .obj))) {labels : Entries String}
include found made

theorem seriesBelow_last {series : Metric → List TimeSeries}
    (each : ∀ m ∈ q.visibleMetrics,
      q.metricSeries labels (.arr (listed.map .obj)) m = .ok (series m)) :
    q.seriesBelow (.obj fields) labels [b] = .ok (q.visibleMetrics.flatMap series) := by
  have all : q.visibleMetrics.mapM (q.metricSeries labels (.arr (listed.map .obj))) =
      .ok (q.visibleMetrics.map series) :=
    Outcome.mapM_of_forall₂ (List.forall₂_same.2 each)
  rw [PanelQuery.seriesBelow, Json.entry?, found]
  apply Outcome.bind_eq_ok.2 ⟨_, rfl, Outcome.bind_eq_ok.2 ⟨_, made, _⟩⟩
  exact Outcome.bind_eq_ok.2 ⟨_, all, rfl⟩

theorem seriesBelow_more (c : Bucketing) (rest : List Bucketing) {α : Type}
    {R : Entries Json → α → Prop} {buckets : List α} (each : List.Forall₂ R listed buckets)
    {label : α → String} {series : α → List TimeSeries}
    (labelled : ∀ fields inner, R fields inner → bucketLabel (.obj fields) = .ok (label inner))
    (below : ∀ fields inner, R fields inner →
      q.seriesBelow (.obj fields) (labels.put b.labelField (label inner)) (c :: rest) =
        .ok (series inner)) :
    q.seriesBelow (.obj fields) labels (b :: c :: rest) = .ok (buckets.flatMap series) := by
  rw [PanelQuery.seriesBelow, Json.entry?, found]
  apply Outcome.bind_eq_ok.2 ⟨_, rfl, Outcome.bind_eq_ok.2 ⟨_, made, _⟩⟩
  rw [if_neg (by simp)]
  refine Outcome.bind_eq_ok.2 ⟨listed.map .obj, rfl, ?_⟩
  refine Outcome.bind_eq_ok.2 ⟨buckets.map series, ?_, rfl⟩
  apply Outcome.mapM_of_forall₂
  apply List.forall₂_map_left_iff.2
  apply each.imp
  intro inner bucket h
  rw [labelled inner bucket h]
  exact below inner bucket h

end Levels

theorem keys_ne_of_nest {timeField : String} {metrics : List Metric} {buckets : List Bucketing}
    {aggregations : Entries Json} {key : String} (metricIds : ∀ m ∈ metrics, m.id ≠ key)
    (bucketIds : ∀ b ∈ buckets, b.id ≠ key)
    (h : nest timeField (metricAggregations metrics) buckets = .ok aggregations) :
    ∀ aggregation ∈ aggregations, aggregation.1 ≠ key := by
  cases buckets with
  | nil =>
    obtain rfl := Outcome.pure_eq_ok.1 h
    intro aggregation ha
    obtain ⟨m, hm, rfl⟩ := List.mem_map.1 ((Entries.ofPairs_spec _).2 aggregation ha)
    exact metricIds m (List.mem_of_mem_filter hm)
  | cons b rest =>
    obtain ⟨parameters, nested, -, -, rfl⟩ := nest_cons_eq_ok h
    simpa using bucketIds b (by simp)

theorem paths_nested {b : Bucket} {name : String} {inner : List Bucket}
    (h : b.answers = [(name, .buckets inner)]) (depth : ℕ) :
    b.nested.flatMap (paths depth) = paths depth inner := by
  rw [Bucket.nested, h]
  simp

/-- On each level the query finds the buckets that answer its bucketing, and the innermost ones hold
an answer for each metric. -/
theorem seriesBelow_of_answers (q : PanelQuery)
    (distinct : ((q.metrics.filter (·.kind ≠ .count)).map Metric.id).Nodup)
    (metricIds : ∀ m ∈ q.metrics, m.id ≠ "key") {b : Bucketing} {inner : List Bucketing}
    (bucketIds : ∀ c ∈ b :: inner, c.id ≠ "key") {aggregations fields : Entries Json}
    (nested : nest q.timeField (metricAggregations q.metrics) (b :: inner) = .ok aggregations)
    {answers : Entries SlotAnswer} (h : AnswersAll aggregations fields answers) :
    ∃ buckets, answers = [(b.id, .buckets buckets)] ∧
      (∀ path ∈ paths inner.length buckets, ∀ m ∈ q.metrics, m.kind ≠ .count →
        m.IsAnswered path.2) ∧
      ∀ labels, q.seriesBelow (.obj fields) labels (b :: inner) =
        .ok ((paths inner.length buckets).flatMap (q.seriesAlong labels (b :: inner))) := by
  induction inner generalizing b aggregations fields answers with
  | nil =>
    obtain ⟨parameters, innermost, -, made, rfl⟩ := nest_cons_eq_ok nested
    have other := keys_ne_of_nest metricIds (by simp) made
    obtain rfl := Outcome.pure_eq_ok.1 made
    obtain ⟨reply, buckets, listed, found, rfl, same, list, each⟩ := h.of_bucketing other
    refine ⟨buckets, rfl, ?_, fun labels => ?_⟩
    · rintro path hp m hm asked
      obtain rfl := List.mem_singleton.1 hp
      exact isAnswered_of_listed each distinct hm asked same
    · rw [seriesBelow_last found list fun m hm =>
        metricSeries_of_listed q each distinct (List.mem_of_mem_filter hm) labels]
      simp [paths, PanelQuery.seriesAlong, Entries.putAll]
  | cons c rest ih =>
    obtain ⟨parameters, below, -, made, rfl⟩ := nest_cons_eq_ok nested
    have ids : ∀ d ∈ c :: rest, d.id ≠ "key" := fun d hd => bucketIds d (by simp [hd])
    obtain ⟨reply, buckets, listed, found, rfl, -, list, each⟩ :=
      h.of_bucketing (keys_ne_of_nest metricIds ids made)
    -- what is said of the inner levels holds in each bucket of this one
    have deeper (fields : Entries Json) (bucket : Bucket)
        (isListed : IsListed below fields bucket) := ih ids made isListed.answers
    refine ⟨buckets, rfl, ?_, fun labels => ?_⟩
    · intro path hp m hm asked
      obtain ⟨bucket, hb, hp⟩ := List.mem_flatMap.1 hp
      obtain ⟨fields, -, isListed⟩ := exists_of_forall₂ each hb
      obtain ⟨found, answers, answered, -⟩ := deeper fields bucket isListed
      rw [paths_nested answers] at hp
      obtain ⟨innerPath, hi, rfl⟩ := List.mem_map.1 hp
      exact answered innerPath hi m hm asked
    · rw [seriesBelow_more found list c rest each (fun _ _ => bucketLabel_of_listed)
        (fun fields bucket isListed => by
          obtain ⟨found, answers, -, series⟩ := deeper fields bucket isListed
          rw [series, ← paths_nested answers])]
      rw [List.length_cons, paths, List.flatMap_assoc]
      simp only [List.flatMap_map]
      rfl

/-! ## The answer to a query -/

theorem nest_of_body {q : PanelQuery} {filters : List AdhocFilter} {text : String}
    {body : Search.Body} (built : q.body filters text = .ok body)
    (computed : q.isRawDocument = false) :
    nest q.timeField (metricAggregations q.metrics) q.buckets = .ok body.aggregations := by
  obtain ⟨raw, -⟩ | ⟨-, aggregations, made, rfl⟩ := Search.body_cases built
  · exact absurd raw (by simp [computed])
  · exact made

/-- From a slot without an error a query gets its documents, or its series. -/
theorem answer_eq {q : PanelQuery} {slot : Entries Json}
    (noError : ∀ error, slot.get? "error" = some error → error.truthy = false) :
    q.answer (.obj slot) =
      if q.isRawDocument then
        (Documents.ofSlot q (.obj slot)).map fun documents => [.documents documents]
      else (q.seriesBelow ((slot.get? "aggregations").getD (.obj [])) [] q.buckets).map
        (List.map .series) := by
  have quiet : ((slot.get? "error").getD .null).truthy = false := by
    cases found : slot.get? "error" with
    | none => rfl
    | some error => exact noError error found
  rw [PanelQuery.answer, Json.entryD_obj, Json.entryD_obj]
  dsimp only [Bind.bind, Except.bind, Pure.pure, Except.pure]
  rw [if_neg (by simp [quiet])]
  cases q.isRawDocument with
  | true => cases Documents.ofSlot q (.obj slot) <;> rfl
  | false =>
    cases q.seriesBelow ((slot.get? "aggregations").getD (.obj [])) [] q.buckets <;> rfl

theorem answer_of_seriesBelow {q : PanelQuery} {slot aggregations : Entries Json}
    (computed : q.isRawDocument = false)
    (noError : ∀ error, slot.get? "error" = some error → error.truthy = false)
    (found : slot.get? "aggregations" = some (.obj aggregations)) {series : List TimeSeries}
    (h : q.seriesBelow (.obj aggregations) [] q.buckets = .ok series) :
    q.answer (.obj slot) = .ok (series.map .series) := by
  rw [answer_eq noError, computed, found, Option.getD_some, h]
  rfl

theorem results_single {q : PanelQuery} {reply : Entries Json} {slot : Json} {others : List Json}
    (slots : reply.get? "responses" = some (.arr (slot :: others))) :
    results [q] (.obj reply) = q.answer slot := by
  rw [results, Json.entry, slots]
  show (q.answer slot >>= fun found => pure (found ++ [])) = _
  simp only [List.append_nil, bind_pure]

/-- A query finds all that its slot answers: each metric is answered, with the aggregation that the
body has for it, in each innermost bucket, and along each path of labels each shown metric has the
series of these answers or of the numbers of documents. -/
theorem results_of_answers {q : PanelQuery} {filters : List AdhocFilter} {text : String}
    {body : Search.Body} (built : q.body filters text = .ok body)
    (computed : q.isRawDocument = false) (grouped : q.buckets ≠ [])
    (distinct : ((q.metrics.filter (·.kind ≠ .count)).map Metric.id).Nodup)
    (metricIds : ∀ m ∈ q.metrics, m.id ≠ "key") (bucketIds : ∀ b ∈ q.buckets, b.id ≠ "key")
    {slot aggregations : Entries Json} {answers : Entries SlotAnswer}
    (noError : ∀ error, slot.get? "error" = some error → error.truthy = false)
    (found : slot.get? "aggregations" = some (.obj aggregations))
    (answered : AnswersAll body.aggregations aggregations answers)
    {reply : Entries Json} {others : List Json}
    (slots : reply.get? "responses" = some (.arr (.obj slot :: others))) :
    ∃ top buckets, answers = [(top, .buckets buckets)] ∧
      (∀ path ∈ paths (q.buckets.length - 1) buckets, ∀ m ∈ q.metrics, m.kind ≠ .count →
        m.IsAnswered path.2) ∧
      results [q] (.obj reply) = .ok (((paths (q.buckets.length - 1) buckets).flatMap
        (q.seriesAlong [] q.buckets)).map .series) := by
  obtain ⟨b, inner, eq⟩ := List.exists_cons_of_ne_nil grouped
  obtain ⟨buckets, here, isAnswered, series⟩ :=
    seriesBelow_of_answers q distinct metricIds (eq ▸ bucketIds) (eq ▸ nest_of_body built computed)
      answered
  have answer := answer_of_seriesBelow computed noError found (eq.symm ▸ series [])
  refine ⟨b.id, buckets, here, ?_, ?_⟩
  · rwa [eq]
  · rw [results, Json.entry, slots]
    show (q.answer (.obj slot) >>= fun found => pure (found ++ [])) = _
    rw [answer, eq]
    exact congrArg Except.ok (List.append_nil _)

/-- The mean of the latencies. -/
def meanLatency : Metric := ⟨"4", .avg, some "latency", false, []⟩

/-- The median of the latencies. -/
def medianLatency : Metric := ⟨"5", .percentiles, some "latency", false, []⟩

/-- A query for the errors over time: their number, and the mean and the median of their latency. -/
def errorsOverTime : PanelQuery :=
  ⟨"A", none, false, none, none, "@timestamp", [.default, meanLatency, medianLatency],
    [⟨"3", .filters, none,
      [("filters", .arr [.obj [("query", .str "level:error"), ("label", .str "errors")]])]⟩,
    .default]⟩

/-- The fields of a bucket of errors at a time. -/
def errorsAt (time count mean : ℤ) (median : Json) : Entries Json :=
  [("key", .int time), ("doc_count", .int count), ("4", .obj [("value", .int mean)]),
    ("5", .obj [("values", .obj [("50.0", median)])])]

/-- The aggregations of a slot: the buckets of the filters are keyed, those over time listed. -/
def errorsFound : Entries Json :=
  [("3", .obj [("buckets", .obj [("errors", .obj [("doc_count", .int 3),
    ("2", .obj [("buckets", .arr [.obj (errorsAt 1000 2 40 (.int 30)),
      .obj (errorsAt 2000 1 50 .null)])])])])])]

/-- What is said of the errors at a time. -/
def saidAt (time : ℤ) (label : String) (count mean : ℤ) (median : Option Binary64) : Bucket :=
  .mk (.int time) label (.ofInt count) [("4", .value meanLatency.aggregation (some (.ofInt mean))),
    ("5", .percents medianLatency.aggregation [("50.0", median)])]

/-- What the slot says. -/
def errorsSaid : Entries SlotAnswer :=
  [("3", .buckets [.mk (.str "errors") "errors" (.ofInt 3) [("2", .buckets
    [saidAt 1000 "1000" 2 40 (some (.ofInt 30)), saidAt 2000 "2000" 1 50 none])]])]

theorem errorsAt_answers (time : ℤ) (label : String) (count mean : ℤ) {median : Json}
    {x : Option Binary64} (inRange : (Binary64.ofInt mean).isFinite = true)
    (reading : IsReading median x) :
    AnswersAll (metricAggregations errorsOverTime.metrics) (errorsAt time count mean median)
      (saidAt time label count mean x).answers :=
  .cons rfl (.value (by decide) (by decide) rfl (.int inRange)) <|
    .cons rfl (.percents rfl (.cons ⟨rfl, reading⟩ .nil)) .nil

theorem keys_percents_saidAt (time : ℤ) (label : String) (count mean : ℤ) (x : Option Binary64)
    (name : String) :
    ((saidAt time label count mean x).percents name).keys =
      if name = "5" then ["50.0"] else [] := by
  rw [Bucket.percents, saidAt, Bucket.answers, Entries.get?_cons, Entries.get?_cons]
  by_cases second : name = "5"
  · rw [if_neg (by simp [second]), if_pos second, if_pos second]
    rfl
  · rw [if_neg second, if_neg second]
    by_cases first : name = "4"
    · rw [if_pos first]
      rfl
    · rw [if_neg first]
      rfl

theorem errorsFound_answers {body : Search.Body}
    (built : errorsOverTime.body [] "*" = .ok body) :
    AnswersAll body.aggregations errorsFound errorsSaid := by
  obtain ⟨byLabel, inner, -, made, eq⟩ := nest_cons_eq_ok (nest_of_body built rfl)
  obtain ⟨byTime, innermost, -, last, rfl⟩ := nest_cons_eq_ok made
  obtain rfl := Outcome.pure_eq_ok.1 last
  have overTime : Answers
      (.obj (("date_histogram", byTime) ::
        aggregationEntries (metricAggregations errorsOverTime.metrics)))
      (.obj [("buckets", .arr [.obj (errorsAt 1000 2 40 (.int 30)),
        .obj (errorsAt 2000 1 50 .null)])])
      (.buckets [saidAt 1000 "1000" 2 40 (some (.ofInt 30)), saidAt 2000 "2000" 1 50 none]) := by
    refine .buckets (by decide) rfl rfl (@IsMembers.listed
      [(.int 1000, errorsAt 1000 2 40 (.int 30)), (.int 2000, errorsAt 2000 1 50 .null)] ?_) ?_ ?_
    · simp [errorsAt, Entries.get?_cons]
    · have median : IsReading (.int 30) (some (.ofInt 30)) := .int (by decide)
      have first := errorsAt_answers 1000 "1000" 2 40 (by decide) median
      have second := errorsAt_answers 2000 "2000" 1 50 (by decide) .null
      exact .cons rfl (.int (by decide)) first (.cons rfl (.int (by decide)) second .nil)
    · simp [SamePercents, keys_percents_saidAt]
  rw [eq]
  refine .cons rfl (.buckets (by decide) rfl rfl
    (.keyed [("errors", [("doc_count", .int 3), ("2", _)])]) ?_ ?_) .nil
  · exact .cons rfl (.int (by decide)) (.cons rfl overTime .nil) .nil
  · simp [SamePercents]

theorem errorsOverTime_results :
    results [errorsOverTime]
        (.obj [("responses", .arr [.obj [("aggregations", .obj errorsFound)]])]) =
      .ok [.series ⟨"errors Count", "A",
          [(some (.ofInt 2), .int 1000), (some (.ofInt 1), .int 2000)]⟩,
        .series ⟨"errors Average latency", "A",
          [(some (.ofInt 40), .int 1000), (some (.ofInt 50), .int 2000)]⟩,
        .series ⟨"errors p50.0 latency", "A",
          [(some (.ofInt 30), .int 1000), (none, .int 2000)]⟩] := by
  obtain ⟨body, built⟩ : ∃ body, errorsOverTime.body [] "*" = .ok body := ⟨_, rfl⟩
  let slot : Entries Json := [("aggregations", .obj errorsFound)]
  let reply : Entries Json := [("responses", .arr [.obj slot])]
  have noError (error : Json) (h : slot.get? "error" = some error) : error.truthy = false := by
    cases h
  have slots : reply.get? "responses" = some (.arr [.obj slot]) := rfl
  obtain ⟨top, buckets, here, -, read⟩ := results_of_answers built rfl (by decide) (by decide)
    (by decide) (by decide) noError rfl (errorsFound_answers built) slots
  cases here
  show results [errorsOverTime] (.obj reply) = _
  rw [read]
  rfl

end ElasticPanels

import ElasticPanels.Result.Documents
import ElasticPanels.Result.SeriesName

/-!
# Replies to a batch

A reply has one slot for each query, in order.  `PanelQuery.answer` reads the slot of a query: it
follows the bucketings of the query through the nested buckets, collecting a label on each level,
and makes one series for each metric of each innermost list of buckets.  `results` reads the whole
reply.
-/

namespace ElasticPanels

/-- The buckets of an aggregation.  Buckets that are keyed by their labels become a list in which
each has its label as key. -/
def bucketList (aggregation : Json) : Outcome Json := do
  match ← aggregation.entryD "buckets" (.arr []) with
  | .obj keyed =>
    let buckets ← keyed.mapM fun (key, bucket) =>
      match bucket with
      | .obj fields => Except.ok (Json.obj (Entries.put fields "key" (.str key)))
      | _ => Except.error Fault.wrongKind
    return .arr buckets
  | buckets => return buckets

/-- The label of a bucket: its key as the engine words it, else the key itself. -/
def bucketLabel (bucket : Json) : Outcome String := do
  let worded ← bucket.entryD "key_as_string" .null
  if worded.truthy then return worded.plain else return (← bucket.entry "key").plain

/-- The datapoints of some buckets: a value of each bucket beside its key. -/
def datapoints (value : Json → Outcome Json) (buckets : Json) : Outcome (List (Json × Json)) := do
  (← buckets.walk).mapM fun bucket => return (← value bucket, ← bucket.entry "key")

/-- The answer of a metric within a bucket. -/
def metricAnswer (m : Metric) (bucket : Json) : Outcome Json := bucket.entryD m.id (.obj [])

/-- The value of a metric within a bucket. -/
def metricValue (m : Metric) (bucket : Json) : Outcome Json := do
  (← metricAnswer m bucket).entryD "value" .null

/-- The values of a percentile metric within a bucket, by percentage. -/
def percentileValues (m : Metric) (bucket : Json) : Outcome Json := do
  (← metricAnswer m bucket).entryD "values" (.obj [])

/-- The percentages that a percentile metric has in the first bucket. -/
def percentages (m : Metric) (buckets : Json) : Outcome (List Json) := do
  if buckets.truthy then (← percentileValues m (← buckets.item 0)).walk else return []

/-- The value of one percentile within a bucket; only an object has any. -/
def percentileValue (m : Metric) (percent : Json) (bucket : Json) : Outcome Json := do
  (← percentileValues m bucket).entryD percent.plain .null

namespace PanelQuery

/-- The metrics that are shown. -/
def visibleMetrics (q : PanelQuery) : List Metric := q.metrics.filter (!·.hide)

/-- A series of the query, its datapoints checked. -/
def series (q : PanelQuery) (target : String) (points : List (Json × Json)) : Outcome TimeSeries :=
  Checked.outcome "TimeSeries" <|
    TimeSeries.mk target q.refId <$>
      Checked.under (.name "datapoints")
        (Checked.items (fun point => TimeSeries.checkPoint point.1 point.2) 0 points)

/-- The series of one metric over the innermost buckets: one for each percentage, or a single
one. -/
def metricSeries (q : PanelQuery) (labels : Entries String) (buckets : Json) (m : Metric) :
    Outcome (List TimeSeries) :=
  let name (metricName : String) : String :=
    q.seriesName m labels q.visibleMetrics.length metricName
  match m.kind with
  | .count => do
    let points ← datapoints (·.entry "doc_count") buckets
    return [← q.series (name m.title) points]
  | .percentiles => do
    (← percentages m buckets).mapM fun percent => do
      let points ← datapoints (percentileValue m percent) buckets
      q.series (name (m.percentileTitle percent.plain)) points
  | _ => do
    let points ← datapoints (metricValue m) buckets
    return [← q.series (name m.title) points]

/-- The series below the given bucketings; `labels` are those of the buckets further out.  An
aggregation that is absent has no series. -/
def seriesBelow (q : PanelQuery) (aggregations : Json) (labels : Entries String) :
    List Bucketing → Outcome (List TimeSeries)
  | [] => return []
  | b :: inner => do
    match (← aggregations.entry? b.id).getD .null with
    | .null => return []
    | aggregation =>
      let buckets ← bucketList aggregation
      if inner.isEmpty then
        return (← q.visibleMetrics.mapM (q.metricSeries labels buckets)).flatten
      else
        let found ← (← buckets.walk).mapM fun bucket => do
          let label ← bucketLabel bucket
          let field := (b.field.filter (!·.isEmpty)).getD b.kind.name
          q.seriesBelow bucket (labels.put field label) inner
        return found.flatten

/-- What a query gets from its slot. -/
def answer (q : PanelQuery) (slot : Json) : Outcome (List PanelResult) := do
  let error ← slot.entryD "error" .null
  if error.truthy then throw (.engine error)
  if q.isRawDocument then return [.documents (← Documents.ofSlot q slot)]
  return (← q.seriesBelow (← slot.entryD "aggregations" (.obj [])) [] q.buckets).map .series

end PanelQuery

/-- Answers the queries from the slots of a reply, the first of them from slot number `i`. -/
def answersFrom (slots : Json) : Nat → List PanelQuery → Outcome (List PanelResult)
  | _, [] => return []
  | i, q :: rest => do
    let results ← q.answer (← slots.item i)
    return results ++ (← answersFrom slots (i + 1) rest)

/-- The results of a batch from the reply to it. -/
def results (queries : List PanelQuery) (reply : Json) : Outcome (List PanelResult) := do
  answersFrom (← reply.entry "responses") 0 queries

end ElasticPanels

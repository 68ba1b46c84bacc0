import ElasticPanels.Validation.Checked

/-!
# Panel queries

A panel asks for documents or for metrics.  Metrics are computed for the groups that a chain of
bucketings makes, from the outermost to the innermost; a query whose first metric is the raw
document asks for the documents themselves.  The types here are what a request holds after its
checks; `toJson` writes them as the wire format has them.
-/

namespace ElasticPanels

/-! ## Enumerations -/

/-- What a metric computes. -/
inductive MetricKind
  | count
  | avg
  | sum
  | min
  | max
  | cardinality
  | percentiles
  | rawDocument
  deriving DecidableEq, Repr, Inhabited

namespace MetricKind

/-- All kinds of metrics. -/
def all : List MetricKind := [count, avg, sum, min, max, cardinality, percentiles, rawDocument]

/-- The wire name. -/
def name : MetricKind → String
  | count => "count"
  | avg => "avg"
  | sum => "sum"
  | min => "min"
  | max => "max"
  | cardinality => "cardinality"
  | percentiles => "percentiles"
  | rawDocument => "raw_document"

end MetricKind

/-- How documents are put into buckets. -/
inductive BucketKind
  | dateHistogram
  | terms
  | histogram
  | filters
  deriving DecidableEq, Repr, Inhabited

namespace BucketKind

/-- All kinds of bucketings. -/
def all : List BucketKind := [dateHistogram, terms, histogram, filters]

/-- The wire name. -/
def name : BucketKind → String
  | dateHistogram => "date_histogram"
  | terms => "terms"
  | histogram => "histogram"
  | filters => "filters"

end BucketKind

/-- How an ad-hoc filter compares. -/
inductive FilterOperator
  | equals
  | notEquals
  | lessThan
  | greaterThan
  | matchesRegex
  | notMatchesRegex
  deriving DecidableEq, Repr, Inhabited

namespace FilterOperator

/-- All operators. -/
def all : List FilterOperator :=
  [equals, notEquals, lessThan, greaterThan, matchesRegex, notMatchesRegex]

/-- The wire name. -/
def name : FilterOperator → String
  | equals => "="
  | notEquals => "!="
  | lessThan => "<"
  | greaterThan => ">"
  | matchesRegex => "=~"
  | notMatchesRegex => "!~"

end FilterOperator

/-! ## Records -/

/-- A metric of a panel. -/
structure Metric where
  id : String
  kind : MetricKind
  field : Option String
  hide : Bool
  settings : Entries Json
  deriving Repr, Inhabited

/-- The metric of a panel that names none: the number of documents. -/
def Metric.default : Metric := ⟨"1", .count, none, false, []⟩

/-- A bucketing of a panel. -/
structure Bucketing where
  id : String
  kind : BucketKind
  field : Option String
  settings : Entries Json
  deriving Repr, Inhabited

/-- The bucketing of a panel that names none: by time, with an automatic interval. -/
def Bucketing.default : Bucketing := ⟨"2", .dateHistogram, none, [("interval", .str "auto")]⟩

/-- One query of a panel. -/
structure PanelQuery where
  refId : String
  query : Option String
  hide : Bool
  size : Option Int
  aliasPattern : Option String
  timeField : String
  metrics : List Metric
  buckets : List Bucketing
  deriving Repr, Inhabited

/-- A filter that applies to all queries of a request. -/
structure AdhocFilter where
  key : String
  operator : FilterOperator
  value : String
  deriving Repr, Inhabited

/-- The queries that are not hidden, in order. -/
def visibleQueries (queries : List PanelQuery) : List PanelQuery := queries.filter (!·.hide)

theorem mem_of_mem_visibleQueries {queries : List PanelQuery} {q : PanelQuery}
    (h : q ∈ visibleQueries queries) : q ∈ queries := (List.mem_filter.1 h).1

theorem visibleQueries_of_shown {queries : List PanelQuery} (h : ∀ q ∈ queries, q.hide = false) :
    visibleQueries queries = queries := by
  simpa [visibleQueries] using h

theorem visibleQueries_single {q : PanelQuery} (h : q.hide = false) : visibleQueries [q] = [q] :=
  visibleQueries_of_shown (by simpa using h)

theorem visibleQueries_of_hidden {queries : List PanelQuery} (h : ∀ q ∈ queries, q.hide = true) :
    visibleQueries queries = [] := by
  simpa [visibleQueries] using h

/-- A query asks for documents if its first metric is the raw document. -/
def PanelQuery.isRawDocument (q : PanelQuery) : Bool :=
  match q.metrics with
  | metric :: _ => metric.kind = .rawDocument
  | [] => false

/-! ## Checks

`wrong` is the flaw of a value that is no record at all. -/

open Check

/-- Checks a metric. -/
def Metric.check (wrong : Flaw) : Check Metric := record wrong fun fields =>
  Metric.mk <$> withDefault fields "id" "1" text
    <*> withDefault fields "type" .count (member MetricKind.all MetricKind.name)
    <*> withDefault fields "field" none (nullable text)
    <*> withDefault fields "hide" false bool
    <*> withDefault fields "settings" [] object

/-- Checks a bucketing. -/
def Bucketing.check (wrong : Flaw) : Check Bucketing := record wrong fun fields =>
  Bucketing.mk <$> withDefault fields "id" "2" text
    <*> withDefault fields "type" .dateHistogram (member BucketKind.all BucketKind.name)
    <*> withDefault fields "field" none (nullable text)
    <*> withDefault fields "settings" [] object

/-- Checks a panel query. -/
def PanelQuery.check (wrong : Flaw) : Check PanelQuery := record wrong fun fields =>
  PanelQuery.mk <$> withDefault fields "ref_id" "A" text
    <*> withDefault fields "query" none (nullable text)
    <*> withDefault fields "hide" false bool
    <*> withDefault fields "size" none (nullable (intFrom 0))
    <*> withDefault fields "alias" none (nullable text)
    <*> withDefault fields "time_field" "@timestamp" text
    <*> withDefault fields "metrics" [.default] (list (Metric.check wrong))
    <*> withDefault fields "bucket_aggs" [.default] (list (Bucketing.check wrong))

/-- Checks an ad-hoc filter. -/
def AdhocFilter.check (wrong : Flaw) : Check AdhocFilter := record wrong fun fields =>
  AdhocFilter.mk <$> required fields "key" text
    <*> withDefault fields "operator" .equals (member FilterOperator.all FilterOperator.name)
    <*> required fields "value" text

/-! ## Wire form -/

/-- The wire form of a metric. -/
def Metric.toJson (m : Metric) : Json :=
  .obj [("id", .str m.id), ("type", .str m.kind.name), ("field", .ofText? m.field),
    ("hide", .bool m.hide), ("settings", .obj m.settings)]

/-- The wire form of a bucketing. -/
def Bucketing.toJson (b : Bucketing) : Json :=
  .obj [("id", .str b.id), ("type", .str b.kind.name), ("field", .ofText? b.field),
    ("settings", .obj b.settings)]

/-- The wire form of a panel query. -/
def PanelQuery.toJson (q : PanelQuery) : Json :=
  .obj [("ref_id", .str q.refId), ("query", .ofText? q.query), ("hide", .bool q.hide),
    ("size", .ofInt? q.size), ("alias", .ofText? q.aliasPattern), ("time_field", .str q.timeField),
    ("metrics", .arr (q.metrics.map Metric.toJson)),
    ("bucket_aggs", .arr (q.buckets.map Bucketing.toJson))]

/-- The wire form of an ad-hoc filter. -/
def AdhocFilter.toJson (f : AdhocFilter) : Json :=
  .obj [("key", .str f.key), ("operator", .str f.operator.name), ("value", .str f.value)]

end ElasticPanels

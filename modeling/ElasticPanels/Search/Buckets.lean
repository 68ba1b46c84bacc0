import ElasticPanels.Fault
import ElasticPanels.Json.ScalarKeys
import ElasticPanels.Search.Conditions

/-!
# Parameters of bucketings and metrics

Each kind of bucketing has parameters of its own, taken from its settings with defaults.  Settings
are free-form, so a parameter that must be a whole number or a key can fail.
-/

namespace ElasticPanels

/-- The number of terms when a request names none. -/
def Search.termsLimit : Int := 500

/-- The parameters of a metric: its field, and the percentages if it names any. -/
def Metric.parameters (m : Metric) : Json :=
  let percents := if m.kind = .percentiles then m.settings.get? "percents" else none
  .obj (("field", .ofText? m.field) :: (percents.map fun p => ("percents", p)).toList)

namespace Bucketing

/-- A setting or its default. -/
def setting (b : Bucketing) (name : String) (default : Json) : Json :=
  (b.settings.get? name).getD default

/-- Buckets by time.  The automatic interval is that of the request, and the buckets span the whole
range of the request. -/
def byTime (b : Bucketing) (timeField : String) : Outcome Json := do
  let interval := match b.setting "interval" (.str "auto") with
    | .str "auto" => .str "$__interval"
    | other => other
  let field := match b.field with
    | some field => if field.isEmpty then timeField else field
    | none => timeField
  let least ← (b.setting "min_doc_count" (.int 0)).wholeNumber
  return .obj [("interval", interval), ("field", .str field), ("min_doc_count", .int least),
    ("extended_bounds", .obj [("min", .str "$timeFrom"), ("max", .str "$timeTo")]),
    ("format", .str "epoch_millis")]

/-- Buckets by term.  Zero asks for as many terms as there may be.  A key to order by that is no
text is held in its written form. -/
def byTerm (b : Bucketing) : Outcome Json := do
  let size ← (b.setting "size" (.int 10)).wholeNumber
  let orderBy := b.setting "order_by" (.str "_term")
  if !orderBy.isScalar then throw .wrongKind
  let least ← match b.settings.get? "min_doc_count" with
    | some setting => setting.wholeNumber.map fun n => [("min_doc_count", Json.int n)]
    | none => pure []
  return .obj ([("field", .ofText? b.field),
    ("size", .int (if size = 0 then Search.termsLimit else size)),
    ("order", .obj [(orderBy.keyText, b.setting "order" (.str "desc"))])] ++ least)

/-- Buckets by number, of equal width. -/
def byNumber (b : Bucketing) : Outcome Json := do
  let least ← (b.setting "min_doc_count" (.int 0)).wholeNumber
  return .obj [("field", .ofText? b.field), ("interval", b.setting "interval" (.int 1000)),
    ("min_doc_count", .int least)]

/-- One entry of a list of filters: the label, which is the query itself if none is given, and the
clause. -/
def labelled (entry : Json) : Outcome (Json × Json) := do
  let label ← entry.entryD "label" .null
  let query ← entry.entry "query"
  let label := if label.truthy then label else query
  if !label.isScalar then throw .wrongKind
  return (label, Search.textClause query)

/-- Named buckets, one for each Lucene query. -/
def byFilter (b : Bucketing) : Outcome Json := do
  let entries ← (b.setting "filters" (.arr [.obj [("query", .str "*")]])).walk
  let clauses ← entries.mapM labelled
  let named := clauses.foldl (fun acc entry => Json.putScalar acc entry.1 entry.2) []
  return .obj [("filters", .obj (named.map fun entry => (entry.1.keyText, entry.2)))]

/-- The parameters of a bucketing. -/
def parameters (b : Bucketing) (timeField : String) : Outcome Json :=
  match b.kind with
  | .dateHistogram => b.byTime timeField
  | .terms => b.byTerm
  | .histogram => b.byNumber
  | .filters => b.byFilter

end Bucketing

end ElasticPanels

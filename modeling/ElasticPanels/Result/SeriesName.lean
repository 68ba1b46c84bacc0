import ElasticPanels.Panel.Query
import ElasticPanels.Result.Alias

/-!
# Names of series

A series is named by the alias of its query or, without one, by its labels and its metric.
-/

namespace ElasticPanels

/-- The name of a kind of metric. -/
def MetricKind.title : MetricKind → String
  | count => "Count"
  | avg => "Average"
  | sum => "Sum"
  | min => "Min"
  | max => "Max"
  | cardinality => "Unique Count"
  | percentiles => "Percentiles"
  | rawDocument => "Raw Document"

/-- The field, if it is there and not empty. -/
def Metric.field? (m : Metric) : Option String := m.field.filter (!·.isEmpty)

/-- A name and, after a space, the field of the metric. -/
def Metric.withField (m : Metric) (name : String) : String :=
  match m.field? with
  | some field => name ++ " " ++ field
  | none => name

/-- The name of a metric; a count has no field. -/
def Metric.title (m : Metric) : String :=
  if m.kind = .count then m.kind.title else m.withField m.kind.title

/-- The name of one percentile of a metric. -/
def Metric.percentileTitle (m : Metric) (percent : String) : String := m.withField ("p" ++ percent)

/-- The name of a series with the given labels and metric name; `visible` is the number of metrics
that the query shows.  Labels alone name a count that is shown by itself. -/
def PanelQuery.seriesName (q : PanelQuery) (m : Metric) (labels : Entries String) (visible : Nat)
    (metricName : String) : String :=
  match q.aliasPattern.filter (!·.isEmpty) with
  | some pattern => Alias.render labels metricName m.field pattern
  | none =>
    if labels.isEmpty then metricName
    else
      let joined := String.intercalate " " labels.values
      if 1 < visible ∨ m.kind ≠ .count then joined ++ " " ++ metricName else joined

end ElasticPanels

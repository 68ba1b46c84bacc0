import ElasticPanels.Panel.Request
import ElasticPanels.Search.Buckets

/-!
# Bodies of searches

`PanelQuery.body` is the search of a panel query and `Lookup.termsBody` the search that lists the
terms of a field.  The time range and the automatic interval stand in them as references to
variables, which are resolved on the written text.
-/

namespace ElasticPanels

namespace Search

/-- The body of a search. -/
structure Body where
  size : Int
  selection : Json
  sort : Option Json
  aggregations : Entries Json
  deriving Repr, Inhabited

/-- The aggregations of a node, if it has any. -/
def aggregationEntries (aggregations : Entries Json) : Entries Json :=
  if aggregations.isEmpty then [] else [("aggs", .obj aggregations)]

/-- The wire form of a body. -/
def Body.toJson (b : Body) : Json :=
  .obj ([("size", .int b.size), ("query", b.selection)] ++
    (b.sort.map fun s => ("sort", s)).toList ++ aggregationEntries b.aggregations)

/-- The number of documents when a request names none. -/
def documentLimit : Int := 500

/-- Newest documents first; an index that lacks the field does no harm. -/
def newestFirst (timeField : String) : Json :=
  .obj [(timeField, .obj [("order", .str "desc"), ("unmapped_type", .str "boolean")])]

/-- The aggregations of the metrics.  Counts come with every bucket and need none. -/
def metricAggregations (metrics : List Metric) : Entries Json :=
  .ofPairs ((metrics.filter (·.kind ≠ .count)).map fun m =>
    (m.id, .obj [(m.kind.name, m.parameters)]))

/-- Nests the bucketings into each other, the first outermost, around `innermost`. -/
def nest (timeField : String) (innermost : Entries Json) : List Bucketing → Outcome (Entries Json)
  | [] => return innermost
  | b :: rest => do
    let parameters ← b.parameters timeField
    let inner ← nest timeField innermost rest
    return [(b.id, .obj ((b.kind.name, parameters) :: aggregationEntries inner))]

end Search

/-- The search of a panel query for the expanded text `text`.  A query for documents computes
nothing, and one that computes asks for no documents. -/
def PanelQuery.body (q : PanelQuery) (filters : List AdhocFilter) (text : String) :
    Outcome Search.Body := do
  let selection := Search.selection q.timeField text filters
  if q.isRawDocument then
    return ⟨q.size.getD Search.documentLimit, selection, some (Search.newestFirst q.timeField), []⟩
  else
    let aggregations ← Search.nest q.timeField (Search.metricAggregations q.metrics) q.buckets
    return ⟨0, selection, none, aggregations⟩

/-- A text, or the query that matches everything if it is empty. -/
def queryOrAll (text : String) : String := if text.isEmpty then "*" else text

theorem queryOrAll_eq_self_iff (text : String) : queryOrAll text = text ↔ text ≠ "" := by
  by_cases empty : text = ""
  · subst empty
    decide
  · simp [queryOrAll, empty]

/-- The search for the terms of a field, in their own order. -/
def Lookup.termsBody (l : Lookup) (timeField : String) : Search.Body where
  size := 0
  selection := Search.selection timeField (queryOrAll (l.query.getD "")) []
  sort := none
  aggregations :=
    let size := l.size.getD 0
    [("1", .obj [("terms", .obj [("field", .ofText? l.field),
      ("size", .int (if size = 0 then Search.termsLimit else size)),
      ("order", .obj [("_term", .str "asc")])])])]

end ElasticPanels

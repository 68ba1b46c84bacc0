import ElasticPanels.Panel.Query

/-!
# Conditions of a search

A search selects documents by clauses of a boolean query: the time of a document lies in the range
of the request, its text matches a Lucene query, and every ad-hoc filter holds.  A filter that
excludes contributes the clause of what it excludes to the clauses that must not hold.
-/

namespace ElasticPanels

/-- Whether the filter holds of the documents that its clause does not select. -/
def AdhocFilter.excludes (f : AdhocFilter) : Bool :=
  match f.operator with
  | .notEquals | .notMatchesRegex => true
  | .equals | .lessThan | .greaterThan | .matchesRegex => false

/-- The clause of a filter: a phrase, an open range or a regular expression on its key. -/
def AdhocFilter.clause (f : AdhocFilter) : Json :=
  match f.operator with
  | .equals | .notEquals =>
    .obj [("match_phrase", .obj [(f.key, .obj [("query", .str f.value)])])]
  | .lessThan => .obj [("range", .obj [(f.key, .obj [("lt", .str f.value)])])]
  | .greaterThan => .obj [("range", .obj [(f.key, .obj [("gt", .str f.value)])])]
  | .matchesRegex | .notMatchesRegex => .obj [("regexp", .obj [(f.key, .str f.value)])]

namespace Search

/-- The clause that a time lies in the range of the request, named by its two variables. -/
def timeClause (timeField : String) : Json :=
  .obj [("range", .obj [(timeField, .obj [("gte", .str "$timeFrom"), ("lte", .str "$timeTo"),
    ("format", .str "epoch_millis")])])]

/-- The clause that a Lucene query matches. -/
def textClause (query : Json) : Json :=
  .obj [("query_string", .obj [("analyze_wildcard", .bool true), ("query", query)])]

/-- The clauses of the ad-hoc filters: those that must hold, then those that must not.  Without
filters neither list is written. -/
def filterClauses (filters : List AdhocFilter) : Entries Json :=
  if filters.isEmpty then []
  else
    [("must", .arr ((filters.filter (!·.excludes)).map AdhocFilter.clause)),
     ("must_not", .arr ((filters.filter (·.excludes)).map AdhocFilter.clause))]

/-- The selection of a search. -/
def selection (timeField query : String) (filters : List AdhocFilter) : Json :=
  .obj [("bool", .obj (("filter", .arr [timeClause timeField, textClause (.str query)]) ::
    filterClauses filters))]

end Search

end ElasticPanels

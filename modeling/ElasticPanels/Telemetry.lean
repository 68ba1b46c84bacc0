import ElasticPanels.Lookup.Request

/-!
# Telemetry

What is counted is kept as the list of events that happened; a counter is the number of its events.
`exposition` writes the counters and the histogram of batch sizes in the text format of a scrape.
-/

namespace ElasticPanels

/-- The two kinds of multi-searches. -/
inductive SearchKind
  | query
  | terms
  deriving DecidableEq, Repr, Inhabited

/-- The name of a kind. -/
def SearchKind.name : SearchKind → String
  | query => "query"
  | terms => "terms"

/-- Why a multi-search failed: the engine said so, or there was no proper reply. -/
inductive FailureReason
  | engine
  | transport
  deriving DecidableEq, Repr, Inhabited

/-- The name of a reason. -/
def FailureReason.name : FailureReason → String
  | engine => "engine"
  | transport => "transport"

namespace Telemetry

/-- The events that are counted. -/
inductive Event
  | search (kind : SearchKind)
  | failure (kind : SearchKind) (reason : FailureReason)
  | batch (size : Nat)
  | lookup (target : Lookup.Target)
  deriving DecidableEq, Repr

/-- A sample: its name, its labels and its value. -/
structure Sample where
  name : String
  labels : List (String × String)
  value : Nat
  deriving DecidableEq, Repr

/-- The sizes of the batches. -/
def batchSizes (events : List Event) : List Nat :=
  events.filterMap fun
    | .batch size => some size
    | _ => none

/-- The upper bounds of the histogram of batch sizes. -/
def batchBounds : List Nat := [1, 2, 4, 8, 16, 32]

/-- A whole number as the value of a sample. -/
def valueText (n : Nat) : String := toString n ++ ".0"

/-- A counter for each of some events, without those that never happened. -/
def counters (name : String) (labelled : List (List (String × String) × Event))
    (events : List Event) : List Sample :=
  labelled.filterMap fun (labels, event) =>
    let value := events.count event
    if value = 0 then none else some ⟨name, labels, value⟩

/-- The searches that were sent. -/
def searchSamples : List Event → List Sample :=
  counters "esds_msearch_requests_total"
    ([.query, .terms].map fun kind => ([("kind", kind.name)], .search kind))

/-- The searches that failed. -/
def failureSamples : List Event → List Sample :=
  counters "esds_msearch_errors_total"
    ([SearchKind.query, .terms].flatMap fun kind =>
      [FailureReason.engine, .transport].map fun reason =>
        ([("kind", kind.name), ("reason", reason.name)], .failure kind reason))

/-- The batches not larger than each bound, the number of all, and the sum of their sizes. -/
def batchSamples (events : List Event) : List Sample :=
  let sizes := batchSizes events
  batchBounds.map (fun bound =>
      ⟨"esds_batch_queries_bucket", [("le", valueText bound)], sizes.countP (· ≤ bound)⟩) ++
    [⟨"esds_batch_queries_bucket", [("le", "+Inf")], sizes.length⟩,
     ⟨"esds_batch_queries_count", [], sizes.length⟩,
     ⟨"esds_batch_queries_sum", [], sizes.foldr Nat.add 0⟩]

/-- The lookups. -/
def lookupSamples : List Event → List Sample :=
  counters "esds_meta_queries_total"
    ([.fields, .other, .terms].map fun target => ([("find", target.name)], .lookup target))

/-- All samples. -/
def samples (events : List Event) : List Sample :=
  searchSamples events ++ failureSamples events ++ batchSamples events ++ lookupSamples events

/-- A sample on one line. -/
def Sample.line (s : Sample) : String :=
  let labels := s.labels.map fun label => label.1 ++ "=\"" ++ label.2 ++ "\""
  s.name ++ (if labels.isEmpty then "" else "\x7b" ++ String.intercalate "," labels ++ "\x7d") ++
    " " ++ valueText s.value ++ "\n"

/-- The lines of one metric family. -/
def family (name help type : String) (samples : List Sample) : String :=
  "# HELP " ++ name ++ " " ++ help ++ "\n# TYPE " ++ name ++ " " ++ type ++ "\n" ++
    String.join (samples.map Sample.line)

/-- The text of a scrape. -/
def exposition (events : List Event) : String :=
  family "esds_msearch_requests_total" "Multi-search round trips issued, by kind (query or terms)"
      "counter" (searchSamples events) ++
    family "esds_msearch_errors_total"
      "Failed multi-search round trips, by kind and failure class (engine or transport)"
      "counter" (failureSamples events) ++
    family "esds_batch_queries" "Number of panel queries carried by one multi-search payload"
      "histogram" (batchSamples events) ++
    family "esds_meta_queries_total" "Metric-find requests, by find target"
      "counter" (lookupSamples events)

end Telemetry

end ElasticPanels

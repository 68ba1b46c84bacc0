import ElasticPanels.Validation.Checked

/-!
# Results of panel queries

A query gives time series or documents.  `PanelResult.check` reads either back from its wire form;
the two have no common tag, so where both readings fit, the one that uses more of the fields wins.
-/

namespace ElasticPanels

open Check

/-- A named series of values, each with the key of its bucket. -/
structure TimeSeries where
  target : String
  refId : String
  datapoints : List (Option Binary64 × Json)
  deriving Repr, Inhabited

/-- The documents that a query found, and how many there are in all. -/
structure Documents where
  refId : String
  total : Int
  documents : List (Entries Json)
  deriving Repr, Inhabited

/-- One result of a panel query. -/
inductive PanelResult
  | series (s : TimeSeries)
  | documents (d : Documents)
  deriving Repr, Inhabited

/-! ## Checks -/

/-- Checks the number of a datapoint, which may be null. -/
def TimeSeries.checkPoint (value key : Json) : Checked (Option Binary64 × Json) :=
  (fun number => (number, key)) <$> Checked.under (.index 0) (nullable float value)

/-- Checks a datapoint: a pair of a number or null and any value. -/
def TimeSeries.checkDatapoint : Check (Option Binary64 × Json)
  | .arr [] => .bad [⟨[.index 0], .missing⟩, ⟨[.index 1], .missing⟩]
  | .arr [value] =>
    Prod.mk <$> Checked.under (.index 0) (nullable float value)
      <*> Checked.under (.index 1) (.fail .missing)
  | .arr [value, key] => checkPoint value key
  | .arr more => .fail (.tupleTooLong 2 more.length)
  | _ => .fail .notTuple

/-- Checks a time series. -/
def TimeSeries.check (wrong : Flaw) : Check TimeSeries := record wrong fun fields =>
  TimeSeries.mk <$> required fields "target" text
    <*> required fields "ref_id" text
    <*> withDefault fields "datapoints" [] (list checkDatapoint)

/-- Checks the tag of a list of documents. -/
def Documents.checkTag : Check Unit
  | .str s => plainText s fun s => if s = "docs" then .ok () else .fail (.notConstant "'docs'")
  | _ => .fail (.notConstant "'docs'")

/-- Checks a list of documents. -/
def Documents.check (wrong : Flaw) : Check Documents := record wrong fun fields =>
  (fun refId _ total documents => Documents.mk refId total documents)
    <$> required fields "ref_id" text
    <*> withDefault fields "type" () checkTag
    <*> withDefault fields "total" 0 int
    <*> withDefault fields "datapoints" [] (list object)

/-- How many of the named fields a value has. -/
def fieldsPresent (names : List String) : Json → Nat
  | .obj fields => names.countP fun name => (Entries.get? fields name).isSome
  | _ => 0

/-- Checks a result that may be a time series or a list of documents. -/
def PanelResult.check (wrong : Flaw) : Check PanelResult := fun value =>
  match TimeSeries.check wrong value, Documents.check wrong value with
  | .ok s, .ok d =>
    if fieldsPresent ["target", "ref_id", "datapoints"] value <
        fieldsPresent ["ref_id", "type", "total", "datapoints"] value
    then .ok (.documents d) else .ok (.series s)
  | .ok s, .bad _ => .ok (.series s)
  | .bad _, .ok d => .ok (.documents d)
  | .bad ofSeries, .bad ofDocuments =>
    .bad (ofSeries.map (Issue.under (.branch "TimeSeries")) ++
      ofDocuments.map (Issue.under (.branch "DocsResult")))

/-- Checks the results of a batch. -/
def PanelResult.checkResponse (wrong : Flaw) : Check (List PanelResult) :=
  record wrong fun fields => required fields "data" (list (PanelResult.check wrong))

/-! ## Wire form -/

/-- The wire form of a number that may be absent. -/
def numberJson : Option Binary64 → Json
  | some x => .float x
  | none => .null

/-- The wire form of a time series. -/
def TimeSeries.toJson (s : TimeSeries) : Json :=
  .obj [("target", .str s.target), ("ref_id", .str s.refId),
    ("datapoints", .arr (s.datapoints.map fun point => .arr [numberJson point.1, point.2]))]

/-- The wire form of a list of documents. -/
def Documents.toJson (d : Documents) : Json :=
  .obj [("ref_id", .str d.refId), ("type", .str "docs"), ("total", .int d.total),
    ("datapoints", .arr (d.documents.map .obj))]

/-- The wire form of a result. -/
def PanelResult.toJson : PanelResult → Json
  | series s => s.toJson
  | documents d => d.toJson

/-- The wire form of the results of a batch. -/
def PanelResult.responseJson (results : List PanelResult) : Json :=
  .obj [("data", .arr (results.map PanelResult.toJson))]

end ElasticPanels

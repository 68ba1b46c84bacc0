import ElasticPanels.Panel.Query
import ElasticPanels.Template.Variables

/-!
# Requests

A batch request carries the queries of a dashboard refresh, the filters and variables that apply to
all of them, and the time range.  A lookup request asks for field names or field values; what it
asks is a `Lookup`, given as an object or as a JSON text.
-/

namespace ElasticPanels

open Check

/-- The time range of a request. -/
structure TimeRange where
  start : String
  stop : String
  deriving DecidableEq, Repr, Inhabited

/-- The last six hours. -/
def TimeRange.default : TimeRange := ⟨"now-6h", "now"⟩

/-- A batch of panel queries. -/
structure BatchRequest where
  queries : List PanelQuery
  filters : List AdhocFilter
  vars : Template.Variables
  range : TimeRange
  interval : String
  deriving Repr, Inhabited

/-- What a lookup asks for. -/
structure Lookup where
  find : Json
  field : Option String
  kind : Option String
  query : Option String
  size : Option Int
  deriving Repr, Inhabited

/-- A lookup request, with the lookup still unread. -/
structure LookupRequest where
  query : Json
  vars : Template.Variables
  range : TimeRange
  deriving Repr, Inhabited

/-! ## Checks -/

/-- Checks the start of a time range, which may be written under either of two names; the wire name
goes first. -/
def TimeRange.checkStart (fields : Entries Json) : Checked String :=
  if (fields.get? "from").isSome then required fields "from" text
  else withDefault fields "from_" TimeRange.default.start text

/-- Checks a time range. -/
def TimeRange.check (wrong : Flaw) : Check TimeRange := record wrong fun fields =>
  TimeRange.mk <$> checkStart fields <*> withDefault fields "to" TimeRange.default.stop text

/-- Checks the value of a variable: a text or a list of texts.  A value that is neither has the
issues of both readings. -/
def Template.Value.check : Check Template.Value
  | .str s => .ok (.single s)
  | value =>
    match list text value with
    | .ok texts => .ok (.multi texts)
    | .bad issues =>
      .bad (⟨[.branch "str"], .notText⟩ :: issues.map (Issue.under (.branch "list[str]")))

/-- Checks the variables of a request. -/
def Template.Variables.check : Check Template.Variables := objectOf Template.Value.check

/-- Checks the query of a lookup request: null, a text or an object. -/
def LookupRequest.checkQuery : Check Json
  | .null => .ok .null
  | .str s => .ok (.str s)
  | .obj fields => .ok (.obj fields)
  | _ => .bad [⟨[.branch "str"], .notText⟩, ⟨[.branch "dict[str,any]"], .notObject⟩]

/-- Checks a batch request. -/
def BatchRequest.check (wrong : Flaw) : Check BatchRequest := record wrong fun fields =>
  BatchRequest.mk <$> withDefault fields "queries" [] (list (PanelQuery.check wrong))
    <*> withDefault fields "adhoc_filters" [] (list (AdhocFilter.check wrong))
    <*> withDefault fields "variables" [] Template.Variables.check
    <*> withDefault fields "range" .default (TimeRange.check wrong)
    <*> withDefault fields "interval" "1m" text

/-- Checks a lookup. -/
def Lookup.check (wrong : Flaw) : Check Lookup := record wrong fun fields =>
  Lookup.mk <$> withDefault fields "find" .null any
    <*> withDefault fields "field" none (nullable text)
    <*> withDefault fields "type" none (nullable text)
    <*> withDefault fields "query" none (nullable text)
    <*> withDefault fields "size" none (nullable (intFrom 0))

/-- Checks a lookup request. -/
def LookupRequest.check (wrong : Flaw) : Check LookupRequest := record wrong fun fields =>
  LookupRequest.mk <$> withDefault fields "query" .null checkQuery
    <*> withDefault fields "variables" [] Template.Variables.check
    <*> withDefault fields "range" .default (TimeRange.check wrong)

/-! ## Wire form -/

/-- The wire form of a time range. -/
def TimeRange.toJson (r : TimeRange) : Json := .obj [("from", .str r.start), ("to", .str r.stop)]

/-- The wire form of a variable's value. -/
def Template.Value.toJson : Template.Value → Json
  | .single text => .str text
  | .multi texts => .arr (texts.map .str)

/-- The wire form of a set of variables. -/
def Template.Variables.toJson (vars : Template.Variables) : Json :=
  .obj (vars.map fun entry => (entry.1, entry.2.toJson))

/-- The wire form of a batch request. -/
def BatchRequest.toJson (r : BatchRequest) : Json :=
  .obj [("queries", .arr (r.queries.map PanelQuery.toJson)),
    ("adhoc_filters", .arr (r.filters.map AdhocFilter.toJson)),
    ("variables", Template.Variables.toJson r.vars), ("range", r.range.toJson),
    ("interval", .str r.interval)]

/-- The wire form of a lookup. -/
def Lookup.toJson (l : Lookup) : Json :=
  .obj [("find", l.find), ("field", .ofText? l.field), ("type", .ofText? l.kind),
    ("query", .ofText? l.query), ("size", .ofInt? l.size)]

/-- The wire form of a lookup request. -/
def LookupRequest.toJson (r : LookupRequest) : Json :=
  .obj [("query", r.query), ("variables", Template.Variables.toJson r.vars),
    ("range", r.range.toJson)]

end ElasticPanels

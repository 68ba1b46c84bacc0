import ElasticPanels.Lookup.Findings
import ElasticPanels.Result.Reply
import ElasticPanels.Search.Payload
import ElasticPanels.Session.MultiSearch

/-!
# The datasource

A datasource answers panel queries and lookups from one index of a search server.
`Datasource.query` answers a batch of panel queries by one multi-search, `Datasource.lookup` lists
fields or terms, and `Datasource.test` says whether the index can be reached.
-/

namespace ElasticPanels

/-- The path of multi-searches. -/
def multiSearchPath : String := "_msearch"

/-- The variables of a request with those that name its time range and interval. -/
def withTimes (vars : Template.Variables) (range : TimeRange) (interval : String) :
    Template.Variables :=
  vars.putAll [("timeFrom", .single range.start), ("timeTo", .single range.stop),
    ("__interval", .single interval)]

/-- The variables of a batch request with those of its time range and interval. -/
def BatchRequest.allVars (request : BatchRequest) : Template.Variables :=
  withTimes request.vars request.range request.interval

/-- The automatic interval of requests that name none. -/
def lookupInterval : String := "1m"

/-- The variables of a lookup request with those of its time range and the automatic interval. -/
def LookupRequest.allVars (request : LookupRequest) : Template.Variables :=
  withTimes request.vars request.range lookupInterval

/-- The lookup with the references in its query expanded for the Lucene syntax. -/
def Lookup.asked (l : Lookup) (vars : Template.Variables) : Lookup :=
  { l with query := some (vars.replace (queryOrAll (l.query.getD "")) "lucene") }

/-- The verdict of a test. -/
structure Verdict where
  reachable : Bool
  message : String
  deriving DecidableEq, Repr, Inhabited

/-- The wire form of a verdict. -/
def Verdict.toJson (v : Verdict) : Json :=
  .obj [("status", .str (if v.reachable then "success" else "error")), ("message", .str v.message)]

/-- An index of a search server. -/
structure Datasource where
  settings : Settings
  connection : Connection
  deriving Repr, Inhabited

namespace Datasource

open Session

variable (d : Datasource)

/-- The path of the mapping of the index. -/
def mappingPath : String := d.settings.index ++ "/_mapping"

/-- The path of a search for terms. -/
def termsPath : String :=
  multiSearchPath ++ "?search_type=" ++ d.settings.version.termsSearchType.name

/-! ## Panel queries -/

/-- Answers the queries that are not hidden, in order.  Nothing is sent if there are none, or if one
of them cannot be built. -/
def runBatch (queries : List PanelQuery) (filters : List AdhocFilter)
    (vars : Template.Variables) : Session (List PanelResult) := do
  let visible := visibleQueries queries
  if visible.isEmpty then return []
  let payload ← ofOutcome (Search.payload d.settings filters vars visible)
  count (.batch visible.length)
  let reply ← multiSearch d.connection .query multiSearchPath (Search.resolved vars payload)
  ofOutcome (results visible reply)

/-- Answers a batch request. -/
def query (request : BatchRequest) : Session (List PanelResult) :=
  d.runBatch request.queries request.filters request.allVars

/-! ## Lookups -/

/-- The fields of the index, perhaps of one kind only.  They are listed by path, in the order chosen
in `Mapping.sorted`, and not in that of the mapping. -/
def mappedFields (l : Lookup) : Session (List FieldDescriptor) := do
  let answer ← d.connection.send "GET" d.mappingPath .nothing
  let fields ← ofOutcome (Mapping.flatten answer.data l.kind)
  note .info "meta_query"
    ("GET " ++ d.mappingPath ++ " -> " ++ toString fields.length ++ " fields")
  return Mapping.sorted fields

/-- The terms of a field among the documents that the query of the lookup selects. -/
def fieldTerms (l : Lookup) (vars : Template.Variables) : Session (List Suggestion) := do
  let payload := Search.resolved vars (Search.termsPayload d.settings l)
  let reply ← multiSearch d.connection .terms d.termsPath payload
  ofOutcome do
    let slots ← reply.entry "responses"
    Suggestion.ofSlot (← slots.item 0) "1"

/-- Looks up what a lookup that is still unread asks for; `none` if it asks for something that is
not offered. -/
def lookup (raw : Json) (vars : Template.Variables) : Session (Option Findings) := do
  match ← ofOutcome (Lookup.read raw) with
  | none => return some .nothing
  | some l =>
    count (.lookup l.target)
    match l.target with
    | .fields => return some (.fields (← d.mappedFields l))
    | .terms => return some (.terms (← d.fieldTerms (l.asked vars) vars))
    | .other => return none

/-- Answers a lookup request. -/
def find (request : LookupRequest) : Session Findings := do
  return (← d.lookup request.query request.allVars).getD .nothing

/-- The fields of one kind, or all fields if the kind is null. -/
def fields (kind : Json) : Session (List FieldDescriptor) := do
  d.mappedFields (← ofOutcome (Lookup.ofKind kind))

/-- All fields. -/
def tagKeys : Session (List FieldDescriptor) := do
  d.mappedFields (← ofOutcome Lookup.ofAll)

/-- All terms of a field. -/
def tagValues (field : Json) : Session (List Suggestion) := do
  d.fieldTerms (← ofOutcome (Lookup.ofField field)) (withTimes [] .default lookupInterval)

section

variable {l : Lookup} {raw : Json} (vars : Template.Variables)

theorem lookup_of_terms (given : Lookup.read raw = .ok (some l)) (terms : l.target = .terms) :
    d.lookup raw vars = (do
      count (.lookup .terms)
      let found ← d.fieldTerms (l.asked vars) vars
      return some (.terms found)) := by
  rw [lookup, given]
  simp only [ofOutcome, pure_bind, terms]

theorem lookup_of_fields (given : Lookup.read raw = .ok (some l)) (fields : l.target = .fields) :
    d.lookup raw vars = (do
      count (.lookup .fields)
      let found ← d.mappedFields l
      return some (.fields found)) := by
  rw [lookup, given]
  simp only [ofOutcome, pure_bind, fields]

theorem lookup_of_other (given : Lookup.read raw = .ok (some l)) (other : l.target = .other) :
    d.lookup raw vars = (do
      count (.lookup .other)
      return none) := by
  rw [lookup, given]
  simp only [ofOutcome, pure_bind, other]

end

theorem find_of_terms {request : LookupRequest} {l : Lookup}
    (given : Lookup.read request.query = .ok (some l)) (terms : l.target = .terms) :
    d.find request = (do
      count (.lookup .terms)
      let found ← d.fieldTerms (l.asked request.allVars) request.allVars
      return .terms found) := by
  rw [find, d.lookup_of_terms _ given terms]
  simp only [bind_assoc, pure_bind, Option.getD_some]

theorem tagValues_eq {field : Json} {l : Lookup} (given : Lookup.ofField field = .ok l) :
    d.tagValues field = d.fieldTerms l (withTimes [] .default lookupInterval) := by
  rw [tagValues, given]
  simp only [ofOutcome, pure_bind]

/-- To list all fields is to list those of no kind in particular. -/
theorem tagKeys_eq : d.tagKeys = d.fields .null := by
  rw [tagKeys, Lookup.ofAll_eq, fields]

/-! ## Reachability -/

/-- The verdict on a request that failed; any other fault stays one. -/
def testFailed (fault : Fault) : Session Verdict := do
  if fault.isFailedRequest then
    let message := (fault.message?).getD ""
    note .warning "datasource"
      ("Datasource test failed for index " ++ d.settings.index ++ ": " ++ message)
    return ⟨false, "Index " ++ d.settings.index ++ " unavailable: " ++ message⟩
  else throw fault

/-- Asks for the mapping of the index to see whether it can be reached. -/
def test : Session Verdict :=
  tryCatch
    (do
      discard (d.connection.send "GET" d.mappingPath .nothing)
      return ⟨true, "Index OK"⟩)
    d.testFailed

end Datasource

end ElasticPanels

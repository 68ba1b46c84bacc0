import ElasticPanels.Engine.Settings
import ElasticPanels.Search.Body

/-!
# Payloads

A payload holds one header line and one body line for each search.  `payload` writes the searches of
the panel queries with their query texts expanded; the variables that the bodies themselves refer to
are resolved by a second pass over the whole text (`resolved`).
-/

namespace ElasticPanels.Search

open Template

/-- One search of a payload. -/
structure Entry where
  header : Header
  body : Body
  deriving Repr, Inhabited

/-- The two lines of a search. -/
def Entry.lines (e : Entry) : List String :=
  [e.header.sentJson.spacedText, e.body.toJson.spacedText]

/-- The text of some lines, each ended by a newline. -/
def unlines (lines : List String) : String := String.join (lines.map (· ++ "\n"))

/-- The text of a list of searches. -/
def write (entries : List Entry) : String := unlines (entries.flatMap Entry.lines)

/-- The query text of a panel query with its references expanded for the Lucene syntax. -/
def expandedText (vars : Variables) (q : PanelQuery) : String :=
  vars.replace (queryOrAll (q.query.getD "")) "lucene"

/-- The search of a panel query. -/
def entry (settings : Settings) (filters : List AdhocFilter) (vars : Variables)
    (q : PanelQuery) : Outcome Entry := do
  let body ← q.body filters (expandedText vars q)
  return ⟨settings.header (settings.version.dataSearchType (body.size = 0)), body⟩

/-- The payload of a list of panel queries. -/
def payload (settings : Settings) (filters : List AdhocFilter) (vars : Variables)
    (queries : List PanelQuery) : Outcome String :=
  return write (← queries.mapM (entry settings filters vars))

/-- The payload of a lookup of terms. -/
def termsPayload (settings : Settings) (l : Lookup) : String :=
  write [⟨settings.header settings.version.termsSearchType, l.termsBody settings.timeField⟩]

/-- The text with the references that are left in it expanded. -/
def resolved (vars : Variables) (text : String) : String := vars.replace text none

end ElasticPanels.Search

import ElasticPanels.Json.Plain
import ElasticPanels.Text.Classes

/-!
# Engine versions

Three tiers of the search engine differ in what a search header may say.  `EngineVersion.parse`
reads a configured version; what it does not recognise counts as the oldest tier.
-/

namespace ElasticPanels

/-- The tiers of the search engine. -/
inductive EngineVersion
  | v2
  | v5
  | v56
  deriving DecidableEq, Repr, Inhabited

/-- How the engine is to run a search. -/
inductive SearchType
  | count
  | queryThenFetch
  deriving DecidableEq, Repr, Inhabited

namespace EngineVersion

/-- The wire number of a tier. -/
def number : EngineVersion → Nat
  | v2 => 2
  | v5 => 5
  | v56 => 56

/-- All tiers. -/
def all : List EngineVersion := [v2, v5, v56]

/-- The tier with a wire number. -/
def ofInt? (n : Int) : Option EngineVersion :=
  all.find? fun version => (version.number : Int) = n

/-- The tier of a configuration that names none. -/
def default : EngineVersion := v5

/-- The spellings of the tiers. -/
def ofSpelling? (spelling : String) : Option EngineVersion :=
  match spelling with
  | "2" | "2.x" => some v2
  | "5" | "5.x" => some v5
  | "56" | "5.6" | "5.6+" => some v56
  | _ => none

/-- Reads a configured version by its plain text; `none` if it is not recognised.  Only ASCII
letters occur in the spellings, so no other letter needs its small form. -/
def recognise? : Json → Option EngineVersion
  | .null => some default
  | raw =>
    let spelling := Text.trim raw.plain
    if spelling.isEmpty then some default else ofSpelling? (Text.lowerAscii spelling)

/-- Reads a configured version; what is not recognised counts as the oldest tier. -/
def parse (raw : Json) : EngineVersion := (recognise? raw).getD v2

/-- The warning about a version that is not recognised. -/
def warning? (raw : Json) : Option String :=
  match recognise? raw with
  | some _ => none
  | none => some ("Unrecognised engine version " ++ raw.literalText ++ ", assuming 2.x")

/-- Whether a search header names the number of concurrent shard requests. -/
def includesShardConcurrency (version : EngineVersion) : Bool := version = v56

/-- Whether the tier still has the search type that only counts. -/
def hasCountSearch (version : EngineVersion) : Bool := version = v2

/-- The search type of a panel query: counting, where the tier has it and no document is asked
for. -/
def dataSearchType (version : EngineVersion) (wantsNothing : Bool) : SearchType :=
  if version.hasCountSearch && wantsNothing then .count else .queryThenFetch

/-- The search type of a lookup of terms. -/
def termsSearchType (version : EngineVersion) : SearchType :=
  if version.hasCountSearch then .count else .queryThenFetch

end EngineVersion

namespace SearchType

/-- The wire name. -/
def name : SearchType → String
  | count => "count"
  | queryThenFetch => "query_then_fetch"

/-- The search type with a wire name. -/
def ofName? (s : String) : Option SearchType :=
  [count, queryThenFetch].find? (·.name = s)

end SearchType

end ElasticPanels

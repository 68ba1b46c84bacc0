import ElasticPanels.Engine.Version
import ElasticPanels.Validation.Checked

/-!
# Settings and search headers

`Settings` says which index is searched and how.  `Header` is the line that stands before the body
of each search of a batch.
-/

namespace ElasticPanels

open Check

/-- The settings of a datasource. -/
structure Settings where
  index : String
  version : EngineVersion
  maxConcurrentShardRequests : Int
  timeField : String
  deriving Repr, Inhabited

/-- Checks an engine version, given by its wire number, which must fit into a word. -/
def EngineVersion.check : Check EngineVersion := fun value =>
  let wrong : Flaw := .notMember (EngineVersion.all.map (toString ·.number))
  match int value with
  | .ok n => match EngineVersion.ofInt? n with
    | some version => .ok version
    | none => .fail (if fitsWord n then wrong else .intTooLong)
  | .bad _ => .fail wrong

/-- Checks settings. -/
def Settings.check (wrong : Flaw) : Check Settings := record wrong fun fields =>
  Settings.mk <$> required fields "index" text
    <*> withDefault fields "version" .default EngineVersion.check
    <*> withDefault fields "max_concurrent_shard_requests" 256 (intFrom 1)
    <*> withDefault fields "time_field" "@timestamp" text

/-- The wire form of settings. -/
def Settings.toJson (s : Settings) : Json :=
  .obj [("index", .str s.index), ("version", .int s.version.number),
    ("max_concurrent_shard_requests", .int s.maxConcurrentShardRequests),
    ("time_field", .str s.timeField)]

/-- The line before the body of a search. -/
structure Header where
  searchType : String
  ignoreUnavailable : Bool
  index : String
  maxConcurrentShardRequests : Option Int
  deriving Repr, Inhabited

/-- Checks a search header. -/
def Header.check (wrong : Flaw) : Check Header := record wrong fun fields =>
  Header.mk <$> required fields "search_type" text
    <*> withDefault fields "ignore_unavailable" true bool
    <*> required fields "index" text
    <*> withDefault fields "max_concurrent_shard_requests" none (nullable int)

/-- The wire form of a header with all its fields. -/
def Header.toJson (h : Header) : Json :=
  .obj [("search_type", .str h.searchType), ("ignore_unavailable", .bool h.ignoreUnavailable),
    ("index", .str h.index),
    ("max_concurrent_shard_requests", .ofInt? h.maxConcurrentShardRequests)]

/-- The header as it is sent, without the field that says nothing. -/
def Header.sentJson (h : Header) : Json :=
  .obj ([("search_type", .str h.searchType), ("ignore_unavailable", .bool h.ignoreUnavailable),
    ("index", .str h.index)] ++
    match h.maxConcurrentShardRequests with
    | some n => [("max_concurrent_shard_requests", .int n)]
    | none => [])

/-- The header of a search under the given settings. -/
def Settings.header (s : Settings) (searchType : SearchType) : Header where
  searchType := searchType.name
  ignoreUnavailable := true
  index := s.index
  maxConcurrentShardRequests :=
    if s.version.includesShardConcurrency then some s.maxConcurrentShardRequests else none

end ElasticPanels

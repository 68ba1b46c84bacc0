import ElasticPanels.Datasource

/-!
# Configuration

The service is configured by variables of its environment, each with a default.  `Config.read` reads
them in a fixed order, so of two unusable values the one that comes first is reported.
-/

namespace ElasticPanels

/-- The configuration of the service. -/
structure Config where
  url : String
  index : String
  version : String
  maxConcurrentShardRequests : Int
  timeField : String
  username : Option String
  password : Option String
  timeout : Binary64
  deriving DecidableEq, Repr, Inhabited

namespace Config

/-- The number that a text writes. -/
def readNumber (s : String) : Outcome Binary64 :=
  match Numeral.readFloat? s with
  | some x => .ok x
  | none => .error (.notNumber s)

/-- Reads the configuration from the variables of the environment, none of which holds a NUL. -/
def read (environment : Entries String) : Outcome Config := do
  if environment.any fun entry => entry.2.toList.contains '\x00' then throw .nulInVariable
  let valueOf (name default : String) : String := (environment.get? name).getD default
  let nonEmpty (name : String) : Option String := (environment.get? name).filter (!·.isEmpty)
  let maximum ← (Json.str (valueOf "ES_MAX_CONCURRENT_SHARD_REQUESTS" "256")).wholeNumber
  let timeout ← readNumber (valueOf "ES_TIMEOUT" "30")
  return {
    url := valueOf "ES_URL" "http://elasticsearch:9200"
    index := valueOf "ES_INDEX" "logstash-*"
    version := valueOf "ES_VERSION" "5"
    maxConcurrentShardRequests := maximum
    timeField := valueOf "ES_TIME_FIELD" "@timestamp"
    username := nonEmpty "ES_USERNAME"
    password := nonEmpty "ES_PASSWORD"
    timeout }

/-- The settings of the datasource, which ask for one shard request at least. -/
def settings (c : Config) : Outcome Settings :=
  (Settings.check .notRecord (.obj [("index", .str c.index),
    ("version", .int (EngineVersion.parse (.str c.version)).number),
    ("max_concurrent_shard_requests", .int c.maxConcurrentShardRequests),
    ("time_field", .str c.timeField)])).outcome "DatasourceSettings"

/-- The connection to the configured server. -/
def connection (c : Config) : Connection := ⟨c.url, c.username, c.password, []⟩

/-- The wire form of the configuration. -/
def toJson (c : Config) : Json :=
  .obj [("ES_URL", .str c.url), ("ES_INDEX", .str c.index), ("ES_VERSION", .str c.version),
    ("ES_MAX_CONCURRENT_SHARD_REQUESTS", .int c.maxConcurrentShardRequests),
    ("ES_TIME_FIELD", .str c.timeField), ("ES_USERNAME", .ofText? c.username),
    ("ES_PASSWORD", .ofText? c.password), ("ES_TIMEOUT", .float c.timeout)]

end Config

end ElasticPanels

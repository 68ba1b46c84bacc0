import ElasticPanels.Service.Incoming

/-!
# Endpoints

Each endpoint of the service has one path and one method.  The service also has pages that describe
it.
-/

namespace ElasticPanels

/-- The endpoints. -/
inductive Endpoint
  | query
  | find
  | fields
  | tagKeys
  | tagValues
  | test
  | health
  | counters
  | config
  | metrics
  deriving DecidableEq, Repr, Inhabited

namespace Endpoint

/-- All endpoints. -/
def all : List Endpoint :=
  [query, find, fields, tagKeys, tagValues, test, health, counters, config, metrics]

/-- The path of an endpoint. -/
def path : Endpoint → String
  | query => "/api/query"
  | find => "/api/metric-find"
  | fields => "/api/fields"
  | tagKeys => "/api/tag-keys"
  | tagValues => "/api/tag-values"
  | test => "/api/test"
  | health => "/health"
  | counters => "/api/health"
  | config => "/api/config"
  | metrics => "/metrics"

/-- The method of an endpoint: those that take a body are posted to. -/
def method : Endpoint → String
  | query | find => "POST"
  | _ => "GET"

/-- The endpoint with a path. -/
def ofPath? (path : String) : Option Endpoint := all.find? (·.path = path)

/-- The paths of the pages that describe the service. -/
def pagePaths : List String := ["/docs", "/docs/oauth2-redirect", "/openapi.json", "/redoc"]

/-- Whether there is an endpoint or a page with a path. -/
def isKnownPath (path : String) : Bool := (ofPath? path).isSome || pagePaths.contains path

end Endpoint

end ElasticPanels

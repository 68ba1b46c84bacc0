import ElasticPanels.Datasource
import ElasticPanels.Engine.Settings
import ElasticPanels.Engine.Version
import ElasticPanels.Entries
import ElasticPanels.Fault
import ElasticPanels.Http.CookieDate
import ElasticPanels.Http.CookieJar
import ElasticPanels.Http.HostLabel
import ElasticPanels.Http.IpAddress
import ElasticPanels.Http.LabelDirections
import ElasticPanels.Http.LabelRanges
import ElasticPanels.Http.Message
import ElasticPanels.Http.Reference
import ElasticPanels.Http.SetCookie
import ElasticPanels.Http.Status
import ElasticPanels.Http.Url
import ElasticPanels.Json.Basic
import ElasticPanels.Json.Obstacle
import ElasticPanels.Proofs.JsonPaths
import ElasticPanels.Json.Plain
import ElasticPanels.Json.Printer
import ElasticPanels.Json.Reader
import ElasticPanels.Json.ScalarKeys
import ElasticPanels.Lookup.Findings
import ElasticPanels.Lookup.Request
import ElasticPanels.Lookup.Suggestion
import ElasticPanels.Mapping.Category
import ElasticPanels.Mapping.Declaration
import ElasticPanels.Mapping.Listing
import ElasticPanels.Number.Binary64
import ElasticPanels.Number.Numeral
import ElasticPanels.Number.Shortest
import ElasticPanels.Panel.Query
import ElasticPanels.Panel.Request
import ElasticPanels.Result.Alias
import ElasticPanels.Result.Documents
import ElasticPanels.Result.Reply
import ElasticPanels.Result.Series
import ElasticPanels.Result.SeriesName
import ElasticPanels.Search.Body
import ElasticPanels.Search.Buckets
import ElasticPanels.Search.Conditions
import ElasticPanels.Search.Payload
import ElasticPanels.Service.Config
import ElasticPanels.Service.Cookies
import ElasticPanels.Service.Endpoint
import ElasticPanels.Service.Handler
import ElasticPanels.Service.Incoming
import ElasticPanels.Service.Response
import ElasticPanels.Session.Basic
import ElasticPanels.Session.Connection
import ElasticPanels.Session.MultiSearch
import ElasticPanels.Telemetry
import ElasticPanels.Template.Format
import ElasticPanels.Template.Reference
import ElasticPanels.Template.Variables
import ElasticPanels.Text.Base64
import ElasticPanels.Text.Case
import ElasticPanels.Text.CaseShifts
import ElasticPanels.Text.Classes
import ElasticPanels.Text.CodeRanges
import ElasticPanels.Text.Composition
import ElasticPanels.Text.Compositions
import ElasticPanels.Text.Cut
import ElasticPanels.Text.Encoding
import ElasticPanels.Text.HiddenRanges
import ElasticPanels.Text.Pattern
import ElasticPanels.Text.Percent
import ElasticPanels.Text.Punycode
import ElasticPanels.Text.Quoted
import ElasticPanels.Text.Scan
import ElasticPanels.Text.Surrogate
import ElasticPanels.Text.Utf8
import ElasticPanels.Text.Wide
import ElasticPanels.Text.WordRanges
import ElasticPanels.Validation.Checked
import ElasticPanels.Validation.Issue
import ElasticPanels.Validation.Report
import ElasticPanels.Proofs.Rounding
import ElasticPanels.Proofs.ShortestDecimal
import ElasticPanels.Proofs.NumberText
import ElasticPanels.Proofs.JsonLayout
import ElasticPanels.Proofs.JsonText
import ElasticPanels.Proofs.PayloadLines
import ElasticPanels.Proofs.ResolvedLines
import ElasticPanels.Proofs.SentLines
import ElasticPanels.Proofs.SlotAnswers
import ElasticPanels.Proofs.Checks
import ElasticPanels.Proofs.Batches
import ElasticPanels.Proofs.ReportedErrors
import ElasticPanels.Proofs.RequestedAggregations
import ElasticPanels.Proofs.PlainValues
import ElasticPanels.Proofs.QueryText
import ElasticPanels.Proofs.Addresses
import ElasticPanels.Proofs.Exchanges
import ElasticPanels.Proofs.MultiSearches
import ElasticPanels.Proofs.Samples
import ElasticPanels.Proofs.Operations
import ElasticPanels.Proofs.Accounting
import ElasticPanels.Proofs.HiddenQueries
import ElasticPanels.Proofs.WritableTexts
import ElasticPanels.Proofs.Endings
import ElasticPanels.Proofs.Requests
import ElasticPanels.Proofs.FailedRequests
import ElasticPanels.Proofs.BlamedLookups
import ElasticPanels.Proofs.Replacement
import ElasticPanels.Proofs.LookupSpellings
import ElasticPanels.Proofs.ComposedRuns
import ElasticPanels.Proofs.ComposedRequests
import ElasticPanels.Proofs.RequestOrder
import ElasticPanels.Proofs.Overrides
import ElasticPanels.Proofs.LuceneValues
import ElasticPanels.Proofs.RegexValues
import ElasticPanels.Proofs.FieldListings
import ElasticPanels.Proofs.KeyOrder
import ElasticPanels.Proofs.FilterMeaning
import ElasticPanels.Proofs.BucketChains
import ElasticPanels.Proofs.DocumentQueries
import ElasticPanels.Proofs.AliasParts
import ElasticPanels.Proofs.QueryDefaults
import ElasticPanels.Proofs.TimeVariables
import ElasticPanels.Proofs.Redirections
import ElasticPanels.Proofs.UnbuiltBatches
import ElasticPanels.Proofs.NamedLookups
import ElasticPanels.Proofs.Verdicts
import ElasticPanels.Proofs.WrittenResults

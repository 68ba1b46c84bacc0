import ElasticPanels.Proofs.ComposedRuns
import ElasticPanels.Proofs.Requests

/-!
# Requests as composed operations

Each operation asks for one resource at most (`Operation.resource?`), and all that a request to the
service does is composed of asking for that of the operation which it asks for
(`Service.composed_handle`).  Only the two endpoints that show the counters look at more of the
session than that (`Incoming.ReadsCounters`).
-/

namespace ElasticPanels

open Session

/-! ## Operations of a datasource -/

/-- The resource that the operation asks for, if it asks for any. -/
def Operation.resource? (d : Datasource) : Operation → Option String
  | batch .. => some multiSearchPath
  | lookup raw _ =>
    match Lookup.read raw with
    | .ok (some l) =>
      match l.target with
      | .fields => some d.mappingPath
      | .terms => some d.termsPath
      | .other => none
    | _ => none
  | tagValues _ => some d.termsPath
  | fields _ | tagKeys | test => some d.mappingPath

section

variable {asks : Connection → String → Prop} {c : Connection} {path : String}

theorem Connection.composed_send (asked : asks c path) (method : String) (content : Http.Content) :
    Composed asks true (c.send method path content) := by
  rw [c.send_eq]
  exact .bind (.exchange asked method content) fun _ => .ofOutcome _

theorem Session.composed_searchFailed {α : Type} (kind : SearchKind) (path : String)
    (fault : Fault) : Composed asks true (searchFailed kind path fault : Session α) := by
  cases fault with
  | rejected rejection =>
    rw [searchFailed]
    cases rejection.engineError? with
    | some error =>
      exact .bind (.count _) fun _ => .bind (.note _ _ _) fun _ => composed_throw _
    | none => exact .bind (.count _) fun _ => composed_throw _
  | unreachable => exact .bind (.count _) fun _ => composed_throw _
  | _ => exact composed_throw _

theorem Session.composed_multiSearch (asked : asks c path) (kind : SearchKind) (payload : String) :
    Composed asks true (multiSearch c kind path payload) :=
  .bind (.count _) fun _ =>
    .bind (.tryCatch (c.composed_send asked _ _) (composed_searchFailed kind path)) fun _ =>
      .bind (.note _ _ _) fun _ => composed_pure _

namespace Datasource

variable {d : Datasource}

theorem composed_runBatch (asked : asks d.connection multiSearchPath) (queries : List PanelQuery)
    (filters : List AdhocFilter) (vars : Template.Variables) :
    Composed asks true (d.runBatch queries filters vars) := by
  rw [runBatch]
  split
  · exact composed_pure _
  · exact .bind (.ofOutcome _) fun payload => .bind (.count _) fun _ =>
      .bind (composed_multiSearch asked _ _) fun _ => .ofOutcome _

theorem composed_mappedFields (asked : asks d.connection d.mappingPath) (l : Lookup) :
    Composed asks true (d.mappedFields l) :=
  .bind (d.connection.composed_send asked _ _) fun _ => .bind (.ofOutcome _) fun _ =>
    .bind (.note _ _ _) fun _ => composed_pure _

theorem composed_fieldTerms (asked : asks d.connection d.termsPath) (l : Lookup)
    (vars : Template.Variables) : Composed asks true (d.fieldTerms l vars) :=
  .bind (composed_multiSearch asked _ _) fun _ => .ofOutcome _

theorem composed_lookup {raw : Json} {vars : Template.Variables}
    (asked : ∀ path ∈ (Operation.lookup raw vars).resource? d, asks d.connection path) :
    Composed asks true (d.lookup raw vars) := by
  rcases given : Lookup.read raw with fault | _ | l
  · rw [lookup, given]
    exact composed_throw _
  · rw [lookup, given]
    exact composed_pure _
  · rw [Operation.resource?, given] at asked
    cases target : l.target with
    | fields =>
      rw [d.lookup_of_fields vars given target]
      exact .bind (.count _) fun _ =>
        .bind (composed_mappedFields (asked _ (by simp [target])) l) fun _ => composed_pure _
    | terms =>
      rw [d.lookup_of_terms vars given target]
      exact .bind (.count _) fun _ =>
        .bind (composed_fieldTerms (asked _ (by simp [target])) _ _) fun _ => composed_pure _
    | other =>
      rw [d.lookup_of_other vars given target]
      exact .bind (.count _) fun _ => composed_pure _

theorem composed_fields (asked : asks d.connection d.mappingPath) (kind : Json) :
    Composed asks true (d.fields kind) :=
  .bind (.ofOutcome _) fun l => composed_mappedFields asked l

theorem composed_tagKeys (asked : asks d.connection d.mappingPath) :
    Composed asks true d.tagKeys :=
  .bind (.ofOutcome _) fun l => composed_mappedFields asked l

theorem composed_tagValues (asked : asks d.connection d.termsPath) (field : Json) :
    Composed asks true (d.tagValues field) :=
  .bind (.ofOutcome _) fun l => composed_fieldTerms asked l _

theorem composed_test (asked : asks d.connection d.mappingPath) : Composed asks true d.test := by
  refine .tryCatch (.bind (.map (d.connection.composed_send asked _ _) _) fun _ =>
    composed_pure _) fun fault => ?_
  rw [testFailed]
  split
  · exact .bind (.note _ _ _) fun _ => composed_pure _
  · exact composed_throw _

end Datasource

end

/-! ## Responses -/

namespace Response

variable {asks : Connection → String → Prop} {shares : Bool}

theorem composed_ofJson (code : ℕ) (value : Json) : Composed asks shares (ofJson code value) :=
  .bind (.ofOutcome _) fun _ => composed_pure _

theorem composed_detail (code : ℕ) (text : String) : Composed asks shares (detail code text) :=
  composed_ofJson _ _

theorem composed_ofResult (value : Json) : Composed asks shares (ofResult value) := by
  rw [ofResult]
  split
  · exact composed_throw _
  · exact composed_throw _
  · exact composed_pure _

theorem composed_unprocessable (request : Json) (issues : List Issue) :
    Composed asks shares (unprocessable request issues) := by
  rw [unprocessable]
  split
  · exact .bind (composed_throw _) fun _ => .bind (.ofOutcome _) fun _ => composed_pure _
  · exact .bind (.ofOutcome _) fun _ => composed_pure _

theorem composed_ofFault (fault : Fault) : Composed asks shares (ofFault fault) := by
  cases fault with
  | engine error =>
    rw [ofFault]
    split
    · exact composed_ofJson _ _
    · exact composed_throw _
  | rejected rejection =>
    rw [ofFault]
    split
    · exact composed_detail _ _
    · exact composed_detail _ _
  | unreachable => exact composed_detail _ _
  | _ => exact composed_throw _

theorem composed_ofLookupFault (fault : Fault) : Composed asks shares (ofLookupFault fault) := by
  rw [ofLookupFault]
  split
  · exact composed_detail _ _
  · exact composed_throw _

end Response

/-- An operation asks for nothing but its resource. -/
theorem Operation.composed_respond {d : Datasource} {asks : Connection → String → Prop}
    (operation : Operation) (asked : ∀ path ∈ operation.resource? d, asks d.connection path) :
    Composed asks true (operation.respond d) := by
  cases operation with
  | batch queries filters vars =>
    exact .bind (Datasource.composed_runBatch (asked _ rfl) _ _ _) fun _ =>
      Response.composed_ofResult _
  | lookup raw vars =>
    refine .bind (.tryCatch (.map (.bind (Datasource.composed_lookup asked) fun _ =>
      composed_pure _) _) fun _ => composed_pure _) fun ended => ?_
    cases ended with
    | ok found => exact Response.composed_ofResult _
    | error fault => exact Response.composed_ofLookupFault _
  | tagValues field =>
    exact .bind (Datasource.composed_tagValues (asked _ rfl) _) fun _ =>
      Response.composed_ofResult _
  | fields kind =>
    exact .bind (Datasource.composed_fields (asked _ rfl) _) fun _ => Response.composed_ofResult _
  | tagKeys =>
    exact .bind (Datasource.composed_tagKeys (asked _ rfl)) fun _ => Response.composed_ofResult _
  | test =>
    exact .bind (Datasource.composed_test (asked _ rfl)) fun _ => Response.composed_ofJson _ _

/-! ## Requests -/

/-- The request asks for what has been counted. -/
def Incoming.ReadsCounters (r : Incoming) : Prop :=
  r.method = "GET" ∧ (r.path = "/metrics" ∨ r.path = "/api/health")

namespace Service

variable (s : Service) (r : Incoming)

/-- The resource is that of the operation that the request asks for, on the server that it names. -/
def Directs (c : Connection) (path : String) : Prop :=
  ∃ override operation, r.override = .ok override ∧ r.Asks operation ∧
    c = (s.datasourceOf override).connection ∧
    operation.resource? (s.datasourceOf override) = some path

/-- Warns of an engine version that is not known. -/
def warnOfVersion : Session Unit :=
  match EngineVersion.warning? (.str s.config.version) with
  | some text => note .warning "version_policy" text
  | none => return

theorem datasource_bind {α : Type} (c : Connection) (f : Datasource → Session α) :
    s.datasource (some c) >>= f = (do
      s.warnOfVersion
      ofOutcome c.check
      f (s.datasourceOf (some c))) := by
  rw [datasource, warnOfVersion]
  cases EngineVersion.warning? (.str s.config.version) <;> simp [datasourceOf]

variable {s r} {asks : Connection → String → Prop} {shares : Bool}

theorem composed_warnOfVersion : Composed asks shares s.warnOfVersion := by
  rw [warnOfVersion]
  split
  · exact .note _ _ _
  · exact composed_pure _

/-- A request that names a connection is run apart, so that it need not share the jar. -/
theorem composed_withDatasource {α : Type} {body : Option Json} {argument : Checked α}
    {operation : Datasource → α → Session Response}
    (own : shares = true ∨ r.override ≠ .ok none)
    (composed : ∀ override a, r.override = .ok override → argument = .ok a →
      Composed asks true (operation (s.datasourceOf override) a)) :
    Composed asks shares (s.withDatasource r body argument operation) := by
  have answer {override : Option Connection} {a : α} (named : r.override = .ok override)
      (checked : argument = .ok a) : Composed asks true
        (tryCatch (operation (s.datasourceOf override) a) Response.ofFault) :=
    .tryCatch (composed override a named checked) Response.composed_ofFault
  rw [withDatasource]
  cases named : r.override with
  | bad issues => exact Response.composed_unprocessable _ _
  | ok override =>
    cases override with
    | none =>
      obtain rfl : shares = true := own.resolve_right fun ne => ne named
      cases checked : argument with
      | bad issues => exact Response.composed_unprocessable _ _
      | ok a => exact answer named checked
    | some c =>
      dsimp only
      rw [datasource_bind]
      refine .bind composed_warnOfVersion fun _ => .bind (.ofOutcome _) fun _ => ?_
      cases checked : argument with
      | bad issues => exact Response.composed_unprocessable _ _
      | ok a => exact .apart (answer named checked)

theorem composed_withBody {α : Type} {check : Flaw → Check α}
    {operation : Datasource → α → Session Response}
    (own : shares = true ∨ r.override ≠ .ok none)
    (composed : ∀ override value a, r.override = .ok override → r.json = .ok value →
      r.checkBody check value = .ok a →
      Composed asks true (operation (s.datasourceOf override) a)) :
    Composed asks shares (s.withBody r check operation) := by
  rw [withBody]
  split
  · exact Response.composed_unprocessable _ _
  · exact Response.composed_detail _ _
  · rename_i value read
    exact composed_withDatasource own fun override a named checked =>
      composed override value a named read checked

theorem composed_of_asks {override : Option Connection} {operation : Operation}
    {x : Session Response} (named : r.override = .ok override) (asks : r.Asks operation)
    (responds : operation.respond (s.datasourceOf override) = x) : Composed (s.Directs r) true x :=
  responds ▸ operation.composed_respond fun _ found =>
    ⟨override, operation, named, asks, rfl, found⟩

theorem path_of_ofPath? {path : String} {endpoint : Endpoint}
    (h : Endpoint.ofPath? path = some endpoint) : endpoint.path = path := by
  simpa using List.find?_some h

/-- What an endpoint does is composed of asking for the resource of the operation that a request
asks for. -/
theorem composed_serve {endpoint : Endpoint} (path : Endpoint.ofPath? r.path = some endpoint)
    (method : r.method = endpoint.method) (unread : ¬ r.ReadsCounters)
    (own : shares = true ∨ r.override ≠ .ok none) :
    Composed (s.Directs r) shares (s.serve endpoint r) := by
  cases endpoint with
  | query =>
    rw [serve]
    exact composed_withBody own fun _ _ _ named read checked =>
      composed_of_asks named (.query path method read checked) rfl
  | find =>
    rw [serve]
    exact composed_withBody own fun _ _ _ named read checked =>
      composed_of_asks named (.find path method read checked) rfl
  | fields =>
    rw [serve]
    refine composed_withDatasource own fun _ _ named checked => ?_
    cases checked
    exact composed_of_asks named (.fields path method) rfl
  | tagKeys =>
    rw [serve]
    exact composed_withDatasource own fun _ _ named _ =>
      composed_of_asks named (.tagKeys path method) rfl
  | tagValues =>
    rw [serve]
    exact composed_withDatasource own fun _ _ named checked =>
      composed_of_asks named (.tagValues path method checked) rfl
  | test =>
    rw [serve]
    exact composed_withDatasource own fun _ _ named _ =>
      composed_of_asks named (.test path method) rfl
  | health => exact Response.composed_ofJson _ _
  | config => exact Response.composed_ofJson _ _
  | counters => exact absurd ⟨method, .inr (path_of_ofPath? path).symm⟩ unread
  | metrics => exact absurd ⟨method, .inl (path_of_ofPath? path).symm⟩ unread

/-- What the service does with a request is composed of asking for the resource of the operation
that the request asks for. -/
theorem composed_handle (unread : ¬ r.ReadsCounters)
    (own : shares = true ∨ r.override ≠ .ok none) : Composed (s.Directs r) shares (s.handle r) := by
  rw [handle]
  cases path : Endpoint.ofPath? r.path with
  | some endpoint =>
    dsimp only
    split
    · rename_i method
      exact composed_serve path method.symm unread own
    · exact Response.composed_detail _ _
  | none =>
    dsimp only
    split
    · split
      · exact composed_pure _
      · exact Response.composed_detail _ _
    · split
      · exact composed_pure _
      · exact Response.composed_detail _ _

/-! ## Responses to requests -/

/-- In a session that has come as far as the journal, the request gets the answer, and the requests
`new` are sent for it. -/
def Responds (s : Service) (r : Incoming) (j : Journal) (answer : Outcome Response)
    (new : List Http.Request) : Prop :=
  ((s.handle r).run.run j).1 = answer ∧ ((s.handle r).run.run j).2.sent = j.sent ++ new

end Service

end ElasticPanels

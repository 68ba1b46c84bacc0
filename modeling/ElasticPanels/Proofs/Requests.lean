import ElasticPanels.Proofs.Endings
import ElasticPanels.Proofs.WritableTexts
import ElasticPanels.Service.Handler

/-!
# Requests for operations

A request that passes its checks asks for one operation (`Incoming.Asks`), and all that is done for
it is done on its own datasource (`Service.handle_of_asks`).  How the operation ends settles the
response (`Service.handle_of_accepts`): a result is written out, and a fault goes to
`Response.ofFault`, after a lookup only if it is not the client's mistake (`Operation.reply`).
-/

namespace ElasticPanels

open Session

/-! ## What is asked for -/

/-- The request passes its checks and asks for the operation. -/
inductive Incoming.Asks (r : Incoming) : Operation → Prop
  | query (path : Endpoint.ofPath? r.path = some .query) (method : r.method = "POST")
      {value : Option Json} (read : r.json = .ok value) {request : BatchRequest}
      (checked : r.checkBody BatchRequest.check value = .ok request) :
    Asks r (.batch request.queries request.filters request.allVars)
  | find (path : Endpoint.ofPath? r.path = some .find) (method : r.method = "POST")
      {value : Option Json} (read : r.json = .ok value) {request : LookupRequest}
      (checked : r.checkBody LookupRequest.check value = .ok request) :
    Asks r (.lookup request.query request.allVars)
  | fields (path : Endpoint.ofPath? r.path = some .fields) (method : r.method = "GET") :
    Asks r (.fields (Json.ofText? (r.parameter? "type")))
  | tagKeys (path : Endpoint.ofPath? r.path = some .tagKeys) (method : r.method = "GET") :
    Asks r .tagKeys
  | tagValues (path : Endpoint.ofPath? r.path = some .tagValues) (method : r.method = "GET")
      {field : String} (checked : Service.checkKey r = .ok field) : Asks r (.tagValues field)
  | test (path : Endpoint.ofPath? r.path = some .test) (method : r.method = "GET") : Asks r .test

/-- The datasource of a request that names a connection, or none. -/
def Service.datasourceOf (s : Service) (override : Option Connection) : Datasource :=
  ⟨s.settings, override.getD s.config.connection⟩

/-- The request asks for the operation.  If it names a connection, then one that can be opened. -/
structure Service.Accepts (r : Incoming) (override : Option Connection) (operation : Operation) :
    Prop where
  named : r.override = .ok override
  opened : ∀ c ∈ override, c.check = .ok ()
  asks : r.Asks operation

/-- The journal with which the operation of a request begins: a connection for the request alone
has no cookies yet. -/
def Journal.opened (override : Option Connection) (j : Journal) : Journal :=
  if override.isSome then { j with jar := .empty } else j

/-! ## What is responded -/

namespace Operation

/-- The response to what the operation ends in; a fault of a lookup may have one, too. -/
def reply (operation : Operation) : Outcome Json → Session Response
  | .ok value =>
    match operation with
    | test => Response.ofJson 200 value
    | _ => Response.ofResult value
  | .error fault =>
    match operation with
    | lookup .. => Response.ofLookupFault fault
    | _ => throw fault

/-- The operation, with the response to it. -/
def respond (d : Datasource) : Operation → Session Response
  | batch queries filters vars => do
    Response.ofResult (PanelResult.responseJson (← d.runBatch queries filters vars))
  | lookup raw vars => do
    match ← tryCatch (Except.ok <$> do return (← d.lookup raw vars).getD .nothing)
        (pure ∘ Except.error) with
    | .ok found => Response.ofResult found.toJson
    | .error fault => Response.ofLookupFault fault
  | tagValues field => do
    Response.ofResult (Findings.terms (← d.tagValues (.str field))).toJson
  | fields kind => do Response.ofResult (Findings.fields (← d.fields kind)).toJson
  | tagKeys => do Response.ofResult (Findings.fields (← d.tagKeys)).toJson
  | test => do Response.ofJson 200 (← d.test).toJson

end Operation

namespace Session

variable {α β : Type}

theorem run_bind_eq (x : Session α) (f : α → Session β) (j : Journal) :
    (x >>= f).run.run j = (match (x.run.run j).1 with
      | .ok a => f a
      | .error fault => throw fault : Session β).run.run (x.run.run j).2 := by
  rcases run : x.run.run j with ⟨_ | a, k⟩
  · exact run_bind_of_error run
  · exact run_bind_of_ok run

/-- An operation whose ending is looked at, be it a fault or not. -/
theorem run_ended (x : Session α) (f : Outcome α → Session β) (j : Journal) :
    (tryCatch (Except.ok <$> x) (pure ∘ Except.error) >>= f).run.run j =
      (f (x.run.run j).1).run.run (x.run.run j).2 := by
  have mapped := run_map_eq (Except.ok (ε := Fault)) x j
  rcases run : x.run.run j with ⟨fault | a, k⟩
  · rw [run] at mapped
    have ended : (tryCatch (Except.ok <$> x) (pure ∘ Except.error)).run.run j =
        (.ok (.error fault), k) := run_tryCatch_of_error mapped
    exact run_bind_of_ok ended
  · rw [run] at mapped
    exact run_bind_of_ok (run_tryCatch_of_ok mapped)

end Session

namespace Operation

variable {d : Datasource}

theorem run_respond_of_result {operation : Operation} (j : Journal)
    (responds : operation.respond d = operation.result d >>= Response.ofResult)
    (plain : ∀ fault, operation.reply (.error fault) = throw fault)
    (written : ∀ value, operation.reply (.ok value) = Response.ofResult value) :
    ∃ k, (operation.respond d).run.run j =
      (operation.reply ((operation.result d).run.run j).1).run.run k := by
  rw [responds, run_bind_eq]
  rcases (operation.result d).run.run j with ⟨fault | value, k⟩
  · exact ⟨k, by rw [plain]⟩
  · exact ⟨k, by rw [written]⟩

/-- The response is that to what the operation ends in. -/
theorem run_respond (operation : Operation) (j : Journal) :
    ∃ k, (operation.respond d).run.run j =
      (operation.reply ((operation.result d).run.run j).1).run.run k := by
  cases operation with
  | lookup raw vars =>
    have found : (do return (← d.lookup raw vars).getD .nothing : Session Findings).run.run j =
        (((d.lookup raw vars).run.run j).1.map (·.getD .nothing),
          ((d.lookup raw vars).run.run j).2) := by
      rw [bind_pure_comp, run_map_eq]
    refine ⟨((d.lookup raw vars).run.run j).2, ?_⟩
    rw [respond, run_ended, found, result, run_map_eq]
    cases ((d.lookup raw vars).run.run j).1 <;> rfl
  | test =>
    refine ⟨(d.test.run.run j).2, ?_⟩
    rw [respond, run_bind_eq, result, run_map_eq]
    cases (d.test.run.run j).1 <;> rfl
  | _ =>
    refine run_respond_of_result j ?_ (fun _ => rfl) (fun _ => rfl)
    rw [result, bind_map_left]
    rfl

end Operation

/-! ## From the request to the response -/

namespace Service

variable {s : Service} {r : Incoming} {override : Option Connection} {operation : Operation}

theorem run_datasource (opened : ∀ c ∈ override, c.check = .ok ()) (j : Journal) :
    ∃ log, (s.datasource override).run.run j = (.ok (s.datasourceOf override), { j with log }) := by
  cases override with
  | none => exact ⟨_, rfl⟩
  | some c =>
    have open_ : c.check = .ok () := opened c rfl
    rw [datasource]
    cases EngineVersion.warning? (.str s.config.version) <;>
    · simp only [open_]
      exact ⟨_, rfl⟩

/-- The response `answer` is that of the operation, which begins with the journal `j`. -/
def IsReplyOf (d : Datasource) (operation : Operation) (j : Journal) (answer : Outcome Response) :
    Prop :=
  ∃ i k : Journal, i.fresh = j.fresh ∧ answer = ((tryCatch
    (operation.reply ((operation.result d).run.run i).1) Response.ofFault).run.run k).1

theorem isReplyOf_respond (d : Datasource) (operation : Operation) {i j : Journal}
    (same : i.fresh = j.fresh) :
    IsReplyOf d operation j ((tryCatch (operation.respond d) Response.ofFault).run.run i).1 := by
  obtain ⟨k, run⟩ := operation.run_respond (d := d) i
  refine ⟨i, k, same, ?_⟩
  rcases ended : (operation.reply ((operation.result d).run.run i).1).run.run k with ⟨_ | a, k'⟩
  · rw [run_tryCatch_of_error (run.trans ended), run_tryCatch_of_error ended]
  · rw [run_tryCatch_of_ok (run.trans ended), run_tryCatch_of_ok ended]

/-- What is done for a request that has passed its checks. -/
def answerOn (s : Service) (override : Option Connection) (x : Datasource → Session Response) :
    Session Response := do
  let d ← s.datasource override
  let answer := tryCatch (x d) Response.ofFault
  if override.isSome then Session.apart answer else answer

theorem isReplyOf_answerOn (opened : ∀ c ∈ override, c.check = .ok ()) (j : Journal) :
    IsReplyOf (s.datasourceOf override) operation (j.opened override)
      ((s.answerOn override (operation.respond ·)).run.run j).1 := by
  obtain ⟨log, found⟩ := run_datasource (s := s) opened j
  have same : (({ j with log } : Journal).opened override).fresh = (j.opened override).fresh := by
    rw [Journal.opened, Journal.opened]
    split_ifs <;> rfl
  have reply := isReplyOf_respond (s.datasourceOf override) operation same
  rw [answerOn, run_bind_of_ok found]
  cases override with
  | none => exact reply
  | some c => exact reply

section

variable {α : Type} {a : α} {f : Datasource → α → Session Response}

theorem withDatasource_of_ok {body : Option Json} {argument : Checked α}
    (named : r.override = .ok override) (checked : argument = .ok a) :
    s.withDatasource r body argument f = s.answerOn override (f · a) := by
  rw [withDatasource, named, checked]
  rfl

theorem withBody_of_ok {check : Flaw → Check α} {value : Option Json}
    (read : r.json = .ok value) (named : r.override = .ok override)
    (checked : r.checkBody check value = .ok a) :
    s.withBody r check f = s.answerOn override (f · a) := by
  rw [withBody, read]
  exact withDatasource_of_ok named checked

end

theorem handle_of_endpoint {endpoint : Endpoint} (path : Endpoint.ofPath? r.path = some endpoint)
    (method : r.method = endpoint.method) : s.handle r = s.serve endpoint r := by
  rw [handle, path]
  exact if_pos method.symm

/-- All that is done for a request for an operation is done on the datasource of the request. -/
theorem handle_of_asks (named : r.override = .ok override) (asks : r.Asks operation) :
    s.handle r = s.answerOn override (operation.respond ·) := by
  cases asks with
  | query path method read checked =>
    rw [handle_of_endpoint path method, serve, withBody_of_ok read named checked]
    rfl
  | find path method read checked =>
    rw [handle_of_endpoint path method, serve, withBody_of_ok read named checked]
    rfl
  | fields path method =>
    rw [handle_of_endpoint path method, serve, withDatasource_of_ok named rfl]
    rfl
  | tagKeys path method =>
    rw [handle_of_endpoint path method, serve, withDatasource_of_ok named rfl]
    rfl
  | tagValues path method checked =>
    rw [handle_of_endpoint path method, serve, withDatasource_of_ok named checked]
    rfl
  | test path method =>
    rw [handle_of_endpoint path method, serve, withDatasource_of_ok named rfl]
    rfl

/-- A request for an operation gets the response to what the operation ends in. -/
theorem handle_of_accepts (accepted : Accepts r override operation) (j : Journal) :
    IsReplyOf (s.datasourceOf override) operation (j.opened override)
      ((s.handle r).run.run j).1 := by
  rw [handle_of_asks accepted.named accepted.asks]
  exact isReplyOf_answerOn accepted.opened j

/-- A fault that no lookup is blamed for goes to `Response.ofFault`. -/
theorem IsReplyOf.ofFault {d : Datasource} {j : Journal} {answer : Outcome Response} {fault : Fault}
    (reply : IsReplyOf d operation j answer) (fails : operation.Fails d j fault)
    (blameless : fault.isBadValue = false) :
    ∃ k, answer = ((Response.ofFault fault).run.run k).1 := by
  obtain ⟨i, k, same, rfl⟩ := reply
  have thrown : operation.reply (.error fault) = throw fault := by
    cases operation with
    | lookup raw vars => simp [Operation.reply, Response.ofLookupFault, blameless]
    | _ => rfl
  refine ⟨k, ?_⟩
  rw [fails i same, thrown]
  exact congrArg Prod.fst (run_tryCatch_of_error rfl)

end Service

/-! ## Responses in JSON -/

namespace Response

/-- A response that only says a text. -/
def saying (code : Nat) (text : String) : Response := ⟨code, .json (.obj [("detail", .str text)])⟩

theorem fst_run_ofJson_eq_ok {code : Nat} {value : Json} {response : Response} {j : Journal} :
    ((ofJson code value).run.run j).1 = .ok response ↔
      value.IsWritable ∧ response = ⟨code, .json value⟩ := by
  rw [← Json.require_compactText_iff, ofJson]
  cases Text.Encoding.utf8.require value.compactText with
  | error fault =>
    rw [run_bind_of_error (run_ofOutcome _ j)]
    simp
  | ok =>
    rw [run_bind_of_ok (run_ofOutcome _ j)]
    change Except.ok (⟨code, .json value⟩ : Response) = Except.ok response ↔ _
    simp [eq_comm]

theorem fst_run_detail_eq_ok {code : Nat} {text : String} {response : Response} {j : Journal} :
    ((detail code text).run.run j).1 = .ok response ↔
      Text.IsWritable text.toList ∧ response = saying code text := by
  have detail : Text.IsWritable "detail".toList := by decide
  rw [Response.detail, fst_run_ofJson_eq_ok, Json.isWritable_obj, List.forall_mem_singleton,
    Json.isWritable_str, and_iff_right detail]
  rfl

end Response

end ElasticPanels

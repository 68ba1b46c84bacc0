import ElasticPanels.Proofs.Operations

/-!
# How operations end

The outcome of an operation depends on nothing but how its exchange with the server ends: that for
its posting (`Datasource.posted`) or that for the mapping (`Datasource.mapped`).  Where the exchange
gives no value the operation ends in the same fault (`Operation.fails_of_posted`,
`Operation.fails_of_mapped`).
-/

namespace ElasticPanels

open Search Session

/-! ## Outcomes of runs -/

namespace Session

variable {α β : Type}

theorem run_map_eq (f : α → β) (x : Session α) (j : Journal) :
    (f <$> x).run.run j = ((x.run.run j).1.map f, (x.run.run j).2) := by
  rw [map_eq_pure_bind]
  rcases run : x.run.run j with ⟨_ | a, k⟩
  · exact run_bind_of_error run
  · exact run_bind_of_ok run

theorem run_discard (x : Session α) (j : Journal) :
    (discard x).run.run j = ((x.run.run j).1.map fun _ => PUnit.unit, (x.run.run j).2) := by
  rw [Functor.discard, map_const, Function.comp_apply, run_map_eq]

theorem fst_run_bind_ofOutcome (x : Session α) (f : α → Outcome β) (j : Journal) :
    ((do ofOutcome (f (← x))).run.run j).1 = (x.run.run j).1 >>= f := by
  rcases run : x.run.run j with ⟨_ | a, k⟩
  · rw [run_bind_of_error run]
    rfl
  · rw [run_bind_of_ok run, run_ofOutcome]
    rfl

theorem Blind.fst_run_eq {x : Session α} (h : Blind x) {i j : Journal} (same : i.fresh = j.fresh) :
    (x.run.run i).1 = (x.run.run j).1 := by
  rw [h.run_eq, h.run_eq j, same]

theorem fst_run_count (event : Telemetry.Event) (x : Session α) (j : Journal) :
    ((count event >>= fun _ => x).run.run j).1 =
      (x.run.run { j with events := j.events ++ [event] }).1 := by
  rw [run_bind_of_ok (run_count event j)]

end Session

/-! ## From the exchange to the outcome -/

namespace Suggestion

/-- The suggestions in the reply to a lookup of terms. -/
def ofReply (reply : Json) : Outcome (List Suggestion) := do
  Suggestion.ofSlot (← (← reply.entry "responses").item 0) "1"

end Suggestion

namespace Datasource

variable (d : Datasource) {i j : Journal}

/-- How the exchange for a posting ends, when a journal has come so far. -/
def posted (p : Posting) (j : Journal) : Outcome (Url × Http.Reply) :=
  ((d.connection.exchange "POST" p.path (.lines p.payload)).run.run j).1

/-- How the exchange for the mapping ends, when a journal has come so far. -/
def mapped (j : Journal) : Outcome (Url × Http.Reply) :=
  ((d.connection.exchange "GET" d.mappingPath .nothing).run.run j).1

section

variable {d} {url : Url} {reaction : Reaction} {rest : List Reaction}

theorem posted_of_next {p : Posting} (reaches : d.connection.Reaches p.path url)
    (sendable : Text.Encoding.utf8.require p.payload = .ok ()) (clean : j.jar.isEmpty = true)
    (next : j.pending = reaction :: rest) (final : reaction.IsFinal) :
    d.posted p j = reaction.received.map (url, ·) := by
  obtain ⟨request, rfl, prepared⟩ := run_prepare reaches sendable clean
  rw [posted, Connection.exchange, run_bind_of_ok prepared]
  exact fst_run_follow reaches.2.2 next final 20

theorem mapped_of_next (reaches : d.connection.Reaches d.mappingPath url)
    (clean : j.jar.isEmpty = true) (next : j.pending = reaction :: rest)
    (final : reaction.IsFinal) :
    d.mapped j = reaction.received.map (url, ·) := by
  obtain ⟨request, rfl, prepared⟩ := run_prepare_nothing "GET" reaches clean
  rw [mapped, Connection.exchange, run_bind_of_ok prepared]
  exact fst_run_follow reaches.2.2 next final 20

end

theorem fst_run_multiSearch (p : Posting) (same : i.fresh = j.fresh) :
    ((multiSearch d.connection p.kind p.path p.payload).run.run i).1 =
      d.posted p j >>= searched := by
  obtain ⟨log, run⟩ := run_multiSearch_eq d.connection p.kind p.path p.payload i
  rw [run, posted, (d.connection.blind_exchange _ _ _).fst_run_eq same]

theorem fst_run_fieldTerms (l : Lookup) (vars : Template.Variables) (same : i.fresh = j.fresh) :
    ((d.fieldTerms l vars).run.run i).1 =
      d.posted (d.termsPosting l vars) j >>= searched >>= Suggestion.ofReply := by
  rw [← fst_run_multiSearch d (d.termsPosting l vars) same]
  exact fst_run_bind_ofOutcome _ _ i

theorem fst_run_send_mapping (same : i.fresh = j.fresh) :
    ((d.connection.send "GET" d.mappingPath .nothing).run.run i).1 =
      d.mapped j >>= d.connection.answer "GET" d.mappingPath := by
  rw [d.connection.send_eq, fst_run_bind_ofOutcome, mapped,
    (d.connection.blind_exchange _ _ _).fst_run_eq same]

theorem fst_run_mappedFields (l : Lookup) (same : i.fresh = j.fresh) :
    ((d.mappedFields l).run.run i).1 = do
      let answer ← d.mapped j >>= d.connection.answer "GET" d.mappingPath
      return Mapping.sorted (← Mapping.flatten answer.data l.kind) := by
  rw [← d.fst_run_send_mapping same, mappedFields]
  rcases run : (d.connection.send "GET" d.mappingPath .nothing).run.run i with ⟨_ | answer, k⟩
  · rw [run_bind_of_error run]
    rfl
  · rw [run_bind_of_ok run]
    change _ = (do return Mapping.sorted (← Mapping.flatten answer.data l.kind) : Outcome _)
    cases Mapping.flatten answer.data l.kind with
    | error fault => exact congrArg Prod.fst (run_bind_of_error (run_ofOutcome _ k))
    | ok fields => exact congrArg Prod.fst (run_bind_of_ok (run_ofOutcome _ k))

theorem fst_run_fields {kind : Json} {l : Lookup} (given : Lookup.ofKind kind = .ok l)
    (same : i.fresh = j.fresh) :
    ((d.fields kind).run.run i).1 = do
      let answer ← d.mapped j >>= d.connection.answer "GET" d.mappingPath
      return Mapping.sorted (← Mapping.flatten answer.data l.kind) := by
  rw [Datasource.fields, given, ofOutcome, pure_bind, d.fst_run_mappedFields l same]

theorem fst_run_lookup_of_terms {raw : Json} {l : Lookup} (vars : Template.Variables)
    (given : Lookup.read raw = .ok (some l)) (terms : l.target = .terms)
    (same : i.fresh = j.fresh) : ((d.lookup raw vars).run.run i).1 =
      (d.posted (d.termsPosting (l.asked vars) vars) j >>= searched >>= Suggestion.ofReply).map
        fun found => some (.terms found) := by
  have listed := d.fst_run_fieldTerms (l.asked vars) vars
    (i := { i with events := i.events ++ [.lookup .terms] }) same
  rw [d.lookup_of_terms vars given terms, fst_run_count, bind_pure_comp, run_map_eq, listed]

theorem fst_run_lookup_of_fields {raw : Json} {l : Lookup} (vars : Template.Variables)
    (given : Lookup.read raw = .ok (some l)) (fields : l.target = .fields)
    (same : i.fresh = j.fresh) : ((d.lookup raw vars).run.run i).1 = (do
      let answer ← d.mapped j >>= d.connection.answer "GET" d.mappingPath
      return Mapping.sorted (← Mapping.flatten answer.data l.kind) : Outcome _).map
        fun found => some (.fields found) := by
  have listed := d.fst_run_mappedFields l
    (i := { i with events := i.events ++ [.lookup .fields] }) same
  rw [d.lookup_of_fields vars given fields, fst_run_count, bind_pure_comp, run_map_eq, listed]

end Datasource

/-! ## Operations that fail -/

namespace Operation

/-- The operation, which gives the wire form of its result. -/
def result (d : Datasource) : Operation → Session Json
  | batch queries filters vars => PanelResult.responseJson <$> d.runBatch queries filters vars
  | lookup raw vars => (fun found => (found.getD .nothing).toJson) <$> d.lookup raw vars
  | tagValues field => (fun found => (Findings.terms found).toJson) <$> d.tagValues (.str field)
  | fields kind => (fun found => (Findings.fields found).toJson) <$> d.fields kind
  | tagKeys => (fun found => (Findings.fields found).toJson) <$> d.tagKeys
  | test => Verdict.toJson <$> d.test

/-- What the operation looks up in the mapping, if it lists fields. -/
def mapping? : Operation → Option Lookup
  | lookup raw _ =>
    match Lookup.read raw with
    | .ok (some l) => if l.target = .fields then some l else none
    | _ => none
  | fields kind => (Lookup.ofKind kind).toOption
  | tagKeys => (Lookup.ofKind .null).toOption
  | _ => none

/-- The operation ends in the fault when a journal has come so far. -/
def Fails (d : Datasource) (j : Journal) (operation : Operation) (fault : Fault) : Prop :=
  ∀ i : Journal, i.fresh = j.fresh → ((operation.result d).run.run i).1 = .error fault

variable {d : Datasource} {j : Journal} {operation : Operation} {fault : Fault}

/-- What is posted for a batch is the resolved payload of its visible queries. -/
theorem exists_payload_of_posting {queries : List PanelQuery} {filters : List AdhocFilter}
    {vars : Template.Variables} {p : Posting}
    (posting : (batch queries filters vars).posting? d = some p) :
    ∃ text, visibleQueries queries ≠ [] ∧
      payload d.settings filters vars (visibleQueries queries) = .ok text ∧
      p = ⟨.query, multiSearchPath, resolved vars text⟩ := by
  simp only [posting?] at posting
  split_ifs at posting with none
  cases made : payload d.settings filters vars (visibleQueries queries) with
  | error unmade =>
    rw [sentText, made] at posting
    cases posting
  | ok text =>
    rw [sentText, made] at posting
    exact ⟨text, by simpa using none, rfl, (Option.some.inj posting).symm⟩

theorem fails_of_posted {p : Posting} (posting : operation.posting? d = some p)
    (failed : d.posted p j >>= searched = .error fault) : operation.Fails d j fault := by
  intro i same
  cases operation with
  | batch queries filters vars =>
    obtain ⟨text, any, made, rfl⟩ := exists_payload_of_posting posting
    have searchFailed := d.fst_run_multiSearch ⟨.query, multiSearchPath, resolved vars text⟩
      (i := { i with events := i.events ++ [.batch (visibleQueries queries).length] }) same
    rw [failed] at searchFailed
    rw [result, run_map_eq, d.runBatch_eq any made, fst_run_count, fst_run_bind_ofOutcome,
      searchFailed]
    rfl
  | lookup raw vars =>
    rw [posting?] at posting
    split at posting
    · rename_i l given
      split_ifs at posting with terms
      cases posting
      rw [result, run_map_eq, d.fst_run_lookup_of_terms vars given terms same, failed]
      rfl
    · cases posting
  | tagValues field =>
    obtain ⟨l, given⟩ := ofField_str field
    rw [posting?, given] at posting
    cases posting
    rw [result, run_map_eq, d.tagValues_eq given, d.fst_run_fieldTerms l _ same, failed]
    rfl
  | fields kind => cases posting
  | tagKeys => cases posting
  | test => cases posting

theorem fails_of_mapped {l : Lookup} (mapping : operation.mapping? = some l)
    (failed : d.mapped j >>= d.connection.answer "GET" d.mappingPath = .error fault) :
    operation.Fails d j fault := by
  have fields {kind : Json} (given : (Lookup.ofKind kind).toOption = some l) {i : Journal}
      (same : i.fresh = j.fresh) : ((d.fields kind).run.run i).1 = .error fault := by
    cases read : Lookup.ofKind kind with
    | error unread =>
      rw [read] at given
      cases given
    | ok l' =>
      rw [d.fst_run_fields read same, failed]
      rfl
  intro i same
  cases operation with
  | lookup raw vars =>
    rw [mapping?] at mapping
    split at mapping
    · rename_i l' given
      split_ifs at mapping with target
      rw [result, run_map_eq, d.fst_run_lookup_of_fields vars given target same, failed]
      rfl
    · cases mapping
  | fields kind =>
    rw [result, run_map_eq, fields mapping same]
    rfl
  | tagKeys =>
    have given : (Lookup.ofKind .null).toOption = some l := mapping
    rw [result, run_map_eq, Datasource.tagKeys_eq, fields given same]
    rfl
  | batch => cases mapping
  | tagValues => cases mapping
  | test => cases mapping

end Operation

end ElasticPanels

import ElasticPanels.Proofs.Requests

/-!
# Failed requests

What the service responds when the exchange for an operation fails (`IsFailed`): with the error of
the engine if it refuses a search and says why, and otherwise like a gateway, by the status of the
final reply or by what is said of the failure.  `IsDue` lists these responses, and requests for
panel queries, for terms and for fields get just them (`Service.answer_iff_isDue`).  No response is
due to a failure that is told in a text that cannot be written (`unreachable_unwritable`).
-/

namespace ElasticPanels

open Datasource Search Session

/-- The exchange ends in a reply that is no success, or in no reply at all. -/
def IsFailed (ending : Outcome (Url × Http.Reply)) : Prop :=
  (∃ url reply, ending = .ok (url, reply) ∧ Http.isSuccess reply.code = false) ∨
    ∃ failure text, ending = .error (.unreachable failure text)

/-- The response is due when an exchange ends like this; if it is a search the engine may say
why. -/
inductive IsDue (search : Bool) : Outcome (Url × Http.Reply) → Response → Prop
  | refused (url : Url) {reply : Http.Reply} {error : Json} (asked : search = true)
      (refuses : reply.Refuses error) (finite : error.isFinite = true)
      (writable : error.IsWritable) :
    IsDue search (.ok (url, reply))
      ⟨400, .json (.obj [("detail", .str (engineMessage error)), ("error", error)])⟩
  | missing (url : Url) {reply : Http.Reply}
      (unexplained : search = true → ∀ error, ¬ reply.Refuses error) (code : reply.code = 404) :
    IsDue search (.ok (url, reply)) (.saying 404 ("Upstream resource not found: " ++ url.text))
  | rejected (url : Url) {reply : Http.Reply}
      (unexplained : search = true → ∀ error, ¬ reply.Refuses error) (code : reply.code ≠ 404)
      (failed : Http.isSuccess reply.code = false) :
    IsDue search (.ok (url, reply))
      (.saying 502 ("Upstream error " ++ toString reply.code ++ ": " ++ url.text))
  | unreachable (failure : TransportFailure) {text : String}
      (writable : Text.IsWritable text.toList) :
    IsDue search (.error (.unreachable failure text))
      (.saying 502 ("Cannot reach Elasticsearch: " ++ text))

/-- The operation lists fields. -/
def Operation.ListsFields : Operation → Prop
  | lookup raw vars => (lookup raw vars).target? = some .fields
  | fields _ | tagKeys => True
  | _ => False

/-! ## The fault of a failed exchange -/

section

variable {url : Url} {reply : Http.Reply}

theorem Connection.answer_of_failed (c : Connection) (method path : String)
    (failed : Http.isSuccess reply.code = false) : c.answer method path (url, reply) =
      .error (.rejected ⟨reply.code, url.text, reply.body⟩) := by
  rw [answer, failed]
  rfl

theorem searched_of_failed (failed : Http.isSuccess reply.code = false)
    (unexplained : ∀ error, ¬ reply.Refuses error) :
    searched (url, reply) = .error (.rejected ⟨reply.code, url.text, reply.body⟩) := by
  have none : Rejection.engineError? ⟨reply.code, url.text, reply.body⟩ = none := by
    rw [Option.eq_none_iff_forall_ne_some]
    exact fun error found => unexplained error ((reply.refuses_iff url.text).2 ⟨failed, found⟩)
  rw [searched, failed, Rejection.reported, none]
  rfl

theorem searched_of_refuses {error : Json} (refuses : reply.Refuses error) :
    searched (url, reply) = .error (.engine error) := by
  obtain ⟨failed, found⟩ := (reply.refuses_iff url.text).1 refuses
  rw [searched, failed, Rejection.reported, found]
  rfl

theorem Http.Reply.Refuses.unique {error other : Json} (first : reply.Refuses error)
    (second : reply.Refuses other) : error = other := by
  have found := ((reply.refuses_iff "").1 first).2
  rw [((reply.refuses_iff "").1 second).2] at found
  exact (Option.some.inj found).symm

end

/-! ## The response to a fault -/

section

variable {response : Response} {j : Journal}

theorem isWritable_engineMessage {error : Json} (h : error.IsWritable) :
    Text.IsWritable (engineMessage error).toList := by
  have reason : (engineReason error).IsWritable := by
    cases error with
    | obj fields =>
      rw [engineReason]
      cases found : Entries.get? fields "reason" with
      | none => simp [Json.IsWritable, Json.texts]
      | some reason => exact (Json.isWritable_obj.1 h _ (Entries.mem_of_get? found)).2
    | _ => exact h
  exact Text.isWritable_toList_append.2 ⟨by decide, Json.isWritable_plain reason⟩

theorem ofFault_engine_eq_ok {error : Json} :
    ((Response.ofFault (.engine error)).run.run j).1 = .ok response ↔
      error.isFinite = true ∧ error.IsWritable ∧ response =
        ⟨400, .json (.obj [("detail", .str (engineMessage error)), ("error", error)])⟩ := by
  have key : Text.IsWritable "detail".toList ∧ Text.IsWritable "error".toList := by decide
  rw [Response.ofFault]
  split_ifs with finite
  · rw [Response.fst_run_ofJson_eq_ok, Json.isWritable_obj, List.forall_mem_cons,
      List.forall_mem_singleton, Json.isWritable_str, and_iff_right key.1, and_iff_right key.2,
      and_iff_right finite, and_iff_right_of_imp isWritable_engineMessage]
  · change Except.error Fault.notFiniteOnWire = Except.ok response ↔ _
    simp [finite]

theorem ofFault_rejected_eq_ok {url : Url} (ascii : url.IsAscii) {code : ℕ} {body : String} :
    ((Response.ofFault (.rejected ⟨code, url.text, body⟩)).run.run j).1 = .ok response ↔
      response = if code = 404
        then .saying 404 ("Upstream resource not found: " ++ url.text)
        else .saying 502 ("Upstream error " ++ toString code ++ ": " ++ url.text) := by
  have address := ascii.text.isWritable
  have number : Text.IsWritable (toString code).toList := (Text.isAscii_toString code).isWritable
  have told : Text.IsWritable ("Upstream resource not found: " ++ url.text).toList :=
    Text.isWritable_toList_append.2 ⟨by decide, address⟩
  have counted :
      Text.IsWritable ("Upstream error " ++ toString code ++ ": " ++ url.text).toList := by
    rw [Text.isWritable_toList_append, Text.isWritable_toList_append, Text.isWritable_toList_append]
    exact ⟨⟨⟨by decide, number⟩, by decide⟩, address⟩
  rw [Response.ofFault]
  split_ifs
  · rw [Response.fst_run_detail_eq_ok, and_iff_right told]
  · rw [Response.fst_run_detail_eq_ok, and_iff_right counted]

theorem ofFault_unreachable_eq_ok {failure : TransportFailure} {text : String} :
    ((Response.ofFault (.unreachable failure text)).run.run j).1 = .ok response ↔
      Text.IsWritable text.toList ∧
        response = .saying 502 ("Cannot reach Elasticsearch: " ++ text) := by
  have told : Text.IsWritable "Cannot reach Elasticsearch: ".toList := by decide
  rw [Response.ofFault, Response.fst_run_detail_eq_ok, Text.isWritable_toList_append,
    and_iff_right told]

/-! ## The response that is due -/

variable {url : Url} {reply : Http.Reply}

theorem isDue_of_refuses {error : Json} (refuses : reply.Refuses error) :
    IsDue true (.ok (url, reply)) response ↔ error.isFinite = true ∧ error.IsWritable ∧ response =
      ⟨400, .json (.obj [("detail", .str (engineMessage error)), ("error", error)])⟩ := by
  constructor
  · rintro (⟨-, -, other, finite, writable⟩ | ⟨-, unexplained⟩ | ⟨-, unexplained⟩)
    · obtain rfl := other.unique refuses
      exact ⟨finite, writable, rfl⟩
    · exact absurd refuses (unexplained rfl error)
    · exact absurd refuses (unexplained rfl error)
  · rintro ⟨finite, writable, rfl⟩
    exact .refused url rfl refuses finite writable

theorem isDue_of_failed {search : Bool} (failed : Http.isSuccess reply.code = false)
    (unexplained : search = true → ∀ error, ¬ reply.Refuses error) :
    IsDue search (.ok (url, reply)) response ↔ response = if reply.code = 404
      then .saying 404 ("Upstream resource not found: " ++ url.text)
      else .saying 502 ("Upstream error " ++ toString reply.code ++ ": " ++ url.text) := by
  constructor
  · rintro (⟨-, asked, refuses⟩ | ⟨-, -, code⟩ | ⟨-, -, code⟩)
    · exact absurd refuses (unexplained asked _)
    · exact (if_pos code).symm
    · exact (if_neg code).symm
  · rintro rfl
    split_ifs with code
    · exact .missing url unexplained code
    · exact .rejected url unexplained code failed

theorem isDue_of_unreachable {search : Bool} {failure : TransportFailure} {text : String} :
    IsDue search (.error (.unreachable failure text)) response ↔
      Text.IsWritable text.toList ∧
        response = .saying 502 ("Cannot reach Elasticsearch: " ++ text) := by
  constructor
  · intro due
    cases due with
    | unreachable _ writable => exact ⟨writable, rfl⟩
  · rintro ⟨writable, rfl⟩
    exact .unreachable failure writable

end

/-! ## Requests -/

theorem ofKind_ofText? (kind : Option String) : ∃ l, Lookup.ofKind (Json.ofText? kind) = .ok l := by
  cases kind <;> exact ⟨_, rfl⟩

theorem Operation.exists_mapping_of_target {raw : Json} {vars : Template.Variables}
    (target : (lookup raw vars).target? = some .fields) :
    ∃ l, (lookup raw vars).mapping? = some l := by
  rw [target?] at target
  rw [mapping?]
  rcases given : Lookup.read raw with fault | _ | l
  · rw [given] at target
    cases target
  · rw [given] at target
    cases target
  · rw [given] at target
    exact ⟨l, if_pos (Option.some.inj target)⟩

theorem Incoming.Asks.exists_mapping {r : Incoming} {operation : Operation}
    (asks : r.Asks operation) (lists : operation.ListsFields) :
    ∃ l, operation.mapping? = some l := by
  cases asks with
  | query => cases lists
  | find => exact Operation.exists_mapping_of_target lists
  | fields =>
    obtain ⟨l, given⟩ := ofKind_ofText? (r.parameter? "type")
    exact ⟨l, by rw [Operation.mapping?, given]; rfl⟩
  | tagKeys => exact ⟨_, rfl⟩
  | tagValues => cases lists
  | test => cases lists

namespace Service

/-- A request for panel queries or for terms whose search fails, and one for fields for which the
mapping cannot be had, get the response that is due and no other. -/
theorem answer_iff_isDue {s : Service} {r : Incoming} {override : Option Connection}
    {operation : Operation} (accepted : Accepts r override operation) (j : Journal) :
    let d := s.datasourceOf override
    let k := j.opened override
    let answer := ((s.handle r).run.run j).1
    (∀ p, operation.posting? d = some p → IsFailed (d.posted p k) →
      ∀ response, answer = .ok response ↔ IsDue true (d.posted p k) response) ∧
    (operation.ListsFields → IsFailed (d.mapped k) →
      ∀ response, answer = .ok response ↔ IsDue false (d.mapped k) response) := by
  intro d k answer
  have reply : IsReplyOf d operation k answer := handle_of_accepts accepted j
  refine ⟨fun p posting failed response => ?_, fun lists failed response => ?_⟩
  · have fails {fault : Fault} (unfound : d.posted p k >>= searched = .error fault) :
        operation.Fails d k fault := Operation.fails_of_posted posting unfound
    obtain ⟨url, found, ended, failed⟩ | ⟨failure, text, ended⟩ := failed
    · have ascii : url.IsAscii := Connection.isAscii_of_exchange ended
      rw [ended] at fails ⊢
      -- The fault of the search is settled by the body alone, the status comes in only without an
      -- error of the engine.
      by_cases refused : ∃ error, found.Refuses error
      · obtain ⟨error, refuses⟩ := refused
        obtain ⟨i, run⟩ := reply.ofFault (fails (searched_of_refuses refuses)) rfl
        rw [run, ofFault_engine_eq_ok, isDue_of_refuses refuses]
      · have unexplained (error : Json) : ¬ found.Refuses error := fun h => refused ⟨error, h⟩
        obtain ⟨i, run⟩ := reply.ofFault (fails (searched_of_failed failed unexplained)) rfl
        rw [run, ofFault_rejected_eq_ok ascii, isDue_of_failed failed fun _ => unexplained]
    · rw [ended] at fails ⊢
      obtain ⟨i, run⟩ := reply.ofFault (fails rfl) rfl
      rw [run, ofFault_unreachable_eq_ok, isDue_of_unreachable]
  · obtain ⟨l, mapping⟩ := accepted.asks.exists_mapping lists
    have fails {fault : Fault}
        (unfound : d.mapped k >>= d.connection.answer "GET" d.mappingPath = .error fault) :
        operation.Fails d k fault := Operation.fails_of_mapped mapping unfound
    obtain ⟨url, found, ended, failed⟩ | ⟨failure, text, ended⟩ := failed
    · have ascii : url.IsAscii := Connection.isAscii_of_exchange ended
      rw [ended] at fails ⊢
      obtain ⟨i, run⟩ := reply.ofFault (fails (d.connection.answer_of_failed _ _ failed)) rfl
      rw [run, ofFault_rejected_eq_ok ascii, isDue_of_failed failed (by simp)]
    · rw [ended] at fails ⊢
      obtain ⟨i, run⟩ := reply.ofFault (fails rfl) rfl
      rw [run, ofFault_unreachable_eq_ok, isDue_of_unreachable]

end Service

/-! ## Requests that fail -/

/-- A service that is not asked for credentials. -/
def someService : Service :=
  ⟨⟨"http://es:9200", "logs", "5", 256, "@timestamp", none, none, .ofInt 30⟩, someSettings⟩

/-- A session with a single reaction to come. -/
def reacting (reaction : Reaction) : Journal := ⟨0, [reaction], [], [], [], .empty⟩

/-- What the engine says when it has no room. -/
def noRoom : Json := .obj [("error", .obj [("reason", .str "full")])]

theorem read_noRoom : Json.readBody noRoom.spacedText = .ok noRoom := by
  have legible : noRoom.Legible := by
    refine .obj (List.forall_mem_singleton.2 (.obj ?_))
    exact List.forall_mem_singleton.2 (.str _)
  exact Json.readBody_spacedText legible (by decide +kernel)

/-- A request for the terms of a field. -/
def hostTerms : Incoming := ⟨"GET", "/api/tag-values?key=host", [], ""⟩

/-- A request for all fields. -/
def allFields : Incoming := ⟨"GET", "/api/fields", [], ""⟩

theorem accepts_hostTerms : Service.Accepts hostTerms none (.tagValues "host") :=
  have key : Service.checkKey hostTerms = .ok "host" := by with_unfolding_all rfl
  ⟨rfl, by simp, .tagValues (by decide +kernel) rfl key⟩

theorem accepts_allFields : Service.Accepts allFields none (.fields .null) := by
  have unfiltered : allFields.parameter? "type" = none := by decide +kernel
  have all : Json.ofText? (allFields.parameter? "type") = .null := by
    rw [unfiltered]
    rfl
  exact ⟨rfl, by simp, all ▸ .fields (by decide +kernel) rfl⟩

/-- What is posted for the terms, and how its exchange ends after one reaction. -/
theorem posting_hostTerms : ∃ p url, (Operation.tagValues "host").posting? someDatasource = some p ∧
    (∀ code body, Http.isRedirect code = false →
      someDatasource.posted p (reacting (.reply ⟨code, [], body⟩)) =
        .ok (url, ⟨code, [], body⟩)) ∧
    ∀ failure text, someDatasource.posted p (reacting (.failure failure text)) =
      .error (.unreachable failure text) := by
  obtain ⟨l, given, sendable⟩ := sendable_hostTerms
  obtain ⟨url, reaches⟩ : ∃ url,
      someDatasource.connection.Reaches someDatasource.termsPath url := ⟨_, rfl, rfl, rfl⟩
  let p := someDatasource.termsPosting l (withTimes [] .default lookupInterval)
  have settled {reaction : Reaction} (final : reaction.IsFinal) :
      someDatasource.posted p (reacting reaction) = reaction.received.map (url, ·) :=
    posted_of_next reaches sendable rfl rfl final
  refine ⟨p, url, ?_, ?_, ?_⟩
  · rw [Operation.posting?, given]
    rfl
  · exact fun code body final => settled (Reaction.isFinal_plain final body)
  · exact fun failure text => settled (Reaction.isFinal_failure failure text)

/-- A failure that is told with half a surrogate pair gets no response at all. -/
theorem unreachable_unwritable : ∃ p text,
    Service.Accepts hostTerms none (.tagValues "host") ∧
    (Operation.tagValues "host").posting? (someService.datasourceOf none) = some p ∧
    (someService.datasourceOf none).posted p (reacting (.failure .connect text)) =
      .error (.unreachable .connect text) ∧
    ∀ response, ((someService.handle hostTerms).run.run
      (reacting (.failure .connect text))).1 ≠ .ok response := by
  obtain ⟨p, -, posting, -, unanswered⟩ := posting_hostTerms
  let text : String := .singleton (.ofNat 0x10d800)
  let journal := reacting (.failure .connect text)
  refine ⟨p, text, accepts_hostTerms, posting, unanswered _ _, fun response answered => ?_⟩
  have reply := Service.handle_of_accepts (s := someService) accepts_hostTerms journal
  have fails : (Operation.tagValues "host").Fails someDatasource journal
      (.unreachable .connect text) :=
    Operation.fails_of_posted posting (by rw [unanswered]; rfl)
  obtain ⟨k, run⟩ := reply.ofFault fails rfl
  have written := Response.fst_run_detail_eq_ok.1 (run.symm.trans answered)
  exact absurd written.1 (by decide)

/-- Three failures: the engine refuses a search for terms, it cannot be reached, and the index has
no mapping. -/
theorem hostTerms_and_allFields_answered :
    Service.Accepts hostTerms none (.tagValues "host") ∧
    Service.Accepts allFields none (.fields .null) ∧
    ((someService.handle hostTerms).run.run
      (reacting (.reply ⟨500, [], noRoom.spacedText⟩))).1 =
        .ok ⟨400, .json (.obj [("detail", .str "Elasticsearch error: full"),
          ("error", .obj [("reason", .str "full")])])⟩ ∧
    ((someService.handle hostTerms).run.run (reacting (.failure .connect "refused"))).1 =
      .ok (.saying 502 "Cannot reach Elasticsearch: refused") ∧
    ((someService.handle allFields).run.run
      (reacting (.reply ⟨404, [], noRoom.spacedText⟩))).1 =
        .ok (.saying 404 "Upstream resource not found: http://es:9200/logs/_mapping") := by
  refine ⟨accepts_hostTerms, accepts_allFields, ?_⟩
  obtain ⟨p, url, posting, replied, unanswered⟩ := posting_hostTerms
  have terms (j : Journal) :=
    (Service.answer_iff_isDue (s := someService) accepts_hostTerms j).1 p posting
  refine ⟨?_, ?_, ?_⟩
  · have ended := replied 500 noRoom.spacedText rfl
    have writable : (Json.obj [("reason", .str "full")]).IsWritable :=
      Json.isWritable_obj.2 (List.forall_mem_singleton.2
        ⟨by decide, Json.isWritable_str.2 (by decide)⟩)
    have refuses : Http.Reply.Refuses ⟨500, [], noRoom.spacedText⟩
        (.obj [("reason", .str "full")]) :=
      ⟨rfl, _, read_noRoom, rfl, rfl⟩
    have due : IsDue true _ _ := .refused url rfl refuses rfl writable
    rw [← ended] at due
    exact (terms _ (.inl ⟨_, _, ended, rfl⟩) _).2 due
  · have ended := unanswered .connect "refused"
    have due : IsDue true _ (.saying 502 ("Cannot reach Elasticsearch: " ++ "refused")) :=
      .unreachable .connect (by decide)
    rw [← ended] at due
    exact (terms _ (.inr ⟨_, _, ended⟩) _).2 due
  · obtain ⟨url, reaches, text⟩ : ∃ url,
        someDatasource.connection.Reaches someDatasource.mappingPath url ∧
          url.text = "http://es:9200/logs/_mapping" := ⟨_, ⟨rfl, rfl, rfl⟩, by decide +kernel⟩
    let journal := reacting (.reply ⟨404, [], noRoom.spacedText⟩)
    have ended : someDatasource.mapped journal =
        .ok (url, ⟨404, [], noRoom.spacedText⟩) :=
      mapped_of_next reaches rfl rfl (Reaction.isFinal_plain rfl _)
    have due : IsDue false (someDatasource.mapped journal) (.saying 404
        ("Upstream resource not found: " ++ "http://es:9200/logs/_mapping")) := by
      rw [ended, ← text]
      exact .missing url (fun search => absurd search Bool.false_ne_true) rfl
    exact ((Service.answer_iff_isDue (s := someService) accepts_allFields journal).2 trivial
      (.inl ⟨_, _, ended, rfl⟩) _).2 due

end ElasticPanels

import ElasticPanels.Proofs.BlamedLookups

/-!
# Verdicts on the index

What a test of the index ends in (`IsTold`) follows from how the exchange for its mapping ends, and
from nothing else (`Datasource.test_iff_isTold`).  A mapping that can be read is a success; a reply
that is no success is an error, and so is a request without a reply.  In two cases there is no
verdict but a fault: the reply is a success whose body is no JSON (`Datasource.page_untold`), or
there is no address that the request, or the next one after a redirection, can be sent to.
-/

namespace ElasticPanels

open Session

/-! ## What is told -/

namespace Verdict

/-- The verdict that the index cannot be reached. -/
def unavailable (index reason : String) : Verdict :=
  ⟨false, "Index " ++ index ++ " unavailable: " ++ reason⟩

/-- The outcome is a verdict, and it has the status on the wire. -/
def HasStatus (status : String) (outcome : Outcome Verdict) : Prop :=
  ∃ verdict : Verdict, outcome = .ok verdict ∧ verdict.toJson.entry "status" = .ok (.str status)

theorem not_hasStatus_error (status : String) (fault : Fault) :
    ¬ HasStatus status (.error fault) := by
  rintro ⟨verdict, ⟨⟩, -⟩

theorem hasStatus_ok {status : String} {verdict : Verdict} : HasStatus status (.ok verdict) ↔
    (if verdict.reachable then "success" else "error") = status := by
  have entry : verdict.toJson.entry "status" =
      .ok (.str (if verdict.reachable then "success" else "error")) := rfl
  simp [HasStatus, entry]

end Verdict

/-- What a test of the index ends in when the exchange for its mapping ends like this. -/
inductive IsTold (index : String) : Outcome (Url × Http.Reply) → Outcome Verdict → Prop
  | mapped (url : Url) {reply : Http.Reply} {value : Json}
      (success : Http.isSuccess reply.code = true) (read : Json.readBody reply.body = .ok value) :
    IsTold index (.ok (url, reply)) (.ok ⟨true, "Index OK"⟩)
  | rejected (url : Url) {reply : Http.Reply} (failed : Http.isSuccess reply.code = false) :
    IsTold index (.ok (url, reply))
      (.ok (.unavailable index (Http.statusMessage reply.code url.text)))
  | unreachable (failure : TransportFailure) (text : String) :
    IsTold index (.error (.unreachable failure text)) (.ok (.unavailable index text))
  | unread (url : Url) {reply : Http.Reply} {error : Json.ReadError}
      (success : Http.isSuccess reply.code = true)
      (unread : Json.readBody reply.body = .error error) :
    IsTold index (.ok (url, reply)) (.error error.fault)
  | unsent {fault : Fault} (unsent : ∀ failure text, fault ≠ .unreachable failure text) :
    IsTold index (.error fault) (.error fault)

/-- The exchange ends in a success whose body can be read. -/
def IsMapped (ending : Outcome (Url × Http.Reply)) : Prop :=
  ∃ url reply value, ending = .ok (url, reply) ∧ Http.isSuccess reply.code = true ∧
    Json.readBody reply.body = .ok value

/-- Something is told of every ending. -/
theorem exists_isTold (index : String) (ending : Outcome (Url × Http.Reply)) :
    ∃ outcome, IsTold index ending outcome := by
  rcases ending with fault | ⟨url, reply⟩
  · by_cases unreachable : ∃ failure text, fault = .unreachable failure text
    · obtain ⟨failure, text, rfl⟩ := unreachable
      exact ⟨_, .unreachable failure text⟩
    · exact ⟨_, .unsent fun failure text same => unreachable ⟨failure, text, same⟩⟩
  · cases success : Http.isSuccess reply.code with
    | false => exact ⟨_, .rejected url success⟩
    | true =>
      cases read : Json.readBody reply.body with
      | ok value => exact ⟨_, .mapped url success read⟩
      | error error => exact ⟨_, .unread url success read⟩

section

open Verdict

variable {index : String} {ending : Outcome (Url × Http.Reply)} {outcome : Outcome Verdict}

/-- A success is told of the mapping and nothing else. -/
theorem IsTold.hasStatus_success_iff (h : IsTold index ending outcome) :
    HasStatus "success" outcome ↔ IsMapped ending := by
  cases h with
  | mapped url success read =>
    exact iff_of_true (hasStatus_ok.2 rfl) ⟨url, _, _, rfl, success, read⟩
  | rejected url failed => simp [hasStatus_ok, IsMapped, unavailable, failed]
  | unreachable failure text => simp [hasStatus_ok, IsMapped, unavailable]
  | unread url success unread => simp [not_hasStatus_error, IsMapped, unread]
  | unsent unsent => simp [not_hasStatus_error, IsMapped]

/-- An error is told of every reply that is no success, and of every request without a reply. -/
theorem IsTold.hasStatus_error_iff (h : IsTold index ending outcome) :
    HasStatus "error" outcome ↔ IsFailed ending := by
  cases h with
  | mapped url success read => simp [hasStatus_ok, IsFailed, success]
  | rejected url failed =>
    exact iff_of_true (hasStatus_ok.2 rfl) (.inl ⟨url, _, rfl, failed⟩)
  | unreachable failure text =>
    exact iff_of_true (hasStatus_ok.2 rfl) (.inr ⟨failure, text, rfl⟩)
  | unread url success unread => simp [not_hasStatus_error, IsFailed, success]
  | unsent unsent => simp [not_hasStatus_error, IsFailed, unsent]

end

/-! ## Tests -/

namespace Connection

variable (c : Connection) (method path : String) {url : Url} {reply : Http.Reply}

theorem answer_of_read {value : Json} (success : Http.isSuccess reply.code = true)
    (read : Json.readBody reply.body = .ok value) :
    c.answer method path (url, reply) = .ok ⟨reply.code, value, method, c.address path⟩ := by
  rw [answer, success, read]
  rfl

theorem answer_of_unread {error : Json.ReadError} (success : Http.isSuccess reply.code = true)
    (unread : Json.readBody reply.body = .error error) :
    c.answer method path (url, reply) = .error error.fault := by
  rw [answer, success, unread]
  rfl

end Connection

namespace Datasource

section

variable (d : Datasource) {j k : Journal} {fault : Fault}

theorem run_test_of_ok {answer : Answer}
    (sent : (d.connection.send "GET" d.mappingPath .nothing).run.run j = (.ok answer, k)) :
    d.test.run.run j = (.ok ⟨true, "Index OK"⟩, k) := by
  have discarded := run_discard (d.connection.send "GET" d.mappingPath .nothing) j
  rw [sent] at discarded
  exact run_tryCatch_of_ok (run_bind_of_ok discarded)

theorem run_test_of_error
    (sent : (d.connection.send "GET" d.mappingPath .nothing).run.run j = (.error fault, k)) :
    d.test.run.run j = (d.testFailed fault).run.run k := by
  have discarded := run_discard (d.connection.send "GET" d.mappingPath .nothing) j
  rw [sent] at discarded
  exact run_tryCatch_of_error (run_bind_of_error discarded)

/-- A failed request is told as an error, any other fault is not told. -/
theorem fst_run_testFailed (fault : Fault) (k : Journal) : ((d.testFailed fault).run.run k).1 =
    if fault.isFailedRequest then
      .ok (.unavailable d.settings.index (fault.message?.getD ""))
    else .error fault := by
  rw [testFailed]
  split_ifs <;> rfl

end

/-! How the test ends, by how the exchange for the mapping does. -/

section

variable {d : Datasource} {j : Journal} {ending : Outcome (Url × Http.Reply)} {fault : Fault}

theorem fst_run_test_of_ok {answer : Answer} (ended : d.mapped j = ending)
    (answered : ending >>= d.connection.answer "GET" d.mappingPath = .ok answer) :
    (d.test.run.run j).1 = .ok ⟨true, "Index OK"⟩ := by
  rw [← ended, ← d.fst_run_send_mapping rfl] at answered
  rcases sent : (d.connection.send "GET" d.mappingPath .nothing).run.run j with ⟨outcome, k⟩
  rw [sent] at answered
  obtain rfl : outcome = .ok answer := answered
  rw [d.run_test_of_ok sent]

theorem fst_run_test_of_error (ended : d.mapped j = ending)
    (unanswered : ending >>= d.connection.answer "GET" d.mappingPath = .error fault) :
    (d.test.run.run j).1 = if fault.isFailedRequest then
        .ok (.unavailable d.settings.index (fault.message?.getD ""))
      else .error fault := by
  rw [← ended, ← d.fst_run_send_mapping rfl] at unanswered
  rcases sent : (d.connection.send "GET" d.mappingPath .nothing).run.run j with ⟨outcome, k⟩
  rw [sent] at unanswered
  obtain rfl : outcome = .error fault := unanswered
  rw [d.run_test_of_error sent, fst_run_testFailed]

/-- The fault of a reply is made of a reply that has come, so no exchange ends in it. -/
theorem isFailedRequest_of_mapped (ended : d.mapped j = .error fault)
    (unsent : ∀ failure text, fault ≠ .unreachable failure text) :
    fault.isFailedRequest = false := by
  have unanswered : fault.isUnanswered = true := Connection.isUnanswered_of_exchange ended
  cases fault with
  | unreachable failure text => exact absurd rfl (unsent failure text)
  | rejected rejection => cases unanswered
  | _ => rfl

/-- What is told of how the exchange ends is what the test ends in. -/
theorem fst_run_test_of_isTold {outcome : Outcome Verdict} (ended : d.mapped j = ending)
    (told : IsTold d.settings.index ending outcome) : (d.test.run.run j).1 = outcome := by
  cases told with
  | mapped url success read =>
    exact fst_run_test_of_ok ended (d.connection.answer_of_read _ _ success read)
  | rejected url failed =>
    exact fst_run_test_of_error ended (d.connection.answer_of_failed _ _ failed)
  | unreachable failure text => exact fst_run_test_of_error ended rfl
  | @unread url _ error success unread =>
    have escapes : error.fault.isFailedRequest = false := by cases error <;> rfl
    rw [fst_run_test_of_error ended (d.connection.answer_of_unread _ _ success unread), escapes]
    rfl
  | unsent unsent =>
    rw [fst_run_test_of_error ended rfl, isFailedRequest_of_mapped ended unsent]
    rfl

end

/-- A test ends in what is told of the exchange for the mapping.  Its verdict is a success if and
only if the final reply is one and its body can be read, and an error if and only if the final reply
is no success or there is none. -/
theorem test_iff_isTold (d : Datasource) (j : Journal) :
    let outcome := (d.test.run.run j).1
    (∀ told, outcome = told ↔ IsTold d.settings.index (d.mapped j) told) ∧
    (Verdict.HasStatus "success" outcome ↔ IsMapped (d.mapped j)) ∧
    (Verdict.HasStatus "error" outcome ↔ IsFailed (d.mapped j)) := by
  intro outcome
  have ends : IsTold d.settings.index (d.mapped j) outcome := by
    obtain ⟨told, ends⟩ := exists_isTold d.settings.index (d.mapped j)
    rwa [← fst_run_test_of_isTold rfl ends] at ends
  refine ⟨fun told => ⟨?_, fst_run_test_of_isTold rfl⟩, ends.hasStatus_success_iff,
    ends.hasStatus_error_iff⟩
  rintro rfl
  exact ends

/-- A page in place of the mapping gets no verdict, though the reply is a success. -/
theorem page_untold : ∃ url fault,
    someDatasource.mapped (reacting (.reply ⟨200, [], "<html>"⟩)) =
      .ok (url, ⟨200, [], "<html>"⟩) ∧
    (someDatasource.test.run.run (reacting (.reply ⟨200, [], "<html>"⟩))).1 = .error fault ∧
    ∀ status, ¬ Verdict.HasStatus status
      (someDatasource.test.run.run (reacting (.reply ⟨200, [], "<html>"⟩))).1 := by
  obtain ⟨url, ended⟩ := mapped_reacting
  obtain ⟨error, unread⟩ := readBody_page
  have page := ended 200 "<html>" rfl
  have untold := fst_run_test_of_isTold page (.unread url rfl unread)
  refine ⟨url, error.fault, page, untold, fun status => ?_⟩
  rw [untold]
  exact Verdict.not_hasStatus_error status _

end Datasource

end ElasticPanels

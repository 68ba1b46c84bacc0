import ElasticPanels.Proofs.Checks
import ElasticPanels.Proofs.FailedRequests

/-!
# Lookups that clients are blamed for

A lookup that cannot be read is the mistake of the client, who is told so (`IsBlame`).  But the
client is blamed for a lookup that can be read, too, if its request cannot be written, if the reply
is a success that holds no JSON, or if a bucket in it has no name (`IsMisread`), and in no other
case (`Service.blamed_iff_isMisread`): not for a reply that is no success, and not if there is none.
-/

namespace ElasticPanels

open Datasource Search Session

/-- The response blames the client for the query of a lookup. -/
def IsBlame (answer : Outcome Response) : Prop :=
  ∃ text, answer = .ok (.saying 400 ("Invalid metric find query: " ++ text))

/-- The client is blamed for the fault: it lies in a value, and what is said of it can be
written. -/
def Fault.IsBlamed (fault : Fault) : Prop :=
  fault.isBadValue = true ∧ Text.IsWritable (fault.message?.getD "").toList

/-- The value can name a term: it is a text, a number or a truth value. -/
def Json.isName : Json → Bool
  | str _ | int _ | float _ | bool _ => true
  | _ => false

/-- The bucket has a key, but the key or its wording names nothing. -/
def IsNameless (bucket : Json) : Prop :=
  ∃ fields key, bucket = .obj fields ∧ Entries.get? fields "key" = some key ∧
    (key.isName = false ∨ ∃ worded, Entries.get? fields "key_as_string" = some worded ∧
      worded.truthy = true ∧ worded.isName = false)

/-- The buckets in the reply to a lookup of terms. -/
def Suggestion.buckets (reply : Json) : Outcome (List Json) := do
  let slot ← (← reply.entry "responses").item 0
  let found ← slot.entryD "aggregations" .null
  let terms ← (if found.truthy then found else .obj []).entryD "1" .null
  if terms.truthy then (← terms.entryD "buckets" (.arr [])).walk else return []

/-- What a lookup makes of the ending of its exchange is a fault that the client is blamed for. -/
inductive IsMisread (target : Lookup.Target) : Outcome (Url × Http.Reply) → Prop
  | unsent {fault : Fault} (blamed : fault.IsBlamed) : IsMisread target (.error fault)
  | unread (url : Url) {reply : Http.Reply} {error : Json.ReadError}
      (success : Http.isSuccess reply.code = true)
      (unread : Json.readBody reply.body = .error error) : IsMisread target (.ok (url, reply))
  | nameless (url : Url) {reply : Http.Reply} {value bucket : Json} {before after : List Json}
      (terms : target = .terms) (success : Http.isSuccess reply.code = true)
      (read : Json.readBody reply.body = .ok value)
      (listed : Suggestion.buckets value = .ok (before ++ bucket :: after))
      (offered : ∀ b ∈ before, ∃ s, Suggestion.ofBucket b = .ok s)
      (nameless : IsNameless bucket) : IsMisread target (.ok (url, reply))

/-! ## Outcomes with blame -/

namespace Outcome

variable {α β : Type}

/-- The outcome is a fault that the client is blamed for. -/
def Blames (x : Outcome α) : Prop := ∃ fault, x = .error fault ∧ fault.IsBlamed

theorem not_blames_ok (a : α) : ¬ Blames (.ok a) := by
  rintro ⟨fault, ⟨⟩, -⟩

theorem blames_error {fault : Fault} : Blames (.error fault : Outcome α) ↔ fault.IsBlamed := by
  constructor
  · rintro ⟨_, ⟨⟩, blamed⟩
    exact blamed
  · exact fun blamed => ⟨fault, rfl, blamed⟩

theorem not_blames_error {fault : Fault} (h : fault.isBadValue = false) :
    ¬ Blames (.error fault : Outcome α) := by
  rw [blames_error]
  rintro ⟨bad, -⟩
  rw [h] at bad
  cases bad

theorem blames_bind {x : Outcome α} {f : α → Outcome β} :
    Blames (x >>= f) ↔ Blames x ∨ ∃ a, x = .ok a ∧ Blames (f a) := by
  cases x with
  | error fault => simp [bind, Except.bind, blames_error]
  | ok a => simp [bind, Except.bind, not_blames_ok]

theorem blames_map {x : Outcome α} {f : α → β} : Blames (x.map f) ↔ Blames x := by
  cases x with
  | error fault => simp [Except.map, blames_error]
  | ok a => simp [Except.map, not_blames_ok]

/-- Of the steps over a list the first that fails decides. -/
theorem blames_mapM {f : α → Outcome β} {as : List α} :
    Blames (as.mapM f) ↔ ∃ before a after, as = before ++ a :: after ∧
      (∀ b ∈ before, ∃ c, f b = .ok c) ∧ Blames (f a) := by
  -- The head of the list is blamed, or it gives a value and the blame lies with the rest.
  induction as with
  | nil => simp [not_blames_ok, pure, Except.pure]
  | cons a as ih =>
    rw [List.mapM_cons, blames_bind]
    constructor
    · rintro (here | ⟨b, given, later⟩)
      · exact ⟨[], a, as, rfl, by simp, here⟩
      · rw [blames_bind] at later
        obtain rest | ⟨bs, -, done⟩ := later
        · obtain ⟨before, a', after, rfl, fine, blames⟩ := ih.1 rest
          exact ⟨a :: before, a', after, rfl,
            List.forall_mem_cons.2 ⟨⟨b, given⟩, fine⟩, blames⟩
        · exact absurd done (not_blames_ok _)
    · rintro ⟨before, a', after, split, fine, blames⟩
      cases before with
      | nil =>
        obtain ⟨rfl, rfl⟩ := List.cons.inj split
        exact .inl blames
      | cons b before =>
        obtain ⟨rfl, rfl⟩ := List.cons.inj split
        obtain ⟨⟨c, given⟩, fine⟩ := List.forall_mem_cons.1 fine
        exact .inr ⟨c, given, blames_bind.2 (.inl (ih.2 ⟨before, a', after, rfl, fine, blames⟩))⟩

end Outcome

/-! ## What is blamed in a reply -/

section

open Outcome

variable {value : Json} {fault : Fault}

/-! Looking into a value ends in no fault that is blamed, whatever its kind. -/

theorem not_blames_of {α : Type} {x : Outcome α}
    (h : ∀ fault, x = .error fault → fault.isBadValue = false) : ¬ Blames x := by
  rintro ⟨fault, failed, bad, -⟩
  rw [h fault failed] at bad
  cases bad

theorem not_blames_entry (key : String) : ¬ Blames (value.entry key) := by
  refine not_blames_of fun fault failed => ?_
  cases value with
  | obj fields =>
    rw [Json.entry] at failed
    split at failed
    · cases failed
    · cases failed
      rfl
  | _ =>
    cases failed
    rfl

theorem not_blames_entryD (key : String) (default : Json) :
    ¬ Blames (value.entryD key default) := by
  refine not_blames_of fun fault failed => ?_
  cases value with
  | obj fields => cases failed
  | _ =>
    cases failed
    rfl

theorem not_blames_item (i : ℕ) : ¬ Blames (value.item i) := by
  refine not_blames_of fun fault failed => ?_
  cases value with
  | arr items | str s =>
    rw [Json.item] at failed
    split at failed
    · cases failed
    · cases failed
      rfl
  | _ =>
    cases failed
    rfl

theorem not_blames_walk : ¬ Blames value.walk := by
  refine not_blames_of fun fault failed => ?_
  cases value with
  | arr | str | obj => cases failed
  | _ =>
    cases failed
    rfl

theorem not_blames_flatten (kind : Option String) : ¬ Blames (Mapping.flatten value kind) := by
  refine not_blames_of fun fault failed => ?_
  cases value with
  | obj indices => cases failed
  | _ =>
    cases failed
    rfl

theorem not_blames_bind {α β : Type} {x : Outcome α} {f : α → Outcome β} (hx : ¬ Blames x)
    (hf : ∀ a, ¬ Blames (f a)) : ¬ Blames (x >>= f) := by
  rw [blames_bind]
  rintro (h | ⟨a, -, h⟩)
  · exact hx h
  · exact hf a h

theorem not_blames_buckets : ¬ Blames (Suggestion.buckets value) := by
  refine not_blames_bind (not_blames_entry _) fun slots =>
    not_blames_bind (not_blames_item _) fun slot =>
      not_blames_bind (not_blames_entryD _ _) fun found =>
        not_blames_bind (not_blames_entryD _ _) fun terms => ?_
  split_ifs
  · exact not_blames_bind (not_blames_entryD _ _) fun _ => not_blames_walk
  · exact not_blames_ok _

theorem ofReply_eq (reply : Json) : Suggestion.ofReply reply =
    Suggestion.buckets reply >>= fun listed => listed.mapM Suggestion.ofBucket := by
  rw [Suggestion.ofReply, Suggestion.buckets]
  simp only [Suggestion.ofSlot, bind_assoc]
  refine bind_congr fun slots => bind_congr fun slot => bind_congr fun found =>
    bind_congr fun terms => ?_
  split_ifs
  · rw [bind_assoc]
  · rfl

theorem exists_checkScalar : (∃ v, Suggestion.checkScalar value = .ok v) ↔ value.isName = true := by
  cases value <;> simp [Suggestion.checkScalar, Json.isName]

theorem exists_check {label key : Json} :
    (∃ s, Suggestion.check .notRecord (.obj [("label", label), ("value", key)]) = .ok s) ↔
      label.isName = true ∧ key.isName = true := by
  have parts : Suggestion.check .notRecord (.obj [("label", label), ("value", key)]) =
      Suggestion.mk <$> Checked.under (.name "label") (Suggestion.checkScalar label)
        <*> Checked.under (.name "value") (Suggestion.checkScalar key) := rfl
  simp only [parts, Checked.seq_eq_ok, Checked.map_eq_ok, Checked.under_eq_ok,
    ← exists_checkScalar]
  constructor
  · rintro ⟨s, _, v, ⟨l, checked, rfl⟩, other, -⟩
    exact ⟨⟨l, checked⟩, ⟨v, other⟩⟩
  · rintro ⟨⟨l, checked⟩, ⟨v, other⟩⟩
    exact ⟨_, _, v, ⟨l, checked, rfl⟩, other, rfl⟩

theorem blames_outcome {α : Type} {record : String} (ascii : Text.IsAscii record.toList)
    {checked : Checked α} : Blames (checked.outcome record) ↔ ¬ ∃ a, checked = .ok a := by
  cases checked with
  | ok a => simp [Checked.outcome, not_blames_ok]
  | bad issues =>
    have blamed : (Fault.invalid record issues).IsBlamed :=
      ⟨rfl, (isAscii_invalidMessage record ascii issues).isWritable⟩
    simp [Checked.outcome, blames_error, blamed]

/-- The label of a bucket that has a key. -/
def termLabel (fields : Entries Json) (key : Json) : Json :=
  let worded := (Entries.get? fields "key_as_string").getD .null
  if worded.truthy then worded else key

theorem ofBucket_obj {fields : Entries Json} {key : Json}
    (named : Entries.get? fields "key" = some key) :
    Suggestion.ofBucket (.obj fields) = (Suggestion.check .notRecord
      (.obj [("label", termLabel fields key), ("value", key)])).outcome "SuggestionItem" := by
  have entry : Json.entry (.obj fields) "key" = .ok key := by rw [Json.entry, named]
  have worded : Json.entryD (.obj fields) "key_as_string" .null =
      .ok ((Entries.get? fields "key_as_string").getD .null) := rfl
  rw [Suggestion.ofBucket, worded, entry, termLabel]
  dsimp only [bind, Except.bind]
  split_ifs <;> rfl

theorem ofBucket_of_unkeyed {fields : Entries Json} (unkeyed : Entries.get? fields "key" = none) :
    Suggestion.ofBucket (.obj fields) = .error (.missingKey "key") := by
  have entry : Json.entry (.obj fields) "key" = .error (.missingKey "key") := by
    rw [Json.entry, unkeyed]
  have worded : Json.entryD (.obj fields) "key_as_string" .null =
      .ok ((Entries.get? fields "key_as_string").getD .null) := rfl
  rw [Suggestion.ofBucket, worded, entry]
  dsimp only [bind, Except.bind]
  split_ifs <;> rfl

theorem not_isName_termLabel {fields : Entries Json} {key : Json} :
    ¬ ((termLabel fields key).isName = true ∧ key.isName = true) ↔ key.isName = false ∨
      ∃ worded, Entries.get? fields "key_as_string" = some worded ∧ worded.truthy = true ∧
        worded.isName = false := by
  have null : Json.truthy .null = false := rfl
  rw [termLabel]
  cases Entries.get? fields "key_as_string" with
  | none => simp [null]
  | some worded =>
    simp only [Option.getD_some, Option.some.injEq, exists_eq_left']
    cases worded.truthy <;> cases named : key.isName <;> simp [named]

/-- A bucket is blamed for having no name. -/
theorem blames_ofBucket {bucket : Json} :
    Blames (Suggestion.ofBucket bucket) ↔ IsNameless bucket := by
  cases bucket with
  | obj fields =>
    cases named : Entries.get? fields "key" with
    | none =>
      rw [ofBucket_of_unkeyed named]
      refine iff_of_false (not_blames_error rfl) ?_
      rintro ⟨_, key, ⟨⟩, given, -⟩
      rw [named] at given
      cases given
    | some key =>
      rw [ofBucket_obj named, blames_outcome (by decide), exists_check, not_isName_termLabel]
      simp [IsNameless, named]
  | _ =>
    refine iff_of_false (not_blames_of fun fault failed => ?_) ?_
    · cases failed
      rfl
    · rintro ⟨_, _, ⟨⟩, -⟩

theorem blames_ofReply {reply : Json} : Blames (Suggestion.ofReply reply) ↔
    ∃ before bucket after, Suggestion.buckets reply = .ok (before ++ bucket :: after) ∧
      (∀ b ∈ before, ∃ s, Suggestion.ofBucket b = .ok s) ∧ IsNameless bucket := by
  rw [ofReply_eq, blames_bind, or_iff_right not_blames_buckets]
  simp only [blames_mapM, blames_ofBucket]
  constructor
  · rintro ⟨_, listed, before, bucket, after, rfl, offered, nameless⟩
    exact ⟨before, bucket, after, listed, offered, nameless⟩
  · rintro ⟨before, bucket, after, listed, offered, nameless⟩
    exact ⟨_, listed, before, bucket, after, rfl, offered, nameless⟩

end

/-! ## What is blamed in an exchange -/

section

open Outcome

variable {url : Url} {reply : Http.Reply} {ending : Outcome (Url × Http.Reply)}

theorem blames_readBody {body : String} :
    Blames ((Json.readBody body).mapError Json.ReadError.fault) ↔
      ∃ error, Json.readBody body = .error error := by
  cases Json.readBody body with
  | ok value => simp [Except.mapError, not_blames_ok]
  | error error =>
    have bad : error.fault.isBadValue = true := by cases error <;> rfl
    have blamed : error.fault.IsBlamed := ⟨bad, error.isAscii_message.isWritable⟩
    simp [Except.mapError, blames_error, blamed]

theorem blames_searched : Blames (searched (url, reply)) ↔
    Http.isSuccess reply.code = true ∧ ∃ error, Json.readBody reply.body = .error error := by
  rw [searched]
  cases success : Http.isSuccess reply.code with
  | true => simpa [success] using blames_readBody
  | false =>
    have reported : (Rejection.reported ⟨reply.code, url.text, reply.body⟩).isBadValue = false := by
      rw [Rejection.reported]
      cases Rejection.engineError? ⟨reply.code, url.text, reply.body⟩ <;> rfl
    exact iff_of_false (not_blames_error reported) (by simp)

theorem searched_eq_ok {value : Json} : searched (url, reply) = .ok value ↔
    Http.isSuccess reply.code = true ∧ Json.readBody reply.body = .ok value := by
  rw [searched]
  cases success : Http.isSuccess reply.code with
  | true => simp [mapError_eq_ok]
  | false => simp [throw, throwThe, MonadExceptOf.throw]

theorem blames_terms : Blames (ending >>= searched >>= Suggestion.ofReply) ↔
    IsMisread .terms ending := by
  constructor
  · intro blames
    match ending with
    | .error fault => exact .unsent (blames_error.1 blames)
    | .ok (url, reply) =>
      obtain unread | ⟨value, found, blames⟩ := blames_bind.1 blames
      · obtain ⟨success, error, unread⟩ := blames_searched.1 unread
        exact .unread url success unread
      · obtain ⟨success, read⟩ := searched_eq_ok.1 found
        obtain ⟨before, bucket, after, listed, offered, nameless⟩ := blames_ofReply.1 blames
        exact .nameless url rfl success read listed offered nameless
  · intro misread
    cases misread with
    | unsent blamed => exact blames_error.2 blamed
    | unread url success unread =>
      exact blames_bind.2 (.inl (blames_searched.2 ⟨success, _, unread⟩))
    | nameless url _ success read listed offered nameless =>
      exact blames_bind.2 (.inr ⟨_, searched_eq_ok.2 ⟨success, read⟩,
        blames_ofReply.2 ⟨_, _, _, listed, offered, nameless⟩⟩)

theorem blames_answer {c : Connection} {method path : String} :
    Blames (c.answer method path (url, reply)) ↔
      Http.isSuccess reply.code = true ∧ ∃ error, Json.readBody reply.body = .error error := by
  rw [Connection.answer]
  cases success : Http.isSuccess reply.code with
  | true =>
    simp only [if_true, true_and]
    rw [blames_bind, ← blames_readBody, or_iff_left]
    rintro ⟨data, -, blames⟩
    exact not_blames_ok _ blames
  | false => exact iff_of_false (not_blames_error rfl) (by simp)

theorem blames_fields {c : Connection} {path : String} {kind : Option String} :
    Blames (do
      let answer ← ending >>= c.answer "GET" path
      return Mapping.sorted (← Mapping.flatten answer.data kind)) ↔ IsMisread .fields ending := by
  have listed (answer : Answer) : ¬ Blames (do
      return Mapping.sorted (← Mapping.flatten answer.data kind)) :=
    not_blames_bind (not_blames_flatten kind) fun _ => not_blames_ok _
  rw [blames_bind, or_iff_left fun ⟨answer, _, blames⟩ => listed answer blames]
  constructor
  · intro blames
    match ending with
    | .error fault => exact .unsent (blames_error.1 blames)
    | .ok (url, reply) =>
      obtain ⟨success, error, unread⟩ := blames_answer.1 blames
      exact .unread url success unread
  · intro misread
    cases misread with
    | unsent blamed => exact blames_error.2 blamed
    | unread url success unread => exact blames_answer.2 ⟨success, _, unread⟩
    | nameless url terms => cases terms

end

/-! ## The response that blames the client -/

section

variable {j : Journal}

theorem not_isBlame_error (fault : Fault) : ¬ IsBlame (.error fault) := by
  rintro ⟨text, ⟨⟩⟩

theorem not_isBlame_saying {code : ℕ} (h : code ≠ 400) (text : String) :
    ¬ IsBlame (.ok (.saying code text)) := by
  rintro ⟨_, same⟩
  cases same
  exact h rfl

theorem not_isBlame_detail {code : ℕ} (h : code ≠ 400) (text : String) :
    ¬ IsBlame ((Response.detail code text).run.run j).1 := by
  rintro ⟨_, answered⟩
  obtain ⟨-, same⟩ := Response.fst_run_detail_eq_ok.1 answered
  exact not_isBlame_saying h text ⟨_, congrArg Except.ok same.symm⟩

/-- The response to a fault never blames the client. -/
theorem not_isBlame_ofFault (fault : Fault) :
    ¬ IsBlame ((Response.ofFault fault).run.run j).1 := by
  cases fault with
  | engine error =>
    rintro ⟨text, answered⟩
    obtain ⟨-, -, same⟩ := ofFault_engine_eq_ok.1 answered
    cases same
  | rejected rejection =>
    rw [Response.ofFault]
    split_ifs
    · exact not_isBlame_detail (by decide) _
    · exact not_isBlame_detail (by decide) _
  | unreachable failure text => exact not_isBlame_detail (by decide) _
  | _ => exact not_isBlame_error _

theorem not_isBlame_result (value : Json) :
    ¬ IsBlame ((tryCatch (Response.ofResult value) Response.ofFault).run.run j).1 := by
  rw [Response.ofResult]
  split
  · exact not_isBlame_error _
  · exact not_isBlame_error _
  · rintro ⟨text, ⟨⟩⟩

theorem isBlame_lookupFault_iff {fault : Fault} :
    IsBlame ((tryCatch (Response.ofLookupFault fault) Response.ofFault).run.run j).1 ↔
      fault.IsBlamed := by
  rw [Response.ofLookupFault, Fault.IsBlamed]
  cases bad : fault.isBadValue with
  | false =>
    have thrown : (tryCatch (throw fault) Response.ofFault).run.run j =
        (Response.ofFault fault).run.run j := run_tryCatch_of_error rfl
    simpa [thrown] using not_isBlame_ofFault fault
  | true =>
    have told : Text.IsWritable "Invalid metric find query: ".toList := by decide
    let text := "Invalid metric find query: " ++ fault.message?.getD ""
    have answered {response : Response} : ((Response.detail 400 text).run.run j).1 = .ok response ↔
        Text.IsWritable (fault.message?.getD "").toList ∧ response = .saying 400 text := by
      rw [Response.fst_run_detail_eq_ok, Text.isWritable_toList_append, and_iff_right told]
    rw [if_pos rfl]
    -- A text that cannot be written is a fault of its own, which has no response.
    rcases run : (Response.detail 400 text).run.run j with ⟨unwritten | response, k⟩
    · rw [run_tryCatch_of_error run]
      rw [run] at answered
      refine iff_of_false (not_isBlame_ofFault unwritten) fun blamed => ?_
      cases answered.2 ⟨blamed.2, rfl⟩
    · rw [run_tryCatch_of_ok run]
      rw [run] at answered
      obtain ⟨writable, rfl⟩ := answered.1 rfl
      exact iff_of_true ⟨_, rfl⟩ ⟨rfl, writable⟩

/-- A lookup decides by how it ends whether the client is blamed. -/
theorem isBlame_iff_blames {d : Datasource} {raw : Json} {vars : Template.Variables}
    {answer : Outcome Response} {ending : Outcome (Option Findings)}
    (reply : Service.IsReplyOf d (.lookup raw vars) j answer)
    (ends : ∀ i : Journal, i.fresh = j.fresh → ((d.lookup raw vars).run.run i).1 = ending) :
    IsBlame answer ↔ ending.Blames := by
  obtain ⟨i, k, same, rfl⟩ := reply
  rw [Operation.result, run_map_eq, ends i same]
  cases ending with
  | ok found => exact iff_of_false (not_isBlame_result _) (Outcome.not_blames_ok _)
  | error fault => exact isBlame_lookupFault_iff.trans Outcome.blames_error.symm

end

/-- A client whose lookup can be read is blamed for it if and only if the ending of its exchange is
misread. -/
theorem Service.blamed_iff_isMisread {s : Service} {r : Incoming} {override : Option Connection}
    {raw : Json} {vars : Template.Variables} (accepted : Accepts r override (.lookup raw vars))
    {asked : Option Lookup} (read : Lookup.read raw = .ok asked) (j : Journal) :
    let d := s.datasourceOf override
    let k := j.opened override
    IsBlame ((s.handle r).run.run j).1 ↔ ∃ l, asked = some l ∧
      (l.target = .terms ∧ IsMisread .terms (d.posted (d.termsPosting (l.asked vars) vars) k) ∨
        l.target = .fields ∧ IsMisread .fields (d.mapped k)) := by
  intro d k
  have reply : IsReplyOf d (.lookup raw vars) k ((s.handle r).run.run j).1 :=
    handle_of_accepts accepted j
  cases asked with
  | none =>
    rw [isBlame_iff_blames reply fun i _ => by rw [Datasource.lookup, read]; rfl]
    simpa using Outcome.not_blames_ok _
  | some l =>
    simp only [Option.some.injEq, exists_eq_left']
    cases target : l.target with
    | terms =>
      rw [isBlame_iff_blames reply fun i same =>
        d.fst_run_lookup_of_terms vars read target same, Outcome.blames_map, blames_terms]
      simp
    | fields =>
      rw [isBlame_iff_blames reply fun i same =>
        d.fst_run_lookup_of_fields vars read target same, Outcome.blames_map, blames_fields]
      simp
    | other =>
      rw [isBlame_iff_blames reply fun i _ => by rw [d.lookup_of_other vars read target]; rfl]
      simpa using Outcome.not_blames_ok _

/-! ## A lookup of fields -/

/-- A lookup of all fields. -/
def findFields : Json := .obj [("find", .str "fields")]

/-- A request for it. -/
def fieldsLookup : Incoming :=
  ⟨"POST", "/api/metric-find", [("content-type", "application/json")],
    (Json.obj [("query", findFields)]).spacedText⟩

theorem accepts_fieldsLookup : Service.Accepts fieldsLookup none
    (.lookup findFields (withTimes [] .default lookupInterval)) :=
  have body : fieldsLookup.json = .ok (some (.obj [("query", findFields)])) := by
    with_unfolding_all rfl
  ⟨by with_unfolding_all rfl, by simp, .find (by decide +kernel) rfl body rfl⟩

/-- A page is no JSON. -/
theorem readBody_page : ∃ error, Json.readBody "<html>" = .error error :=
  ⟨_, by with_unfolding_all rfl⟩

theorem read_findFields : ∃ l, Lookup.read findFields = .ok (some l) ∧ l.target = .fields :=
  ⟨_, rfl, rfl⟩

/-- How the exchange for the mapping ends after one reply. -/
theorem mapped_reacting : ∃ url, ∀ code body, Http.isRedirect code = false →
    someDatasource.mapped (reacting (.reply ⟨code, [], body⟩)) = .ok (url, ⟨code, [], body⟩) := by
  obtain ⟨url, reaches⟩ : ∃ url, someDatasource.connection.Reaches someDatasource.mappingPath url :=
    ⟨_, rfl, rfl, rfl⟩
  exact ⟨url, fun code body final =>
    mapped_of_next reaches rfl rfl (Reaction.isFinal_plain final body)⟩

/-- The client is blamed for a proper lookup if a page comes back in place of the mapping. -/
theorem page_blamed : ∃ l url,
    Service.Accepts fieldsLookup none
      (.lookup findFields (withTimes [] .default lookupInterval)) ∧
    Lookup.read findFields = .ok (some l) ∧
    (someService.datasourceOf none).mapped (reacting (.reply ⟨200, [], "<html>"⟩)) =
      .ok (url, ⟨200, [], "<html>"⟩) ∧
    IsBlame ((someService.handle fieldsLookup).run.run
      (reacting (.reply ⟨200, [], "<html>"⟩))).1 := by
  obtain ⟨l, given, fields⟩ := read_findFields
  obtain ⟨url, ended⟩ := mapped_reacting
  obtain ⟨error, unread⟩ := readBody_page
  have page := ended 200 "<html>" rfl
  refine ⟨l, url, accepts_fieldsLookup, given, page, ?_⟩
  have reply := Service.handle_of_accepts (s := someService) accepts_fieldsLookup
    (reacting (.reply ⟨200, [], "<html>"⟩))
  rw [isBlame_iff_blames reply fun i same =>
    someDatasource.fst_run_lookup_of_fields _ given fields same, Outcome.blames_map, blames_fields]
  exact page ▸ .unread url rfl unread

/-- The client is blamed for the page, but not for a reply that is no success. -/
theorem page_blamed_error_not :
    Service.Accepts fieldsLookup none
      (.lookup findFields (withTimes [] .default lookupInterval)) ∧
    (∃ asked, Lookup.read findFields = .ok asked) ∧
    IsBlame ((someService.handle fieldsLookup).run.run
      (reacting (.reply ⟨200, [], "<html>"⟩))).1 ∧
    ¬ IsBlame ((someService.handle fieldsLookup).run.run
      (reacting (.reply ⟨500, [], "<html>"⟩))).1 := by
  obtain ⟨l, given, fields⟩ := read_findFields
  obtain ⟨url, ended⟩ := mapped_reacting
  obtain ⟨error, unread⟩ := readBody_page
  have blamed (j : Journal) :=
    Service.blamed_iff_isMisread (s := someService) accepts_fieldsLookup given j
  refine ⟨accepts_fieldsLookup, ⟨_, given⟩, (blamed _).2 ⟨l, rfl, .inr ⟨fields, ?_⟩⟩, fun h => ?_⟩
  · exact (ended 200 "<html>" rfl) ▸ .unread url rfl unread
  · obtain ⟨_, ⟨⟩, ⟨terms, -⟩ | ⟨-, misread⟩⟩ := (blamed _).1 h
    · rw [fields] at terms
      cases terms
    · have failed : IsMisread .fields
          (someDatasource.mapped (reacting (.reply ⟨500, [], "<html>"⟩))) := misread
      rw [ended 500 "<html>" rfl] at failed
      cases failed with
      | unread _ success => cases success
      | nameless _ terms => cases terms

end ElasticPanels

import ElasticPanels.Proofs.Batches

/-!
# Errors that a reply reports

A slot of a reply may carry an error of the search engine (`Json.Reports`).  A batch then ends in
that error (`answer_of_reports`), unless an earlier query ends it (`answersFrom_of_answer`).  A
lookup of terms does not look at the error of its slot: it finds the same with and without one
(`Suggestion.ofSlot_put_error`), and nothing if the slot holds nothing else.
-/

namespace ElasticPanels

open Search Session

/-- The slot carries an error of the search engine. -/
def Json.Reports (slot error : Json) : Prop :=
  slot.entry? "error" = .ok (some error) ∧ error.truthy = true

theorem answer_of_reports (q : PanelQuery) {slot error : Json} (h : slot.Reports error) :
    q.answer slot = .error (.engine error) := by
  have found : slot.entryD "error" .null = .ok error := by
    rw [Json.entryD, h.1]
    rfl
  rw [PanelQuery.answer, found]
  simp only [bind, Except.bind, h.2, if_true]
  rfl

/-- A query that fails ends the batch, unless an earlier one has ended it. -/
theorem answersFrom_of_answer {slots : List Json} {queries : List PanelQuery} {i k : ℕ}
    {q : PanelQuery} {slot : Json} {fault : Fault} (hq : queries[k]? = some q)
    (hs : slots[i + k]? = some slot) (failed : q.answer slot = .error fault) :
    ∃ first, answersFrom (.arr slots) i queries = .error first ∧
      ((∀ j < k, ∀ p s, queries[j]? = some p → slots[i + j]? = some s →
        ∃ found, p.answer s = .ok found) → first = fault) := by
  induction queries generalizing i k with
  | nil => simp at hq
  | cons p queries ih =>
    have here : i < slots.length := by
      have := (List.getElem?_eq_some_iff.1 hs).1
      omega
    rw [answersFrom_cons here]
    cases k with
    | zero =>
      obtain rfl := Option.some.inj hq
      obtain rfl := Option.some.inj ((List.getElem?_eq_getElem here).symm.trans hs)
      exact ⟨fault, by rw [failed]; rfl, fun _ => rfl⟩
    | succ k =>
      cases answered : p.answer slots[i] with
      | error earlier =>
        refine ⟨earlier, rfl, fun others => ?_⟩
        obtain ⟨found, ok⟩ := others 0 (by omega) p _ rfl (List.getElem?_eq_getElem here)
        rw [answered] at ok
        cases ok
      | ok found =>
        have later : i + 1 + k = i + (k + 1) := by omega
        obtain ⟨first, failed', same⟩ := ih (i := i + 1) (k := k) hq (later ▸ hs)
        refine ⟨first, by rw [failed']; rfl, fun others => same fun j hj p s hp hs => ?_⟩
        exact others (j + 1) (by omega) p s hp (by rwa [← Nat.add_assoc, Nat.add_right_comm])

/-! ## Lookups of terms -/

/-- The suggestions of a slot do not depend on its error. -/
theorem Suggestion.ofSlot_put_error (fields : Entries Json) (error : Json) (name : String) :
    Suggestion.ofSlot (.obj (fields.put "error" error)) name =
      Suggestion.ofSlot (.obj fields) name := by
  have same : (Json.obj (fields.put "error" error)).entryD "aggregations" .null =
      (Json.obj fields).entryD "aggregations" .null := by
    rw [Json.entryD, Json.entry?, Entries.get?_put_of_ne _ _ (by decide)]
    rfl
  rw [Suggestion.ofSlot, same, ← Suggestion.ofSlot]

/-- A slot without aggregations has no suggestions. -/
theorem Suggestion.ofSlot_of_absent {fields : Entries Json}
    (absent : fields.get? "aggregations" = none) (name : String) :
    Suggestion.ofSlot (.obj fields) name = .ok [] := by
  rw [Suggestion.ofSlot, Json.entryD, Json.entry?, absent]
  rfl

namespace Datasource

variable (d : Datasource)

/-- The multi-search of a lookup of terms is answered by `reply`. -/
def IsListed (l : Lookup) (vars : Template.Variables) (reply : Json) (before after : Journal) :
    Prop :=
  (multiSearch d.connection .terms d.termsPath
    (resolved vars (termsPayload d.settings l))).run.run before = (.ok reply, after)

variable {d}

/-- A lookup of terms reads the first slot of its reply. -/
theorem IsListed.fieldTerms {l : Lookup} {vars : Template.Variables} {reply slot : Json}
    {others : List Json} {before after : Journal} (listed : d.IsListed l vars reply before after)
    (slots : reply.entry "responses" = .ok (.arr (slot :: others))) :
    (d.fieldTerms l vars).run.run before = (Suggestion.ofSlot slot "1", after) := by
  rw [Datasource.fieldTerms, run_bind_of_ok listed, run_ofOutcome, slots]
  rfl

/-- An error in the slot of a query ends its batch, and it is the fault of the batch if the earlier
queries are answered.  An error in the slot of a lookup changes nothing in what the lookup finds. -/
theorem reported_errors (d : Datasource) :
    (∀ queries filters vars text, d.Sends filters vars queries text →
      ∀ reply slots before after, reply.entry "responses" = .ok (.arr slots) →
        d.IsReplied (visibleQueries queries).length text reply before after →
        ∀ (i : ℕ) (q : PanelQuery) (slot error : Json), (visibleQueries queries)[i]? = some q →
          slots[i]? = some slot → slot.Reports error →
          ∃ fault, (d.runBatch queries filters vars).run.run before = (.error fault, after) ∧
            ((∀ j < i, ∀ (p : PanelQuery) (s : Json), (visibleQueries queries)[j]? = some p →
              slots[j]? = some s → ∃ found, p.answer s = .ok found) → fault = .engine error)) ∧
    (∀ request l, Lookup.read request.query = .ok (some l) → l.target = .terms →
      ∀ reply fields others before after,
        reply.entry "responses" = .ok (.arr (.obj fields :: others)) →
        d.IsListed (l.asked request.allVars) request.allVars reply
          { before with events := before.events ++ [.lookup .terms] } after →
        (d.find request).run.run before =
          ((Suggestion.ofSlot (.obj fields) "1").map .terms, after)) ∧
    (∀ field l, Lookup.ofField field = .ok l →
      ∀ reply fields others before after,
        reply.entry "responses" = .ok (.arr (.obj fields :: others)) →
        d.IsListed l (withTimes [] .default lookupInterval) reply before after →
        (d.tagValues field).run.run before = (Suggestion.ofSlot (.obj fields) "1", after)) ∧
    ∀ fields : Entries Json,
      (∀ error, Suggestion.ofSlot (.obj (fields.put "error" error)) "1" =
        Suggestion.ofSlot (.obj fields) "1") ∧
      (fields.get? "aggregations" = none → Suggestion.ofSlot (.obj fields) "1" = .ok []) := by
  refine ⟨?_, ?_, ?_, fun fields => ⟨fun error => ?_, fun absent => ?_⟩⟩
  · intro queries filters vars text sends reply slots before after listed replied i q slot error
      hq hs reports
    obtain ⟨first, failed, same⟩ := answersFrom_of_answer (i := 0) hq (by rwa [Nat.zero_add])
      (answer_of_reports q reports)
    have outcome : results (visibleQueries queries) reply = .error first := by
      rw [results, listed]
      exact failed
    refine ⟨first, by rw [sends.run replied, outcome], fun earlier => same fun j hj p s hp hs => ?_⟩
    exact earlier j hj p s hp (by rwa [Nat.zero_add] at hs)
  · intro request l given terms reply fields others before after slots listed
    rw [d.find_of_terms given terms, run_bind_of_ok (run_count _ _)]
    cases found : Suggestion.ofSlot (.obj fields) "1" with
    | error fault => exact run_bind_of_error (found ▸ listed.fieldTerms slots)
    | ok terms => exact run_bind_of_ok (found ▸ listed.fieldTerms slots)
  · intro field l given reply fields others before after slots listed
    rw [d.tagValues_eq given]
    exact listed.fieldTerms slots
  · exact Suggestion.ofSlot_put_error fields error "1"
  · exact Suggestion.ofSlot_of_absent absent "1"

/-- The error of a refused query is the fault of its batch. -/
theorem overTime_reported : ∃ text after, someDatasource.Sends [] [] [overTime] text ∧
    someDatasource.IsReplied 1 text (.obj [("responses", .arr refusedSlots)]) refusal after ∧
    (someDatasource.runBatch [overTime] [] []).run.run refusal =
      (.error (.engine (.str "full")), after) := by
  have visible : visibleQueries [overTime] = [overTime] := visibleQueries_single rfl
  obtain ⟨entries, made⟩ : ∃ entries,
      [overTime].mapM (entry someSettings [] []) = .ok entries := ⟨_, rfl⟩
  have sends : someDatasource.Sends [] [] [overTime] (resolved [] (write entries)) :=
    sends_of_sentText (by simp [visible]) (by rw [visible]; exact sentText_of_entries made)
  have sendable : Text.Encoding.utf8.require (resolved [] (write entries)) = .ok () :=
    require_resolved (by simp [Template.Variables.inserted, Template.Variables.knows])
  obtain ⟨after, replied⟩ := isReplied_refusal sendable 1
  obtain ⟨fault, run, same⟩ := (reported_errors someDatasource).1 [overTime] [] [] _ sends _
    refusedSlots refusal after rfl (by rwa [visible]) 0 overTime _ (.str "full")
    (by rw [visible]; rfl) rfl ⟨rfl, rfl⟩
  exact ⟨_, after, sends, replied, by rw [run, same fun j hj => absurd hj (by omega)]⟩

/-- The lookup of the terms of a host field can be sent. -/
theorem sendable_hostTerms : ∃ l, Lookup.ofField (.str "host") = .ok l ∧
    Text.Encoding.utf8.require (resolved (withTimes [] .default lookupInterval)
      (termsPayload someDatasource.settings l)) = .ok () := by
  let vars := withTimes [] .default lookupInterval
  let entry (l : Lookup) : Entry :=
    ⟨someSettings.header someSettings.version.termsSearchType, l.termsBody someSettings.timeField⟩
  obtain ⟨l, given, size, put⟩ : ∃ l, Lookup.ofField (.str "host") = .ok l ∧ l.size = none ∧
      ∀ v ∈ [entry l].flatMap Entry.values, ∀ s ∈ v.texts, ∀ text ∈ Json.putInto vars s,
        ∀ c ∈ text, Text.isStandIn c = false := ⟨_, rfl, rfl, by decide +kernel⟩
  have unnamed (name : String) (bare : Json.isBareName name = true) :=
    (not_known_of_bare (by decide) bare : vars.get? name = none)
  have legible : ∀ v ∈ [entry l].flatMap Entry.values, Json.Legible v := by
    simpa [Entry.values] using ⟨(isWire_sentJson (by decide) _).legible,
      (isWire_termsBody (by simp [size]) _).legible⟩
  exact ⟨l, given, require_resolved (forall_inserted (unnamed_knows unnamed) legible put)⟩

/-- A lookup whose query the engine refuses finds no terms, and no fault. -/
theorem refused_terms_empty : ∃ l after, Lookup.ofField (.str "host") = .ok l ∧
    someDatasource.IsListed l (withTimes [] .default lookupInterval)
      (.obj [("responses", .arr refusedSlots)]) refusal after ∧
    (∃ slot ∈ refusedSlots.head?, slot.Reports (.str "full")) ∧
    (someDatasource.tagValues (.str "host")).run.run refusal = (.ok [], after) := by
  obtain ⟨l, given, sendable⟩ := sendable_hostTerms
  have reaches : ∃ url, someDatasource.connection.Reaches someDatasource.termsPath url :=
    ⟨_, rfl, rfl, rfl⟩
  obtain ⟨after, listed⟩ : ∃ after, someDatasource.IsListed l
      (withTimes [] .default lookupInterval) (.obj [("responses", .arr refusedSlots)]) refusal
      after := multiSearch_refusal .terms reaches sendable []
  refine ⟨l, after, given, listed, ⟨_, rfl, rfl, rfl⟩, ?_⟩
  rw [someDatasource.tagValues_eq given, IsListed.fieldTerms listed rfl]
  rfl

end Datasource

end ElasticPanels

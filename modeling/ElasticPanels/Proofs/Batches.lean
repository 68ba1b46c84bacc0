import ElasticPanels.Proofs.Runs
import ElasticPanels.Proofs.SentLines

/-!
# Batches of queries

A batch of panel queries is answered as its queries are one by one.  What is sent for it
(`Search.sentText`) is what is sent for each query, joined in order, because no reference reaches
from one line into the next (`resolved_write`); and each query reads its own slot, up to the first
that fails (`results_eq`).  So neither the payload nor the results of a query depend on the other
queries of the batch (`runBatch_of_singles`).
-/

namespace ElasticPanels

open Search Session

/-! ## What is sent -/

namespace Search

/-- The text that is sent for panel queries: their payload after the second pass. -/
def sentText (settings : Settings) (filters : List AdhocFilter) (vars : Template.Variables)
    (queries : List PanelQuery) : Outcome String :=
  (payload settings filters vars queries).map (resolved vars)

variable {settings : Settings} {filters : List AdhocFilter} {vars : Template.Variables}
  {queries : List PanelQuery}

theorem sentText_of_entries {entries : List Entry}
    (made : queries.mapM (entry settings filters vars) = .ok entries) :
    sentText settings filters vars queries = .ok (resolved vars (write entries)) := by
  rw [sentText, payload, made]
  rfl

theorem exists_entries {text : String} (sent : sentText settings filters vars queries = .ok text) :
    ∃ entries, queries.mapM (entry settings filters vars) = .ok entries ∧
      text = resolved vars (write entries) := by
  obtain ⟨first, made, rfl⟩ := Outcome.map_eq_ok.1 sent
  obtain ⟨entries, each, written⟩ := Outcome.bind_eq_ok.1 made
  obtain rfl := Outcome.pure_eq_ok.1 written
  exact ⟨entries, each, rfl⟩

theorem unlines_append (a b : List String) : unlines (a ++ b) = unlines a ++ unlines b := by
  rw [unlines, List.map_append, String.join_append]
  rfl

/-- The second pass over a payload is one over each of its searches. -/
theorem resolved_write (vars : Template.Variables) (entries : List Entry) :
    resolved vars (write entries) =
      String.join (entries.map fun e => resolved vars (write [e])) := by
  induction entries with
  | nil => rfl
  | cons e entries ih =>
    have single : write [e] = unlines e.lines := by rw [write, List.flatMap_singleton]
    have first : write (e :: entries) = unlines (e.lines ++ entries.flatMap Entry.lines) := rfl
    rw [List.map_cons, String.join_cons, ← ih, single, first, write, resolved_unlines,
      resolved_unlines, resolved_unlines, List.map_append, unlines_append]

/-- What is sent for several queries is what is sent for each of them, in order. -/
theorem sentText_eq_join (settings : Settings)
    (built : ∀ q ∈ queries, ∃ body, q.body filters (expandedText vars q) = .ok body) :
    ∃ texts, List.Forall₂ (fun q text => sentText settings filters vars [q] = .ok text)
        queries texts ∧
      sentText settings filters vars queries = .ok (String.join texts) := by
  obtain ⟨entries, made⟩ := mapM_entry settings built
  refine ⟨entries.map fun e => resolved vars (write [e]), ?_, ?_⟩
  · rw [List.forall₂_map_right_iff]
    refine (Outcome.mapM_eq_ok.1 made).imp fun q e h => sentText_of_entries ?_
    rw [List.mapM_cons, h]
    rfl
  · rw [sentText_of_entries made, resolved_write]

theorem ascii_write {entries : List Entry} : ∀ c ∈ (write entries).toList, c.toNat < 0x80 := by
  intro c hc
  rw [write_eq, toList_unlines, List.flatMap_map] at hc
  obtain ⟨v, -, hc⟩ := List.mem_flatMap.1 hc
  rcases List.mem_append.1 hc with hc | hc
  · have := Json.isPrintable_spacedText v c hc
    simp only [Json.isPrintable, Bool.and_eq_true, decide_eq_true_eq] at this
    omega
  · obtain rfl := List.mem_singleton.1 hc
    decide

theorem isStandIn_of_low {c : Char} (h : c.toNat < 0x80) : Text.isStandIn c = false := by
  have : ¬ Text.standInShift ≤ c.toNat := by
    unfold Text.standInShift
    omega
  simp [Text.isStandIn, this]

/-- A text that is sent can be encoded if what is put in can: all else is in ASCII. -/
theorem require_resolved {entries : List Entry}
    (put : ∀ put ∈ vars.inserted (write entries), ∀ c ∈ put, Text.isStandIn c = false) :
    Text.Encoding.utf8.require (resolved vars (write entries)) = .ok () := by
  have none : Text.Encoding.utf8.gap? (resolved vars (write entries)).toList = none := by
    rw [Text.Encoding.gap?_eq_none_iff]
    intro c hc
    by_contra lacks
    have standIn : Text.isStandIn c = true := by simpa [Text.Encoding.lacks] using lacks
    have other : c ∉ (write entries).toList := fun mem => by
      rw [isStandIn_of_low (ascii_write _ mem)] at standIn
      cases standIn
    refine (Template.not_mem_replace_iff vars other).2 (fun text ht mem => ?_) hc
    rw [put text ht c mem] at standIn
    cases standIn
  rw [Text.Encoding.require, none]

end Search

/-! ## What comes back -/

/-- A reply with this slot only. -/
def replyOf (slot : Json) : Json := .obj [("responses", .arr [slot])]

theorem results_replyOf (q : PanelQuery) (slot : Json) :
    results [q] (replyOf slot) = q.answer slot := by
  have only : results [q] (replyOf slot) =
      q.answer slot >>= fun found => pure (found ++ []) := rfl
  simp only [only, List.append_nil, bind_pure]

theorem answersFrom_cons {slots : List Json} {i : ℕ} (here : i < slots.length) (q : PanelQuery)
    (queries : List PanelQuery) :
    answersFrom (.arr slots) i (q :: queries) =
      q.answer slots[i] >>= fun found =>
        answersFrom (.arr slots) (i + 1) queries >>= fun rest => pure (found ++ rest) := by
  have item : Json.item (.arr slots) i = .ok slots[i] := by
    rw [Json.item, List.getElem?_eq_getElem here]
  rw [answersFrom, item]
  rfl

theorem answersFrom_eq {slots : List Json} {i : ℕ} {queries : List PanelQuery}
    (enough : i + queries.length ≤ slots.length) :
    answersFrom (.arr slots) i queries =
      ((queries.zip (slots.drop i)).mapM fun part : PanelQuery × Json =>
        part.1.answer part.2).map List.flatten := by
  induction queries generalizing i with
  | nil => rfl
  | cons q queries ih =>
    rw [List.length_cons] at enough
    have here : i < slots.length := by omega
    rw [answersFrom_cons here, List.drop_eq_getElem_cons here, List.zip_cons_cons,
      List.mapM_cons, ih (by omega)]
    dsimp only [Bind.bind, Except.bind]
    cases q.answer slots[i] with
    | error fault => rfl
    | ok results =>
      dsimp only
      cases (queries.zip (slots.drop (i + 1))).mapM fun part : PanelQuery × Json =>
        part.1.answer part.2 <;> rfl

/-- Each query reads the slot at its own place, and the first that fails decides. -/
theorem results_eq {queries : List PanelQuery} {reply : Json} {slots : List Json}
    (listed : reply.entry "responses" = .ok (.arr slots))
    (enough : queries.length ≤ slots.length) :
    results queries reply =
      ((queries.zip slots).mapM fun part : PanelQuery × Json =>
        results [part.1] (replyOf part.2)).map List.flatten := by
  have from0 : results queries reply = answersFrom (.arr slots) 0 queries := by
    rw [results, listed]
    rfl
  simp only [results_replyOf]
  rw [from0, answersFrom_eq (by omega), List.drop_zero]

/-! ## Whole batches -/

namespace Datasource

variable (d : Datasource) (filters : List AdhocFilter) (vars : Template.Variables)

/-- The text is sent for the visible ones of some queries, as the payload of a multi-search whose
reply gives the results. -/
def Sends (queries : List PanelQuery) (text : String) : Prop :=
  sentText d.settings filters vars (visibleQueries queries) = .ok text ∧
    d.runBatch queries filters vars = (do
      count (.batch (visibleQueries queries).length)
      let reply ← multiSearch d.connection .query multiSearchPath text
      ofOutcome (results (visibleQueries queries) reply))

/-- The multi-search of `text` for `n` queries is answered by `reply`. -/
def IsReplied (n : ℕ) (text : String) (reply : Json) (before after : Journal) : Prop :=
  (multiSearch d.connection .query multiSearchPath text).run.run
    { before with events := before.events ++ [.batch n] } = (.ok reply, after)

variable {d filters vars} {queries : List PanelQuery} {text : String}

theorem sends_of_sentText (any : visibleQueries queries ≠ [])
    (sent : sentText d.settings filters vars (visibleQueries queries) = .ok text) :
    d.Sends filters vars queries text := by
  obtain ⟨first, made, rfl⟩ := Outcome.map_eq_ok.1 sent
  exact ⟨sent, runBatch_eq d any made⟩

/-- The reply that a batch gets decides its outcome. -/
theorem Sends.run (sends : d.Sends filters vars queries text) {reply : Json}
    {before after : Journal}
    (replied : d.IsReplied (visibleQueries queries).length text reply before after) :
    (d.runBatch queries filters vars).run.run before =
      (results (visibleQueries queries) reply, after) := by
  rw [sends.2, run_bind_of_ok (run_count _ _), run_bind_of_ok replied, run_ofOutcome]

/-- The slots of a reply, the first of them an error. -/
def refusedSlots : List Json := [.obj [("error", .str "full")], .obj []]

/-- A session with the reply to come. -/
def refusal : Journal :=
  ⟨0, [.reply ⟨200, [], (Json.obj [("responses", .arr refusedSlots)]).spacedText⟩], [], [], [],
    .empty⟩

theorem multiSearch_refusal (kind : SearchKind) {path text : String}
    (reaches : ∃ url, someDatasource.connection.Reaches path url)
    (sendable : Text.Encoding.utf8.require text = .ok ()) (events : List Telemetry.Event) :
    ∃ after, (multiSearch someDatasource.connection kind path text).run.run
      { refusal with events } = (.ok (.obj [("responses", .arr refusedSlots)]), after) := by
  obtain ⟨url, reaches⟩ := reaches
  have legible : (Json.obj [("responses", .arr refusedSlots)]).Legible := by
    refine .obj (List.forall_mem_singleton.2 (.arr (List.forall_mem_cons.2 ⟨?_, ?_⟩)))
    · exact .obj (List.forall_mem_singleton.2 (.str _))
    · exact List.forall_mem_singleton.2 (.obj (by simp))
  have read : Json.readBody (Json.obj [("responses", .arr refusedSlots)]).spacedText =
      .ok (.obj [("responses", .arr refusedSlots)]) :=
    Json.readBody_spacedText legible (by decide +kernel)
  exact run_multiSearch kind reaches sendable rfl rfl read

theorem isReplied_refusal {text : String} (sendable : Text.Encoding.utf8.require text = .ok ())
    (n : ℕ) : ∃ after, someDatasource.IsReplied n text (.obj [("responses", .arr refusedSlots)])
      refusal after := by
  have reaches : ∃ url, someDatasource.connection.Reaches multiSearchPath url := ⟨_, rfl, rfl, rfl⟩
  exact multiSearch_refusal .query reaches sendable [.batch n]

/-- What a batch sends is what its queries send by themselves, in order, and its outcome is made of
theirs: all their results in order, or the fault of the first query that fails. -/
theorem runBatch_of_singles (d : Datasource) (filters : List AdhocFilter)
    (vars : Template.Variables) (queries : List PanelQuery)
    (shown : ∀ q ∈ queries, q.hide = false)
    (built : ∀ q ∈ queries, ∃ body, q.body filters (expandedText vars q) = .ok body) :
    ∃ texts, List.Forall₂ (fun q text => d.Sends filters vars [q] text) queries texts ∧
      (queries ≠ [] → d.Sends filters vars queries (String.join texts)) ∧
      (queries = [] → d.runBatch queries filters vars = pure []) ∧
      (∀ q ∈ queries, ∀ text slot before after, d.Sends filters vars [q] text →
        d.IsReplied 1 text (replyOf slot) before after →
        (d.runBatch [q] filters vars).run.run before = (results [q] (replyOf slot), after)) ∧
      ∀ reply slots before after, queries ≠ [] →
        reply.entry "responses" = .ok (.arr slots) → queries.length ≤ slots.length →
        d.IsReplied queries.length (String.join texts) reply before after →
        (d.runBatch queries filters vars).run.run before =
          (((queries.zip slots).mapM fun part : PanelQuery × Json =>
            results [part.1] (replyOf part.2)).map List.flatten, after) := by
  have visible := visibleQueries_of_shown shown
  obtain ⟨texts, singles, whole⟩ := sentText_eq_join d.settings built
  have sends (any : queries ≠ []) : d.Sends filters vars queries (String.join texts) :=
    sends_of_sentText (by rwa [visible]) (by rwa [visible])
  refine ⟨texts, ?_, sends, ?_, ?_, ?_⟩
  · refine ((List.forall₂_and_left _ _).2 ⟨shown, singles⟩).imp fun q text h => ?_
    have alone := visibleQueries_single h.1
    exact sends_of_sentText (by simp [alone]) (alone.symm ▸ h.2)
  · rintro rfl
    rfl
  · intro q hq text slot before after sent replied
    have alone := visibleQueries_single (shown q hq)
    rw [sent.run (by rwa [alone]), alone]
  · intro reply slots before after any listed enough replied
    rw [(sends any).run (by rwa [visible]), visible, results_eq listed enough]

/-- Of two queries the first is refused, and so is their batch. -/
theorem overTime_twice_refused : (∀ q ∈ [overTime, overTime], q.hide = false) ∧
    (∀ q ∈ [overTime, overTime], ∃ body, q.body [] (expandedText [] q) = .ok body) ∧
    ∃ text after, someDatasource.Sends [] [] [overTime, overTime] text ∧
      someDatasource.IsReplied 2 text (.obj [("responses", .arr refusedSlots)]) refusal after ∧
      (someDatasource.runBatch [overTime, overTime] [] []).run.run refusal =
        (.error (.engine (.str "full")), after) := by
  have shown : ∀ q ∈ [overTime, overTime], q.hide = false := by simp [overTime]
  have built : ∀ q ∈ [overTime, overTime], ∃ body,
      q.body [] (expandedText [] q) = .ok body := by
    simpa using (⟨_, rfl⟩ : ∃ body, overTime.body [] (expandedText [] overTime) = .ok body)
  obtain ⟨texts, -, sends, -, -, whole⟩ :=
    runBatch_of_singles someDatasource [] [] [overTime, overTime] shown built
  obtain ⟨entries, -, sent⟩ := exists_entries (sends (by simp)).1
  have sendable : Text.Encoding.utf8.require (String.join texts) = .ok () := sent ▸
    require_resolved (by simp [Template.Variables.inserted, Template.Variables.knows])
  obtain ⟨after, replied⟩ := isReplied_refusal sendable 2
  exact ⟨shown, built, _, after, sends (by simp), replied,
    whole _ refusedSlots refusal after (by simp) rfl (by decide) replied⟩

end Datasource

end ElasticPanels

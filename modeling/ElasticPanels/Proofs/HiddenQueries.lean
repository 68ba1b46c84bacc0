import ElasticPanels.Proofs.Batches
import ElasticPanels.Proofs.Checks
import Mathlib.Logic.Relation

/-!
# Hidden queries

A batch is answered as if its hidden queries were not there.  Hidden queries may be inserted,
deleted and changed anywhere (`HiddenEdit`), which leads to all batches with the same visible
queries (`hiddenEdits_iff`), and as these stay the same, so does the whole operation
(`runBatch_of_edits`).
The slots of a reply belong to the visible queries in their order, and what a query gets from its
slot carries its name (`refId_of_answer`), so the results come in one group for each visible query
(`groups_of_answersFrom`).
-/

namespace ElasticPanels

open Search Session

/-! ## Edits -/

/-- One edit of a hidden query of a batch. -/
inductive HiddenEdit : List PanelQuery → List PanelQuery → Prop
  | insert (before after : List PanelQuery) {q : PanelQuery} (hidden : q.hide = true) :
    HiddenEdit (before ++ after) (before ++ q :: after)
  | delete (before after : List PanelQuery) {q : PanelQuery} (hidden : q.hide = true) :
    HiddenEdit (before ++ q :: after) (before ++ after)
  | change (before after : List PanelQuery) {p q : PanelQuery} (hidden : p.hide = true)
      (still : q.hide = true) : HiddenEdit (before ++ p :: after) (before ++ q :: after)

/-- Some edits of hidden queries, one after the other. -/
abbrev HiddenEdits : List PanelQuery → List PanelQuery → Prop := Relation.ReflTransGen HiddenEdit

section

variable {queries others : List PanelQuery} {q : PanelQuery}

theorem HiddenEdit.visible_eq (h : HiddenEdit queries others) :
    visibleQueries others = visibleQueries queries := by
  cases h with
  | insert before after hidden => simp [visibleQueries, hidden]
  | delete before after hidden => simp [visibleQueries, hidden]
  | change before after hidden still => simp [visibleQueries, hidden, still]

theorem HiddenEdits.visible_eq (h : HiddenEdits queries others) :
    visibleQueries others = visibleQueries queries := by
  induction h with
  | refl => rfl
  | tail _ last ih => exact last.visible_eq.trans ih

theorem HiddenEdit.cons (p : PanelQuery) (h : HiddenEdit queries others) :
    HiddenEdit (p :: queries) (p :: others) := by
  cases h with
  | insert before after hidden => exact .insert (p :: before) after hidden
  | delete before after hidden => exact .delete (p :: before) after hidden
  | change before after hidden still => exact .change (p :: before) after hidden still

/-- All hidden queries can be deleted one by one, and inserted again. -/
theorem hiddenEdits_visible (queries : List PanelQuery) :
    HiddenEdits queries (visibleQueries queries) ∧
      HiddenEdits (visibleQueries queries) queries := by
  induction queries with
  | nil => exact ⟨.refl, .refl⟩
  | cons q queries ih =>
    obtain ⟨deletes, inserts⟩ := ih
    cases hidden : q.hide with
    | true =>
      have same : visibleQueries (q :: queries) = visibleQueries queries := by
        simp [visibleQueries, hidden]
      rw [same]
      exact ⟨.head (.delete [] queries hidden) deletes, .tail inserts (.insert [] queries hidden)⟩
    | false =>
      have same : visibleQueries (q :: queries) = q :: visibleQueries queries := by
        simp [visibleQueries, hidden]
      rw [same]
      exact ⟨deletes.lift _ fun _ _ => .cons q, inserts.lift _ fun _ _ => .cons q⟩

/-- Two batches are edits of each other if and only if they have the same visible queries. -/
theorem hiddenEdits_iff :
    HiddenEdits queries others ↔ visibleQueries others = visibleQueries queries := by
  refine ⟨HiddenEdits.visible_eq, fun same => ?_⟩
  refine (hiddenEdits_visible queries).1.trans ?_
  rw [← same]
  exact (hiddenEdits_visible others).2

end

/-! ## Names of results -/

/-- The name of the query that a result belongs to. -/
def PanelResult.refId : PanelResult → String
  | series s => s.refId
  | documents d => d.refId

@[simp]
theorem PanelResult.refId_series (s : TimeSeries) : (series s).refId = s.refId := rfl

@[simp]
theorem PanelResult.refId_documents (d : Documents) : (documents d).refId = d.refId := rfl

namespace PanelQuery

variable {q : PanelQuery}

theorem refId_of_single {name : String} {points : Outcome (List (Json × Json))}
    {found : List TimeSeries}
    (h : (do return [← q.series name (← points)]) = Except.ok found) :
    ∀ s ∈ found, s.refId = q.refId := by
  obtain ⟨s, rfl, -, refId⟩ := exists_series_of_single h
  simpa using refId

theorem refId_of_metricSeries {labels : Entries String} {buckets : Json} {m : Metric}
    {found : List TimeSeries} (h : q.metricSeries labels buckets m = .ok found) :
    ∀ s ∈ found, s.refId = q.refId := by
  rw [metricSeries] at h
  split at h
  · exact refId_of_single h
  · obtain ⟨percents, -, each⟩ := Outcome.bind_eq_ok.1 h
    intro s hs
    obtain ⟨percent, -, made⟩ := Outcome.exists_of_mapM each hs
    obtain ⟨points, -, made⟩ := Outcome.bind_eq_ok.1 made
    exact (names_of_series made).2
  · exact refId_of_single h

theorem refId_of_seriesBelow {levels : List Bucketing} {aggregations : Json}
    {labels : Entries String} {found : List TimeSeries}
    (h : q.seriesBelow aggregations labels levels = .ok found) :
    ∀ s ∈ found, s.refId = q.refId := by
  -- Only the innermost level makes series, all others hand on those of their buckets.
  induction levels generalizing aggregations labels found with
  | nil =>
    obtain rfl := Outcome.pure_eq_ok.1 h
    simp
  | cons b inner ih =>
    rw [seriesBelow] at h
    obtain ⟨aggregation, -, h⟩ := Outcome.bind_eq_ok.1 h
    split at h
    · obtain rfl := Outcome.pure_eq_ok.1 h
      simp
    · obtain ⟨buckets, -, h⟩ := Outcome.bind_eq_ok.1 h
      split_ifs at h
      · obtain ⟨groups, each, h⟩ := Outcome.bind_eq_ok.1 h
        obtain rfl := Outcome.pure_eq_ok.1 h
        intro s hs
        obtain ⟨group, hg, hs⟩ := List.mem_flatten.1 hs
        obtain ⟨m, -, made⟩ := Outcome.exists_of_mapM each hg
        exact refId_of_metricSeries made s hs
      · obtain ⟨walked, -, h⟩ := Outcome.bind_eq_ok.1 h
        obtain ⟨groups, each, h⟩ := Outcome.bind_eq_ok.1 h
        obtain rfl := Outcome.pure_eq_ok.1 h
        intro s hs
        obtain ⟨group, hg, hs⟩ := List.mem_flatten.1 hs
        obtain ⟨bucket, -, made⟩ := Outcome.exists_of_mapM each hg
        obtain ⟨label, -, made⟩ := Outcome.bind_eq_ok.1 made
        exact ih made s hs

theorem refId_of_documents {slot : Json} {d : Documents} (h : Documents.ofSlot q slot = .ok d) :
    d.refId = q.refId := by
  obtain ⟨hits, -, h⟩ := Outcome.bind_eq_ok.1 h
  obtain ⟨total, -, h⟩ := Outcome.bind_eq_ok.1 h
  obtain ⟨listed, -, h⟩ := Outcome.bind_eq_ok.1 h
  obtain ⟨walked, -, h⟩ := Outcome.bind_eq_ok.1 h
  obtain ⟨found, -, h⟩ := Outcome.bind_eq_ok.1 h
  obtain ⟨make, documents, made, -, rfl⟩ := Checked.seq_eq_ok.1 (Checked.outcome_eq_ok.1 h)
  obtain ⟨number, -, rfl⟩ := Checked.map_eq_ok.1 made
  rfl

/-- What a query gets from its slot carries its name. -/
theorem refId_of_answer {slot : Json} {found : List PanelResult} (h : q.answer slot = .ok found) :
    ∀ x ∈ found, x.refId = q.refId := by
  obtain ⟨error, -, h⟩ := Outcome.bind_eq_ok.1 h
  cases refused : error.truthy with
  | true =>
    rw [refused] at h
    cases h
  | false =>
    rw [refused] at h
    cases raw : q.isRawDocument with
    | true =>
      rw [raw] at h
      obtain ⟨documents, made, h⟩ := Outcome.bind_eq_ok.1 h
      obtain rfl := Outcome.pure_eq_ok.1 h
      simpa using refId_of_documents made
    | false =>
      rw [raw] at h
      obtain ⟨aggregations, -, h⟩ := Outcome.bind_eq_ok.1 h
      obtain ⟨series, made, h⟩ := Outcome.bind_eq_ok.1 h
      obtain rfl := Outcome.pure_eq_ok.1 h
      simpa using refId_of_seriesBelow made

end PanelQuery

/-- The results of a query, given as the part of the reply at its number. -/
def IsGroupOf (slots : Json) (place : PanelQuery × ℕ) (group : List PanelResult) : Prop :=
  (∃ slot, slots.item place.2 = .ok slot ∧ place.1.answer slot = .ok group) ∧
    ∀ x ∈ group, x.refId = place.1.refId

theorem groups_of_answersFrom {slots : Json} {i : ℕ} {queries : List PanelQuery}
    {found : List PanelResult} (h : answersFrom slots i queries = .ok found) :
    ∃ groups, List.Forall₂ (IsGroupOf slots) (queries.zipIdx i) groups ∧
      found = groups.flatten := by
  induction queries generalizing i found with
  | nil =>
    obtain rfl := Outcome.pure_eq_ok.1 h
    exact ⟨[], .nil, rfl⟩
  | cons q queries ih =>
    rw [answersFrom] at h
    obtain ⟨slot, item, h⟩ := Outcome.bind_eq_ok.1 h
    obtain ⟨group, answered, h⟩ := Outcome.bind_eq_ok.1 h
    obtain ⟨rest, others, h⟩ := Outcome.bind_eq_ok.1 h
    obtain rfl := Outcome.pure_eq_ok.1 h
    obtain ⟨groups, each, rfl⟩ := ih others
    exact ⟨group :: groups, .cons ⟨⟨slot, item, answered⟩, q.refId_of_answer answered⟩ each, rfl⟩

/-! ## Batches -/

namespace Datasource

variable {d : Datasource} {filters : List AdhocFilter} {vars : Template.Variables}
  {queries others : List PanelQuery}

/-- Edits of hidden queries change nothing in what a batch does and gives. -/
theorem runBatch_of_edits (edits : HiddenEdits queries others) :
    d.runBatch others filters vars = d.runBatch queries filters vars := by
  rw [Datasource.runBatch, Datasource.runBatch, edits.visible_eq]

/-- A batch that has results has sent its visible queries, and has read a reply to them. -/
theorem exists_reply_of_run {before after : Journal} {found : List PanelResult}
    (any : visibleQueries queries ≠ [])
    (run : (d.runBatch queries filters vars).run.run before = (.ok found, after)) :
    ∃ text reply, d.Sends filters vars queries text ∧
      d.IsReplied (visibleQueries queries).length text reply before after ∧
      results (visibleQueries queries) reply = .ok found := by
  cases made : payload d.settings filters vars (visibleQueries queries) with
  | error fault =>
    rw [d.run_unbuilt any made] at run
    cases run
  | ok written =>
    have sends : d.Sends filters vars queries (resolved vars written) := by
      refine sends_of_sentText any ?_
      rw [sentText, made]
      rfl
    rw [sends.2, run_bind_of_ok (run_count _ _)] at run
    rcases searched : (multiSearch d.connection .query multiSearchPath
        (resolved vars written)).run.run { before with
          events := before.events ++ [.batch (visibleQueries queries).length] } with ⟨outcome, k⟩
    cases outcome with
    | error fault =>
      rw [run_bind_of_error searched] at run
      cases run
    | ok reply =>
      rw [run_bind_of_ok searched, run_ofOutcome] at run
      obtain ⟨read, rfl⟩ := Prod.mk.inj run
      exact ⟨_, reply, sends, searched, read⟩

/-- Hidden queries have no influence: edits of them leave the whole operation as it is, nothing
happens for hidden queries alone, and the results of a batch come in one group for each visible
query, read from the slot at its place among them. -/
theorem hidden_queries (d : Datasource) (filters : List AdhocFilter) (vars : Template.Variables) :
    (∀ queries others, HiddenEdits queries others →
      d.runBatch others filters vars = d.runBatch queries filters vars) ∧
    (∀ queries, (∀ q ∈ queries, q.hide = true) → ∀ j,
      (d.runBatch queries filters vars).run.run j = (.ok [], j)) ∧
    ∀ queries before found after, visibleQueries queries ≠ [] →
      (d.runBatch queries filters vars).run.run before = (.ok found, after) →
      ∃ text reply slots groups, d.Sends filters vars queries text ∧
        d.IsReplied (visibleQueries queries).length text reply before after ∧
        reply.entry "responses" = .ok slots ∧
        List.Forall₂ (IsGroupOf slots) (visibleQueries queries).zipIdx groups ∧
        found = groups.flatten := by
  refine ⟨fun queries others => runBatch_of_edits, fun queries hidden j => ?_, ?_⟩
  · rw [d.runBatch_of_none (visibleQueries_of_hidden hidden)]
    rfl
  · intro queries before found after any run
    obtain ⟨text, reply, sends, replied, read⟩ := exists_reply_of_run any run
    obtain ⟨slots, listed, answered⟩ := Outcome.bind_eq_ok.1 read
    obtain ⟨groups, each, rfl⟩ := groups_of_answersFrom answered
    exact ⟨text, reply, slots, groups, sends, replied, listed, each, rfl⟩

/-- A query for documents. -/
def latest : PanelQuery :=
  ⟨"B", none, false, some 1, none, "@timestamp", [⟨"1", .rawDocument, none, false, []⟩], []⟩

/-- A reply to a query for documents that finds none. -/
def noHits : Json := .obj [("responses", .arr [.obj [("hits", .obj [("hits", .arr [])])]])]

/-- A session with that reply to come. -/
def unfound : Journal := ⟨0, [.reply ⟨200, [], noHits.spacedText⟩], [], [], [], .empty⟩

theorem run_latest : ∃ after, (someDatasource.runBatch [latest] [] []).run.run unfound =
    (.ok [.documents ⟨"B", 0, []⟩], after) := by
  obtain ⟨entries, made⟩ : ∃ entries, [latest].mapM (entry someSettings [] []) = .ok entries :=
    ⟨_, rfl⟩
  have sends : someDatasource.Sends [] [] [latest] (resolved [] (write entries)) :=
    sends_of_sentText (by simp [visibleQueries, latest]) (sentText_of_entries made)
  have sendable : Text.Encoding.utf8.require (resolved [] (write entries)) = .ok () :=
    require_resolved (by simp [Template.Variables.inserted, Template.Variables.knows])
  obtain ⟨url, reaches⟩ : ∃ url, someDatasource.connection.Reaches multiSearchPath url :=
    ⟨_, rfl, rfl, rfl⟩
  have legible : noHits.Legible := by
    refine .obj (List.forall_mem_singleton.2 (.arr (List.forall_mem_singleton.2 (.obj ?_))))
    exact List.forall_mem_singleton.2 (.obj (List.forall_mem_singleton.2 (.arr (by simp))))
  have read : Json.readBody noHits.spacedText = .ok noHits :=
    Json.readBody_spacedText legible (by decide +kernel)
  obtain ⟨after, replied⟩ : ∃ after, someDatasource.IsReplied 1 (resolved [] (write entries))
      noHits unfound after := run_multiSearch .query reaches sendable rfl rfl read
  exact ⟨after, sends.run replied⟩

/-- A hidden query before a query for documents changes nothing, and the results are those of the
visible query. -/
theorem latest_unhidden : ∃ found after slots group,
    (someDatasource.runBatch [latest] [] []).run.run unfound = (.ok found, after) ∧
    someDatasource.runBatch [{ overTime with hide := true }, latest] [] [] =
      someDatasource.runBatch [latest] [] [] ∧
    (someDatasource.runBatch [{ overTime with hide := true }] [] []).run.run unfound =
      (.ok [], unfound) ∧
    IsGroupOf slots (latest, 0) group ∧ found = group ∧ found ≠ [] := by
  obtain ⟨edited, alone, grouped⟩ := hidden_queries someDatasource [] []
  have inserted : HiddenEdits [latest] [{ overTime with hide := true }, latest] :=
    .single (.insert [] [latest] rfl)
  obtain ⟨after, run⟩ := run_latest
  obtain ⟨text, reply, slots, groups, -, -, -, each, joined⟩ :=
    grouped [latest] unfound _ after (by simp [visibleQueries, latest]) run
  obtain ⟨group, own, rfl⟩ : ∃ group, IsGroupOf slots (latest, 0) group ∧ groups = [group] := by
    cases each with
    | cons own rest =>
      cases rest
      exact ⟨_, own, rfl⟩
  refine ⟨_, after, slots, group, run, edited _ _ inserted, alone _ ?_ _, own, ?_, by simp⟩
  · simp
  · simpa using joined

end Datasource

end ElasticPanels

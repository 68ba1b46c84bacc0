import ElasticPanels.Proofs.Operations
import ElasticPanels.Proofs.QueryText

/-!
# Empty query texts

A panel query and a lookup of terms both take an empty text for the query that matches everything,
before the references in it are expanded.  The lookup takes it so once more afterwards, the panel
query does not.  What the two search for by the same text is therefore the same if and only if the
expanded text is not empty (`queryTexts_agree_iff`).
-/

namespace ElasticPanels

open Search Template
open Datasource (someDatasource)

/-- The query text of a selection stands where `readQuery` looks. -/
theorem readQuery_toJson {body : Body} {timeField text : String} {filters : List AdhocFilter}
    (h : body.selection = selection timeField text filters) :
    readQuery body.toJson = .ok (.str text) := by
  obtain ⟨size, _, sort, aggregations⟩ := body
  subst h
  rfl

/-- The query texts of a panel search and of the one search that a lookup of terms posts, as they
are before the references left in them are resolved. -/
structure SearchTexts (d : Datasource) (vars : Variables) (shown : Body) (raw : Json)
    (text listed : String) : Prop where
  panel : readQuery shown.toJson = .ok (.str text)
  lookup : ∃ found,
    (Operation.lookup raw vars).posting? d =
      some ⟨.terms, d.termsPath, resolved vars (write [found])⟩ ∧
    readQuery found.body.toJson = .ok (.str listed)

/-- After the expansion, only the lookup takes an empty text for the query that matches
everything. -/
theorem searchTexts_of_body (d : Datasource) (vars : Variables) {filters : List AdhocFilter}
    {q : PanelQuery} {shown : Body} (built : q.body filters (expandedText vars q) = .ok shown)
    {raw : Json} {l : Lookup} (asked : Lookup.read raw = .ok (some l)) (terms : l.target = .terms)
    (same : l.query.getD "" = q.query.getD "") :
    SearchTexts d vars shown raw (expandedText vars q) (queryOrAll (expandedText vars q)) where
  panel := readQuery_toJson (selection_of_body built)
  lookup := by
    refine ⟨⟨d.settings.header d.settings.version.termsSearchType,
      (l.asked vars).termsBody d.settings.timeField⟩, ?_, ?_⟩
    · rw [Operation.posting?, asked]
      exact if_pos terms
    · have text : (l.asked vars).query.getD "" = expandedText vars q := by
        rw [expandedText, ← same]
        rfl
      rw [← text]
      exact readQuery_toJson rfl

/-- A panel query and a lookup of terms with the same text, where no text is an empty one, search
for the same if and only if the text is not empty once its references are expanded.  If it is, the
lookup searches for everything.  Both do so if the text was empty before. -/
theorem queryTexts_agree_iff (d : Datasource) (filters : List AdhocFilter) (vars : Variables)
    {queries : List PanelQuery} {text : String}
    (built : payload d.settings filters vars queries = .ok text) :
    ∃ entries, text = write entries ∧ List.Forall₂ (fun q e =>
      ∀ raw l, Lookup.read raw = .ok (some l) → l.target = .terms →
        l.query.getD "" = q.query.getD "" →
        ∃ shown listed, SearchTexts d vars e.body raw shown listed ∧
          shown = vars.replace (queryOrAll (q.query.getD "")) "lucene" ∧
          (shown = listed ↔ shown ≠ "") ∧ (shown = "" → listed = "*") ∧
          (q.query.getD "" = "" → shown = "*" ∧ listed = "*")) queries entries := by
  obtain ⟨entries, made, written⟩ := Outcome.bind_eq_ok.1 built
  obtain rfl := Outcome.pure_eq_ok.1 written
  refine ⟨entries, rfl, (Outcome.mapM_eq_ok.1 made).imp fun q e he raw l asked terms same => ?_⟩
  obtain ⟨body, hb, rfl⟩ := body_of_entry he
  refine ⟨expandedText vars q, _, searchTexts_of_body d vars hb asked terms same, rfl, ?_, ?_, ?_⟩
  · rw [eq_comm]
    exact queryOrAll_eq_self_iff _
  · intro empty
    rw [empty]
    rfl
  · intro none
    rw [expandedText_of_empty vars none]
    exact ⟨rfl, rfl⟩

/-- A query for documents by one reference. -/
def byReference : PanelQuery :=
  ⟨"A", some "$x", false, none, none, "@timestamp", [⟨"1", .rawDocument, none, false, []⟩], []⟩

/-- A lookup of terms by the same reference. -/
def termsByReference : Json :=
  .obj [("find", .str "terms"), ("field", .str "host"), ("query", .str "$x")]

theorem read_termsByReference : ∃ l, Lookup.read termsByReference = .ok (some l) ∧
    l.target = .terms ∧ l.query.getD "" = byReference.query.getD "" := ⟨_, rfl, rfl, rfl⟩

/-- Where the reference stands for a text, both search for this text. -/
theorem byReference_agrees : ∃ e text,
    payload someDatasource.settings [] [("x", .single "up")] [byReference] = .ok text ∧
      text = write [e] ∧
      SearchTexts someDatasource [("x", .single "up")] e.body termsByReference "up" "up" := by
  obtain ⟨text, built⟩ : ∃ text,
    payload someDatasource.settings [] [("x", .single "up")] [byReference] = .ok text := ⟨_, rfl⟩
  obtain ⟨entries, rfl, each⟩ := queryTexts_agree_iff someDatasource [] _ built
  obtain ⟨l, asked, terms, same⟩ := read_termsByReference
  cases each with
  | cons first none =>
    cases none
    obtain ⟨shown, listed, texts, expanded, agree, -⟩ := first _ l asked terms same
    obtain rfl : shown = "up" := by rw [expanded]; decide +kernel
    obtain rfl := agree.2 (by decide)
    exact ⟨_, _, built, rfl, texts⟩

/-- Where the reference stands for an empty text, the panel query searches for this text and the
lookup for everything. -/
theorem byReference_differs : ∃ e,
    payload someDatasource.settings [] [("x", .single "")] [byReference] = .ok (write [e]) ∧
      SearchTexts someDatasource [("x", .single "")] e.body termsByReference "" "*" := by
  obtain ⟨body, built⟩ : ∃ body, byReference.body []
    (expandedText [("x", .single "")] byReference) = .ok body := ⟨_, rfl⟩
  obtain ⟨l, asked, terms, same⟩ := read_termsByReference
  have texts := searchTexts_of_body someDatasource _ built asked terms same
  have blank : expandedText [("x", .single "")] byReference = "" := by decide +kernel
  have every : queryOrAll "" = "*" := by decide
  rw [blank, every] at texts
  refine ⟨entryOf someDatasource.settings body, ?_, texts⟩
  rw [payload, List.mapM_cons, entry_of_body _ built]
  rfl

end ElasticPanels

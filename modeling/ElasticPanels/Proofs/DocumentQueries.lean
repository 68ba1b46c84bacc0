import ElasticPanels.Proofs.Batches
import ElasticPanels.Proofs.BucketChains
import ElasticPanels.Proofs.Checks

/-!
# Queries for documents

A query asks for documents if its first metric is the raw document.  Its body, the header before the
body and the reading of its slot follow the same rule: the body asks for documents and for no
aggregation, and from the slot comes one list of documents, made of the hits; or else the body asks
for no document, and from the slot come series only (`documentQueries_agree`).
-/

namespace ElasticPanels

open Search

/-! ## Bodies -/

/-- The first metric of a query is the raw document. -/
def PanelQuery.AsksForDocuments (q : PanelQuery) : Prop :=
  q.metrics.head?.map Metric.kind = some .rawDocument

theorem PanelQuery.isRawDocument_iff {q : PanelQuery} :
    q.isRawDocument = true ↔ q.AsksForDocuments := by
  unfold isRawDocument AsksForDocuments
  split <;> simp_all

/-- A body for documents: as many as the query wants, or 500, sorted by time and not aggregated. -/
structure FetchesDocuments (q : PanelQuery) (body : Json) : Prop where
  size : body.at? ["size"] = some (.int (q.size.getD 500))
  sort : body.at? ["sort"] = some (newestFirst q.timeField)
  aggregations : body.at? ["aggs"] = none

/-- A body without documents. -/
structure FetchesNothing (body : Json) : Prop where
  size : body.at? ["size"] = some (.int 0)
  sort : body.at? ["sort"] = none

section Body

variable {q : PanelQuery} {filters : List AdhocFilter} {text : String} {body : Body}
  (built : q.body filters text = .ok body)
include built

theorem fetchesDocuments (documents : q.AsksForDocuments) : FetchesDocuments q body.toJson := by
  obtain ⟨-, rfl⟩ | ⟨computed, -⟩ := body_cases built
  · exact ⟨rfl, rfl, rfl⟩
  · rw [PanelQuery.isRawDocument_iff.2 documents] at computed
    cases computed

theorem fetchesNothing (computes : ¬ q.AsksForDocuments) : FetchesNothing body.toJson := by
  obtain ⟨raw, -⟩ | ⟨-, aggregations, -, rfl⟩ := body_cases built
  · exact absurd (PanelQuery.isRawDocument_iff.1 raw) computes
  · refine ⟨rfl, ?_⟩
    rw [Body.toJson, Json.at?_obj, aggregationEntries]
    split_ifs <;> rfl

theorem size_eq_zero_iff : body.size = 0 ↔ ¬ q.AsksForDocuments ∨ q.size = some 0 := by
  obtain ⟨raw, rfl⟩ | ⟨computed, aggregations, -, rfl⟩ := body_cases built
  · rw [PanelQuery.isRawDocument_iff] at raw
    cases q.size <;> simp [raw, documentLimit]
  · rw [← PanelQuery.isRawDocument_iff]
    simp [computed]

end Body

/-! ## Headers -/

theorem searchType_sentJson (settings : Settings) (searchType : SearchType) :
    (settings.header searchType).sentJson.at? ["search_type"] = some (.str searchType.name) := by
  rw [sentJson_header]
  rfl

theorem name_dataSearchType_iff {version : EngineVersion} {wantsNothing : Bool} :
    (version.dataSearchType wantsNothing).name = "count" ↔
      version = .v2 ∧ wantsNothing = true := by
  cases version <;> cases wantsNothing <;> decide

/-- The header of a query in a batch, on the line before its body, says to count only if the engine
is of the oldest tier and the query wants no documents. -/
theorem header_of_payload {settings : Settings} {filters : List AdhocFilter}
    {vars : Template.Variables} {queries : List PanelQuery} {text : String}
    (written : payload settings filters vars queries = .ok text) :
    ∃ lines, IsLines text lines ∧ lines.length = 2 * queries.length ∧
      ∀ (i : ℕ) (q : PanelQuery), queries[i]? = some q → ∃ header : Json,
        lines[2 * i]? = some header.spacedText ∧
        (header.at? ["search_type"] = some (.str "count") ↔
          settings.version = .v2 ∧ (¬ q.AsksForDocuments ∨ q.size = some 0)) := by
  obtain ⟨entries, made, h⟩ := Outcome.bind_eq_ok.1 written
  obtain rfl := Outcome.pure_eq_ok.1 h
  refine ⟨_, isLines_write entries, ?_, fun i q hq => ?_⟩
  · rw [List.length_map, length_values, (Outcome.mapM_eq_ok.1 made).length_eq]
  · obtain ⟨e, he, hmade⟩ := getElem?_entries made hq
    obtain ⟨body, built, rfl⟩ := body_of_entry hmade
    refine ⟨_, by rw [List.getElem?_map, (getElem?_values he).1]; rfl, ?_⟩
    rw [← size_eq_zero_iff built, entryOf, searchType_sentJson, Option.some.injEq, Json.str.injEq,
      name_dataSearchType_iff, decide_eq_true_iff]

/-! ## Documents -/

namespace Documents

/-- The fields of a document that come from its hit. -/
def identity : List String := ["_id", "_type", "_index"]

/-- A document is the source of a hit with the identity of the hit. -/
structure IsDocumentOf (hit source document : Entries Json) : Prop where
  /-- All other fields are those of the source. -/
  others : document.filter (·.1 ∉ identity) = source.filter (·.1 ∉ identity)
  /-- The identity is that of the hit, null where the hit has none. -/
  identified : ∀ name ∈ identity, document.get? name = some ((hit.get? name).getD .null)
  /-- No field is there twice. -/
  once : source.keys.Nodup → document.keys.Nodup

/-- The number of all hits stands by itself or in an object; without one it is zero. -/
def CountsHits (found : Entries Json) (total : ℤ) : Prop :=
  (found.get? "total").getD (.int 0) = .int total ∨
    ∃ fields : Entries Json, found.get? "total" = some (.obj fields) ∧
      fields.get? "value" = some (.int total)

/-- The hits of a slot with their sources, and the number of all hits. -/
structure HasHits (slot : Entries Json) (hits : List (Entries Json × Entries Json)) (total : ℤ) :
    Prop where
  listed : ∃ found : Entries Json, (slot.get? "hits").getD (.obj []) = .obj found ∧
    (found.get? "hits").getD (.arr []) = .arr (hits.map fun hit => .obj hit.1) ∧
    CountsHits found total
  sources : ∀ hit ∈ hits, hit.1.get? "_source" = some (.obj hit.2)

/-- The source of a hit with the identity of the hit. -/
def identified (hit source : Entries Json) : Entries Json :=
  identity.foldl (fun document name => document.put name ((hit.get? name).getD .null)) source

theorem identified_eq (hit source : Entries Json) : identified hit source =
    Entries.put (Entries.put (Entries.put source "_id" ((hit.get? "_id").getD .null))
      "_type" ((hit.get? "_type").getD .null)) "_index" ((hit.get? "_index").getD .null) := rfl

theorem filter_put_identity {name : String} (h : name ∈ identity) (document : Entries Json)
    (value : Json) : (document.put name value).filter (·.1 ∉ identity) =
      document.filter (·.1 ∉ identity) := by
  rw [Entries.filter_put fun entry _ same => by rw [same], if_neg (by simpa using h)]

theorem isDocumentOf_identified (hit source : Entries Json) :
    IsDocumentOf hit source (identified hit source) where
  others := by
    rw [identified_eq, filter_put_identity (by decide), filter_put_identity (by decide),
      filter_put_identity (by decide)]
  identified := by
    rw [identified_eq]
    simp only [identity, List.forall_mem_cons, List.not_mem_nil, false_implies, implies_true,
      and_true]
    refine ⟨?_, ?_, Entries.get?_put_self _ _ _⟩
    · rw [Entries.get?_put_of_ne _ _ (by decide), Entries.get?_put_of_ne _ _ (by decide),
        Entries.get?_put_self]
    · rw [Entries.get?_put_of_ne _ _ (by decide), Entries.get?_put_self]
  once keys := Entries.nodup_keys_put
    (Entries.nodup_keys_put (Entries.nodup_keys_put keys _ _) _ _) _ _

theorem checkDocument_of_textKeys {document : List (Json × Json)}
    (texts : Bucketing.TextKeys document) :
    checkDocument document = .ok (Bucketing.named document) := by
  induction document with
  | nil => rfl
  | cons entry rest ih =>
    obtain ⟨key, value⟩ := entry
    obtain ⟨s, rfl⟩ : ∃ s, key = .str s := texts (key, value) (by simp)
    rw [checkDocument, ih fun entry h => texts entry (by simp [h])]
    rfl

theorem ofHit_eq {hit source : Entries Json} (found : hit.get? "_source" = some (.obj source)) :
    ∃ document, ofHit (.obj hit) = .ok document ∧
      checkDocument document = .ok (identified hit source) := by
  let read : List (Json × Json) := source.map fun field => (.str field.1, field.2)
  let value (name : String) : Json := (hit.get? name).getD .null
  have texts : Bucketing.TextKeys read := by
    intro entry he
    obtain ⟨field, -, rfl⟩ := List.mem_map.1 he
    exact ⟨field.1, rfl⟩
  have same : Bucketing.named read = source := by
    rw [Bucketing.named, List.map_map]
    exact List.map_id _
  obtain ⟨first, texts₁⟩ := Bucketing.putScalar_text texts "_id" (value "_id")
  obtain ⟨second, texts₂⟩ := Bucketing.putScalar_text texts₁ "_type" (value "_type")
  obtain ⟨third, texts₃⟩ := Bucketing.putScalar_text texts₂ "_index" (value "_index")
  refine ⟨_, ?_, checkDocument_of_textKeys texts₃ |>.trans ?_⟩
  · rw [ofHit, Json.entryD_obj, found]
    rfl
  · rw [third, second, first, same, identified_eq]

theorem totalOf_eq {found : Entries Json} {total : ℤ} (h : CountsHits found total) :
    totalOf (.obj found) = .ok (.int total) := by
  rw [totalOf, Json.entryD_obj]
  refine Outcome.bind_eq_ok.2 ⟨_, rfl, ?_⟩
  rcases h with counted | ⟨fields, counted, inside⟩
  · rw [counted]
    rfl
  · rw [counted, Option.getD_some]
    show pure ((Entries.get? fields "value").getD (.int 0)) = _
    rw [inside]
    rfl

theorem mapM_ofHit_eq {hits : List (Entries Json × Entries Json)}
    (sources : ∀ hit ∈ hits, hit.1.get? "_source" = some (.obj hit.2)) :
    ∃ documents, (hits.map fun hit => Json.obj hit.1).mapM ofHit = .ok documents ∧
      Checked.items checkDocument 0 documents =
        .ok (hits.map fun hit => identified hit.1 hit.2) := by
  obtain ⟨documents, made, checked⟩ : ∃ documents,
      (hits.map fun hit => Json.obj hit.1).mapM ofHit = .ok documents ∧
        List.Forall₂ (fun document hit => checkDocument document = .ok (identified hit.1 hit.2))
          documents hits := by
    refine Outcome.exists_mapM (R := fun value hit => value = Json.obj hit.1 ∧
      hit.1.get? "_source" = some (.obj hit.2)) ?_ ?_
    · exact List.forall₂_map_left_iff.2 (List.forall₂_same.2 fun hit hh => ⟨rfl, sources hit hh⟩)
    · rintro _ hit ⟨rfl, source⟩
      exact ofHit_eq source
  exact ⟨documents, made, Checked.items_eq_ok.2 (List.forall₂_map_right_iff.2 checked)⟩

/-- The documents of a slot are those of its hits, in order. -/
theorem ofSlot_eq (q : PanelQuery) {slot : Entries Json} {hits : List (Entries Json × Entries Json)}
    {total : ℤ} (h : HasHits slot hits total) :
    ofSlot q (.obj slot) =
      .ok ⟨q.refId, total, hits.map fun hit => identified hit.1 hit.2⟩ := by
  obtain ⟨⟨found, outer, inner, counted⟩, sources⟩ := h
  obtain ⟨documents, made, checked⟩ := mapM_ofHit_eq sources
  have list : (Json.obj found).entryD "hits" (.arr []) =
      .ok (.arr (hits.map fun hit => .obj hit.1)) := by
    rw [Json.entryD_obj, inner]
  rw [ofSlot, Json.entryD_obj, outer]
  refine Outcome.bind_eq_ok.2 ⟨_, rfl, Outcome.bind_eq_ok.2 ⟨_, totalOf_eq counted, ?_⟩⟩
  refine Outcome.bind_eq_ok.2 ⟨_, list, Outcome.bind_eq_ok.2 ⟨_, rfl, ?_⟩⟩
  refine Outcome.bind_eq_ok.2 ⟨_, made, ?_⟩
  rw [checked]
  rfl

end Documents

/-! ## The three together -/

/-- Builder, header and reader agree on whether a query asks for documents.  A query that does gets
from any batch the header and the body for documents, and from any slot without an error one list of
them; any other query gets a body without documents, and only series. -/
theorem documentQueries_agree {q : PanelQuery} {filters : List AdhocFilter} {text : String}
    {body : Body} (built : q.body filters text = .ok body) {slot : Entries Json}
    (noError : ∀ error, slot.get? "error" = some error → error.truthy = false)
    {reply : Entries Json} {others : List Json}
    (slots : reply.get? "responses" = some (.arr (.obj slot :: others))) :
    (q.AsksForDocuments → FetchesDocuments q body.toJson ∧
      ∀ hits total, Documents.HasHits slot hits total → ∃ documents,
        results [q] (.obj reply) = .ok [.documents ⟨q.refId, total, documents⟩] ∧
        List.Forall₂ (fun hit document => Documents.IsDocumentOf hit.1 hit.2 document)
          hits documents) ∧
    (¬ q.AsksForDocuments → FetchesNothing body.toJson ∧
      (∀ found, results [q] (.obj reply) = .ok found →
        ∃ series : List TimeSeries, found = series.map .series) ∧
      ∀ aggregations, (slot.get? "aggregations").getD (.obj []) = .obj aggregations →
        (q.buckets ≠ [] → IsRegular q.visibleMetrics q.buckets aggregations) →
        ∃ series : List TimeSeries, results [q] (.obj reply) = .ok (series.map .series)) ∧
    ∀ settings filters vars queries payloadText,
      payload settings filters vars queries = .ok payloadText → ∃ lines,
        IsLines payloadText lines ∧ lines.length = 2 * queries.length ∧
        ∀ i, queries[i]? = some q → ∃ header : Json, lines[2 * i]? = some header.spacedText ∧
          (header.at? ["search_type"] = some (.str "count") ↔
            settings.version = .v2 ∧ (¬ q.AsksForDocuments ∨ q.size = some 0)) := by
  rw [results_single slots, answer_eq noError]
  refine ⟨fun documents => ⟨fetchesDocuments built documents, fun hits total h => ?_⟩,
    fun computes => ⟨fetchesNothing built computes, ?_⟩, ?_⟩
  · rw [if_pos (PanelQuery.isRawDocument_iff.2 documents), Documents.ofSlot_eq q h]
    refine ⟨_, rfl, List.forall₂_map_right_iff.2 (List.forall₂_same.2 fun hit _ => ?_)⟩
    exact Documents.isDocumentOf_identified hit.1 hit.2
  · rw [if_neg (mt PanelQuery.isRawDocument_iff.1 computes)]
    refine ⟨fun found h => ?_, fun aggregations inside regular => ?_⟩
    · obtain ⟨series, -, rfl⟩ := Outcome.map_eq_ok.1 h
      exact ⟨series, rfl⟩
    · rw [inside]
      cases eq : q.buckets with
      | nil => exact ⟨[], rfl⟩
      | cons b inner =>
        rw [eq] at regular
        obtain ⟨chains, -, series⟩ := seriesBelow_of_regular q (regular (by simp))
        exact ⟨_, by rw [series]; rfl⟩
  · intro settings filters vars queries payloadText written
    obtain ⟨lines, isLines, count, headers⟩ := header_of_payload written
    exact ⟨lines, isLines, count, fun i hq => headers i q hq⟩

/-- A query for the newest errors, with a count and a bucketing that do not matter. -/
def newestErrors : PanelQuery :=
  ⟨"A", some "level:error", false, some 20, none, "@timestamp",
    [⟨"3", .rawDocument, none, false, []⟩, .default], [.default]⟩

/-- A slot with two of seven hits.  The source of the first has a field with the name of an
identity. -/
def errorHits : Entries Json :=
  [("hits", .obj [("total", .obj [("value", .int 7)]), ("hits", .arr [
    .obj [("_index", .str "logs"), ("_id", .str "a"),
      ("_source", .obj [("message", .str "disk full"), ("_type", .str "disk")])],
    .obj [("_index", .str "logs"), ("_type", .str "entry"), ("_id", .str "b"),
      ("_source", .obj [])]])])]

theorem newestErrors_agree : ∃ body, newestErrors.body [] "level:error" = .ok body ∧
    newestErrors.AsksForDocuments ∧ FetchesDocuments newestErrors body.toJson ∧
    (∃ documents, results [newestErrors] (replyOf (.obj errorHits)) =
      .ok [.documents ⟨"A", 7, documents⟩]) ∧
    results [newestErrors] (replyOf (.obj errorHits)) =
      .ok [.documents ⟨"A", 7, [
        [("message", .str "disk full"), ("_type", .null), ("_id", .str "a"),
          ("_index", .str "logs")],
        [("_id", .str "b"), ("_type", .str "entry"), ("_index", .str "logs")]]⟩] := by
  obtain ⟨body, built⟩ : ∃ body, newestErrors.body [] "level:error" = .ok body := ⟨_, rfl⟩
  have noError (error : Json) (h : errorHits.get? "error" = some error) :
      error.truthy = false := by
    cases h
  let reply : Entries Json := [("responses", .arr [.obj errorHits])]
  have slots : reply.get? "responses" = some (.arr [.obj errorHits]) := rfl
  obtain ⟨fetches, reads⟩ := (documentQueries_agree built noError slots).1 rfl
  have hits : Documents.HasHits errorHits
      [([("_index", .str "logs"), ("_id", .str "a"),
          ("_source", .obj [("message", .str "disk full"), ("_type", .str "disk")])],
        [("message", .str "disk full"), ("_type", .str "disk")]),
        ([("_index", .str "logs"), ("_type", .str "entry"), ("_id", .str "b"),
          ("_source", .obj [])], [])] 7 := by
    refine ⟨⟨_, rfl, rfl, .inr ⟨_, rfl, rfl⟩⟩, ?_⟩
    simp only [List.forall_mem_cons, List.not_mem_nil, false_implies, implies_true, and_true]
    exact ⟨rfl, rfl⟩
  obtain ⟨documents, read, -⟩ := reads _ 7 hits
  exact ⟨body, built, rfl, fetches, ⟨documents, read⟩, rfl⟩

end ElasticPanels

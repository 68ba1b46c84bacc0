import ElasticPanels.Proofs.SecondPass
import ElasticPanels.Proofs.SearchBodies
import ElasticPanels.Text.Cut

/-!
# The lines of a payload

`IsLines text lines` says that a text, split at its newlines, has these lines and ends with a
newline.  The payload of `n` panel queries has `2 n` lines, and reading them gives the headers and
bodies again (`payload_reads_back`): a line is printable ASCII, so it holds no newline, and a value
that was written is read back.  The one text that is not read back is one in which a high half comes
before a low half, since their escapes read as one character (`halves_not_read_back`).
-/

namespace ElasticPanels.Search

open Json (IsWire)

/-! ## Lines -/

/-- The lines of a text, each ended by a newline. -/
def IsLines (text : String) (lines : List String) : Prop :=
  Text.splitAt '\n' text.toList = lines.map String.toList ++ [[]]

theorem splitAt_append (separator : Char) (a b : List Char) :
    Text.splitAt separator (a ++ separator :: b) =
      Text.splitAt separator a ++ Text.splitAt separator b := by
  induction a with
  | nil => simp [Text.splitAt]
  | cons c a ih =>
    rw [List.cons_append, Text.splitAt, Text.splitAt, ih]
    split_ifs
    · rfl
    · obtain ⟨first, others, e⟩ := List.exists_cons_of_ne_nil (Text.splitAt_ne_nil separator a)
      rw [e]
      rfl

theorem splitAt_of_not_mem {separator : Char} {cs : List Char} (h : separator ∉ cs) :
    Text.splitAt separator cs = [cs] := by
  induction cs with
  | nil => rfl
  | cons c cs ih =>
    simp only [List.mem_cons, not_or] at h
    rw [Text.splitAt, if_neg (Ne.symm h.1), ih h.2]

theorem length_splitAt (separator : Char) (cs : List Char) :
    (Text.splitAt separator cs).length = cs.count separator + 1 := by
  induction cs with
  | nil => rfl
  | cons c cs ih =>
    obtain ⟨first, others, e⟩ := List.exists_cons_of_ne_nil (Text.splitAt_ne_nil separator cs)
    rw [Text.splitAt, List.count_cons]
    rw [e] at ih ⊢
    by_cases same : c = separator
    · simpa [same] using ih
    · simpa [same] using ih

theorem toList_unlines (lines : List String) :
    (unlines lines).toList = lines.flatMap fun line => line.toList ++ ['\n'] := by
  unfold unlines
  induction lines with
  | nil => rfl
  | cons line lines ih =>
    rw [List.map_cons, String.join_cons, String.toList_append, ih]
    simp

/-- The lines of a text that is made of other texts. -/
def innerLines (text : String) : List String := (Text.splitAt '\n' text.toList).map .ofList

theorem innerLines_of_not_mem {text : String} (h : '\n' ∉ text.toList) :
    innerLines text = [text] := by
  rw [innerLines, splitAt_of_not_mem h, List.map_singleton, String.ofList_toList]

theorem isLines_innerLines (texts : List String) :
    IsLines (unlines texts) (texts.flatMap innerLines) := by
  rw [IsLines, toList_unlines]
  induction texts with
  | nil => rfl
  | cons text texts ih =>
    have here : (innerLines text).map String.toList = Text.splitAt '\n' text.toList := by
      rw [innerLines, List.map_map]
      exact List.map_id'' (fun _ => String.toList_ofList) _
    rw [List.flatMap_cons, List.append_assoc, List.singleton_append, splitAt_append, ih,
      List.flatMap_cons, List.map_append, here, List.append_assoc]

theorem flatMap_innerLines {texts : List String} (h : ∀ text ∈ texts, '\n' ∉ text.toList) :
    texts.flatMap innerLines = texts := by
  rw [List.flatMap_congr fun text ht => innerLines_of_not_mem (h text ht)]
  exact List.flatMap_singleton' texts

theorem isLines_unlines {lines : List String} (h : ∀ line ∈ lines, '\n' ∉ line.toList) :
    IsLines (unlines lines) lines := by
  have := isLines_innerLines lines
  rwa [flatMap_innerLines h] at this

theorem IsLines.unique {text : String} {lines others : List String} (h : IsLines text lines)
    (h' : IsLines text others) : lines = others := by
  have same := List.append_cancel_right (h.symm.trans h')
  exact List.map_injective_iff.2 (fun _ _ => String.toList_injective) same

theorem not_mem_of_isPrintable {cs : List Char} (h : ∀ c ∈ cs, Json.isPrintable c = true) :
    '\n' ∉ cs := fun mem => absurd (h _ mem) (by decide)

/-! ## Headers and bodies -/

/-- The two values of a search. -/
def Entry.values (e : Entry) : List Json := [e.header.sentJson, e.body.toJson]

theorem write_eq (entries : List Entry) :
    write entries = unlines ((entries.flatMap Entry.values).map Json.spacedText) := by
  rw [write, List.map_flatMap]
  rfl

theorem isLines_write (entries : List Entry) :
    IsLines (write entries) ((entries.flatMap Entry.values).map Json.spacedText) := by
  rw [write_eq]
  apply isLines_unlines
  rw [List.forall_mem_map]
  intro v _
  exact not_mem_of_isPrintable (Json.isPrintable_spacedText v)

/-- The values of the entry at `i` are those at `2 i` and `2 i + 1`. -/
theorem getElem?_values {entries : List Entry} {i : ℕ} {e : Entry} (h : entries[i]? = some e) :
    (entries.flatMap Entry.values)[2 * i]? = some e.header.sentJson ∧
      (entries.flatMap Entry.values)[2 * i + 1]? = some e.body.toJson := by
  induction entries generalizing i with
  | nil => simp at h
  | cons first entries ih =>
    cases i with
    | zero =>
      obtain rfl : first = e := by simpa using h
      exact ⟨rfl, rfl⟩
    | succ i => exact ih (by simpa using h)

theorem length_values (entries : List Entry) :
    (entries.flatMap Entry.values).length = 2 * entries.length := by
  induction entries with
  | nil => rfl
  | cons e entries ih =>
    rw [List.flatMap_cons, List.length_append, ih, List.length_cons]
    exact Nat.add_comm 2 _

/-- The texts of a header that are the same for every index. -/
def headerTexts (searchType : SearchType) : List String :=
  ["search_type", searchType.name, "ignore_unavailable", "index", "max_concurrent_shard_requests"]

theorem isShown_headerTexts (searchType : SearchType) :
    ∀ s ∈ headerTexts searchType, ∀ c ∈ s.toList, Json.isShown c = true := by
  cases searchType <;> decide

theorem texts_sentJson {settings : Settings} {searchType : SearchType} {s : String}
    (h : s ∈ (settings.header searchType).sentJson.texts) :
    s = settings.index ∨ s ∈ headerTexts searchType := by
  rw [sentJson_header] at h
  split_ifs at h <;> simp [Json.texts, Json.textsOfFields] at h <;> simp [headerTexts] <;> tauto

theorem index_mem_texts (settings : Settings) (searchType : SearchType) :
    settings.index ∈ (settings.header searchType).sentJson.texts := by
  rw [sentJson_header]
  split_ifs <;> simp [Json.texts, Json.textsOfFields]

/-- Only the name of the index can split a pair in a header. -/
theorem splitsPair_sentJson (settings : Settings) (searchType : SearchType) :
    (∀ s ∈ (settings.header searchType).sentJson.texts, Text.splitsPair s.toList = false) ↔
      Text.splitsPair settings.index.toList = false := by
  refine ⟨fun h => h _ (index_mem_texts settings searchType), fun h s hs => ?_⟩
  rcases texts_sentJson hs with rfl | fixed
  · exact h
  · exact Text.splitsPair_of_ascii fun c hc =>
      Json.ascii_of_isShown (isShown_headerTexts searchType s fixed c hc)

theorem expandedText_of_empty (vars : Template.Variables) {q : PanelQuery}
    (h : q.query.getD "" = "") : expandedText vars q = "*" := by
  rw [expandedText, h]
  rfl

section Built

variable {filters : List AdhocFilter} {vars : Template.Variables} {q : PanelQuery}

/-- The entry of a query whose body is built. -/
def entryOf (settings : Settings) (body : Body) : Entry :=
  ⟨settings.header (settings.version.dataSearchType (body.size = 0)), body⟩

theorem entry_of_body (settings : Settings) {body : Body}
    (h : q.body filters (expandedText vars q) = .ok body) :
    entry settings filters vars q = .ok (entryOf settings body) := by
  rw [entry, h]
  rfl

theorem body_of_entry {settings : Settings} {e : Entry}
    (h : entry settings filters vars q = .ok e) :
    ∃ body, q.body filters (expandedText vars q) = .ok body ∧ e = entryOf settings body := by
  obtain ⟨body, hb, h⟩ := Outcome.bind_eq_ok.1 h
  exact ⟨body, hb, (Outcome.pure_eq_ok.1 h).symm⟩

/-- If each body can be built, so can the entries. -/
theorem mapM_entry (settings : Settings) {queries : List PanelQuery}
    (built : ∀ q ∈ queries, ∃ body, q.body filters (expandedText vars q) = .ok body) :
    ∃ entries, queries.mapM (entry settings filters vars) = .ok entries := by
  induction queries with
  | nil => exact ⟨[], rfl⟩
  | cons q queries ih =>
    obtain ⟨body, hb⟩ := built q (by simp)
    obtain ⟨entries, he⟩ := ih fun p hp => built p (by simp [hp])
    exact ⟨_, by rw [List.mapM_cons, entry_of_body settings hb, he]; rfl⟩

theorem getElem?_entries {settings : Settings} {queries : List PanelQuery} {entries : List Entry}
    (made : queries.mapM (entry settings filters vars) = .ok entries) {i : ℕ}
    (hq : queries[i]? = some q) :
    ∃ e, entries[i]? = some e ∧ entry settings filters vars q = .ok e := by
  have pairs := Outcome.mapM_eq_ok.1 made
  clear made
  induction pairs generalizing i with
  | nil => simp at hq
  | cons first _ ih =>
    cases i with
    | zero =>
      obtain rfl := Option.some.inj hq
      exact ⟨_, rfl, first⟩
    | succ i => exact ih hq

end Built

/-- The payload of `n` panel queries has `2 n` lines, each ended by a newline.  Reading them gives
the header and the body of each query, unless a text in them has a high half before a low half.  Of
a key to order by that is no text, the body has the written form (`Bucketing.byTerm`), which is then
what is read. -/
theorem payload_reads_back (settings : Settings) (filters : List AdhocFilter)
    (vars : Template.Variables) (queries : List PanelQuery)
    (concurrency : IsShort settings.maxConcurrentShardRequests)
    (wire : ∀ q ∈ queries, q.IsWire) (labels : ∀ q ∈ queries, ∀ b ∈ q.buckets, b.TextLabels)
    (built : ∀ q ∈ queries, ∃ body, q.body filters (expandedText vars q) = .ok body) :
    ∃ text lines, payload settings filters vars queries = .ok text ∧ IsLines text lines ∧
      lines.length = 2 * queries.length ∧
      ∀ i q, queries[i]? = some q → ∃ body headerLine bodyLine,
        q.body filters (expandedText vars q) = .ok body ∧
        (q.query.getD "" = "" → expandedText vars q = "*") ∧
        lines[2 * i]? = some headerLine ∧ lines[2 * i + 1]? = some bodyLine ∧
        (Json.read headerLine = .ok (.obj ([
          ("search_type", .str (settings.version.dataSearchType (body.size = 0)).name),
          ("ignore_unavailable", .bool true), ("index", .str settings.index)] ++
          if settings.version = .v56 then
            [("max_concurrent_shard_requests", .int settings.maxConcurrentShardRequests)]
          else [])) ↔ Text.splitsPair settings.index.toList = false) ∧
        (Json.read bodyLine = .ok body.toJson ↔
          ∀ s ∈ body.toJson.texts, Text.splitsPair s.toList = false) := by
  obtain ⟨entries, made⟩ := mapM_entry settings built
  have count := (Outcome.mapM_eq_ok.1 made).length_eq
  refine ⟨write entries, _, by rw [payload, made]; rfl, isLines_write entries, ?_, ?_⟩
  · rw [List.length_map, length_values, count]
  · intro i q hq
    have mem := List.mem_of_getElem? hq
    obtain ⟨e, he, hmade⟩ := getElem?_entries made hq
    obtain ⟨body, hb, rfl⟩ := body_of_entry hmade
    obtain ⟨header, line⟩ := getElem?_values he
    have headerWire := isWire_sentJson concurrency
      (settings.version.dataSearchType (body.size = 0))
    have bodyWire := isWire_body (wire q mem) (labels q mem) hb
    refine ⟨body, _, _, hb, expandedText_of_empty vars, by rw [List.getElem?_map, header]; rfl,
      by rw [List.getElem?_map, line]; rfl, ?_, ?_⟩
    · rw [← sentJson_header, ← splitsPair_sentJson settings]
      exact Json.read_spacedText_iff headerWire.wellFormed headerWire.legible
    · exact Json.read_spacedText_iff bodyWire.wellFormed bodyWire.legible

/-- The settings of an index. -/
def someSettings : Settings := ⟨"logs", .v5, 256, "@timestamp"⟩

/-- A query for documents whose text consists of two variables. -/
def twoVariables : PanelQuery :=
  ⟨"A", some "$a$b", false, none, none, "@timestamp", [⟨"1", .rawDocument, none, false, []⟩], []⟩

theorem isWire_twoVariables : twoVariables.IsWire :=
  ⟨by simp [twoVariables], by simp [twoVariables, Metric.IsWire], by simp [twoVariables]⟩

/-- Two texts with line breaks, quotes and backslashes. -/
def awkward : Template.Variables := [("a", .single "a \"b\"\n"), ("b", .multi ["\\", "\r\n"])]

/-- The header and the body of a query with these texts are read back from their lines. -/
theorem awkward_reads_back :
    IsShort someSettings.maxConcurrentShardRequests ∧ twoVariables.IsWire ∧
      ∃ text headerLine bodyLine body, payload someSettings [] awkward [twoVariables] = .ok text ∧
        IsLines text [headerLine, bodyLine] ∧
        twoVariables.body [] (expandedText awkward twoVariables) = .ok body ∧
        Json.read headerLine = .ok (.obj [("search_type", .str "query_then_fetch"),
          ("ignore_unavailable", .bool true), ("index", .str "logs")]) ∧
        Json.read bodyLine = .ok body.toJson := by
  have short : IsShort someSettings.maxConcurrentShardRequests := by decide
  obtain ⟨body, built, search, whole⟩ :
      ∃ body, twoVariables.body [] (expandedText awkward twoVariables) = .ok body ∧
        someSettings.version.dataSearchType (body.size = 0) = .queryThenFetch ∧
        ∀ s ∈ body.toJson.texts, Text.splitsPair s.toList = false :=
    ⟨_, rfl, rfl, by decide +kernel⟩
  obtain ⟨text, lines, made, split, count, each⟩ :=
    payload_reads_back someSettings [] awkward [twoVariables] short
      (by simpa using isWire_twoVariables) (by simp [twoVariables]) (by simpa using ⟨_, built⟩)
  obtain ⟨body', headerLine, bodyLine, built', -, first, second, header, read⟩ :=
    each 0 twoVariables rfl
  obtain rfl := Except.ok.inj (built.symm.trans built')
  obtain rfl : lines = [headerLine, bodyLine] := by
    obtain ⟨one, two, rfl⟩ := List.length_eq_two.1 count
    obtain rfl := Option.some.inj first
    obtain rfl := Option.some.inj second
    rfl
  rw [search] at header
  exact ⟨short, isWire_twoVariables, text, headerLine, bodyLine, body, made, split, built,
    header.2 (by decide +kernel), read.2 whole⟩

/-- A high half and a low half. -/
def halves : Template.Variables :=
  [("a", .single (.singleton (Text.ofUnit 0xd83d))),
    ("b", .single (.singleton (Text.ofUnit 0xde00)))]

/-- A high half before a low half is not read back. -/
theorem halves_not_read_back :
    ∃ body headerLine bodyLine, twoVariables.body [] (expandedText halves twoVariables) = .ok body ∧
      payload someSettings [] halves [twoVariables] = .ok (unlines [headerLine, bodyLine]) ∧
      Json.read bodyLine ≠ .ok body.toJson := by
  obtain ⟨body, hb, texts⟩ :
      ∃ body, twoVariables.body [] (expandedText halves twoVariables) = .ok body ∧
        expandedText halves twoVariables ∈ body.toJson.texts := by
    refine ⟨_, rfl, ?_⟩
    simp [Body.toJson, Json.texts, Json.textsOfFields, Json.textsOfItems, selection, filterClauses,
      textClause]
  have split : Text.splitsPair (expandedText halves twoVariables).toList = true := by
    decide +kernel
  refine ⟨body, (entryOf someSettings body).header.sentJson.spacedText, body.toJson.spacedText, hb,
    ?_, fun same => ?_⟩
  · rw [payload, List.mapM_cons, entry_of_body someSettings hb]
    rfl
  · have wire := isWire_body isWire_twoVariables (by simp [twoVariables]) hb
    have whole := (Json.read_spacedText_iff wire.wellFormed wire.legible).1 same _ texts
    exact absurd split (by simp [whole])

end ElasticPanels.Search

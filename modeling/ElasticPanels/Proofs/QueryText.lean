import ElasticPanels.Proofs.Batches
import ElasticPanels.Proofs.Checks
import ElasticPanels.Proofs.PlainValues

/-!
# The query text that is sent

The text of a panel query is expanded before its body is written, and the second pass over the
payload meets it again inside the body.  `readQuery` is the text that is read from there.  For plain
values it is the expanded text if and only if the second pass puts nothing into its string and no
high half stands before a low half in it (`QueryLine`, `queryLine_of_sends`).
-/

namespace ElasticPanels

open Template Search
open Json (Legible Reads fate putInto sentString rejoin)

/-! ## Strings that nothing is put into -/

namespace Json

theorem marks_putInto {vars : Variables} {s : String} (nothing : putInto vars s = []) :
    marks (pieces vars.knows (escaped s.toList)) = [] := List.map_eq_nil_iff.1 nothing

/-- Without marks it does not matter how they are written. -/
theorem assemble_of_unmarked {ps : List (Text.Piece Reference)} (unmarked : marks ps = [])
    (write other : Reference → List Char) : Text.assemble write ps = Text.assemble other ps := by
  induction ps with
  | nil => rfl
  | cons piece ps ih =>
    cases piece with
    | plain c =>
      have rest : marks ps = [] := unmarked
      rw [assemble_plain, assemble_plain, ih rest]
    | mark r => cases unmarked

theorem sentString_of_putInto {vars : Variables} {s : String} (nothing : putInto vars s = []) :
    sentString vars s = renderString true s := by
  rw [sentString, assemble_of_unmarked (marks_putInto nothing) _ Reference.source, assemble_source,
    renderString_eq]

/-- A string that nothing is put into reads as it would have before. -/
theorem eq_rejoin_of_reads {vars : Variables} {s t : String} (nothing : putInto vars s = [])
    (reads : Reads (sentString vars s) t) : t = rejoin s := by
  rw [sentString_of_putInto nothing] at reads
  exact reads.unique (reads_renderString s)

/-- A string reads as the text that was written if and only if nothing is put into it and no high
half stands before a low half. -/
theorem reads_self_iff {vars : Variables} (plain : vars.ArePlain) {s t : String}
    (kept : ∀ put ∈ putInto vars s, fate put = .kept) (reads : Reads (sentString vars s) t) :
    t = s ↔ putInto vars s = [] ∧ Text.splitsPair s.toList = false := by
  constructor
  · rintro rfl
    have nothing := putInto_of_reads plain kept reads
    exact ⟨nothing, rejoin_eq_iff.1 (eq_rejoin_of_reads nothing reads).symm⟩
  · rintro ⟨nothing, whole⟩
    rw [eq_rejoin_of_reads nothing reads, rejoin_of_whole whole]

/-- Into an ASCII string is put what would be put into its text. -/
theorem putInto_of_ascii {vars : Variables} {s : String} (ascii : ∀ c ∈ s.toList, c.toNat < 0x80) :
    putInto vars s = vars.inserted s := by
  rw [putInto, pieces_escaped ascii, (assemble_escapedPieces vars _).2, inserted_eq]

/-! ## Looking into a value that was read -/

/-- What is read from each string of a value after the second pass. -/
def ReadsAs (vars : Variables) (dec : String → String) (v : Json) : Prop :=
  ∀ s ∈ v.texts, Reads (sentString vars s) (dec s)

/-- The keys around the query text of a body. -/
def queryKeys : List String :=
  ["size", "query", "sort", "aggs", "bool", "filter", "must", "must_not", "query_string",
    "analyze_wildcard"]

theorem inert_queryKeys : ∀ key ∈ queryKeys, Inert (escaped key.toList) ∧
    Text.splitsPair key.toList = false := by
  unfold Inert
  decide

theorem reads_queryKey {vars : Variables} {key s : String} (h : key ∈ queryKeys)
    (reads : Reads (sentString vars key) s) : s = key := by
  obtain ⟨inert, whole⟩ := inert_queryKeys key h
  have nothing : putInto vars key = [] := by
    have plain : pieces vars.knows (escaped key.toList ++ []) = _ := pieces_inert inert []
    rw [List.append_nil, pieces_nil, List.append_nil] at plain
    rw [putInto, plain, marks_map_plain, List.map_nil]
  rw [eq_rejoin_of_reads nothing reads, rejoin_of_whole whole]

section Look

variable {vars : Variables} {dec : String → String}

/-- Under a key that is read as itself stands what is read of the entry. -/
theorem ReadsAs.entry {fields : Entries Json} (h : ReadsAs vars dec (.obj fields))
    (nodup : (fields.map Prod.fst).Nodup) (fixed : ∀ key ∈ fields.map Prod.fst, key ∈ queryKeys)
    {key : String} {value : Json} (found : (key, value) ∈ fields) :
    ((obj fields).readBack Entries.ofPairs dec).entry key =
        .ok (value.readBack Entries.ofPairs dec) ∧ ReadsAs vars dec value := by
  have same : (fields.map fun field => (dec field.1, field.2.readBack Entries.ofPairs dec)) =
      fields.map fun field => (field.1, field.2.readBack Entries.ofPairs dec) := by
    refine List.map_congr_left fun field hf => ?_
    rw [reads_queryKey (fixed _ (List.mem_map_of_mem hf))
      (h _ (mem_texts_obj.2 ⟨field, hf, .inl rfl⟩))]
  have keys : ((fields.map fun field =>
      (field.1, field.2.readBack Entries.ofPairs dec)).map Prod.fst).Nodup := by
    rwa [List.map_map]
  have mem : (key, value.readBack Entries.ofPairs dec) ∈
      fields.map fun field => (field.1, field.2.readBack Entries.ofPairs dec) :=
    List.mem_map_of_mem found
  refine ⟨?_, fun s hs => h s (mem_texts_obj.2 ⟨_, found, .inr hs⟩)⟩
  rw [readBack_obj, same, Entries.ofPairs_of_nodup keys, Json.entry, Entries.get?_of_mem keys mem]

theorem ReadsAs.item {items : List Json} (h : ReadsAs vars dec (.arr items)) {i : ℕ} {value : Json}
    (found : items[i]? = some value) :
    ((arr items).readBack Entries.ofPairs dec).item i =
        .ok (value.readBack Entries.ofPairs dec) ∧ ReadsAs vars dec value := by
  refine ⟨?_, fun s hs => h s (mem_texts_arr.2 ⟨value, List.mem_of_getElem? found, hs⟩)⟩
  rw [readBack_arr, Json.item, List.getElem?_map, found]
  rfl

end Look

end Json

/-! ## The query text of a body -/

/-- The query text in a body that was read. -/
def readQuery (body : Json) : Outcome Json := do
  let selection ← (← body.entry "query").entry "bool"
  let clause ← (← selection.entry "filter").item 1
  (← clause.entry "query_string").entry "query"

/-- The entries of a body have fixed keys, each once. -/
theorem keys_toJson (body : Body) : ∃ fields : Entries Json, body.toJson = .obj fields ∧
    (fields.map Prod.fst).Nodup ∧ (∀ key ∈ fields.map Prod.fst, key ∈ Json.queryKeys) ∧
      ("query", body.selection) ∈ fields := by
  refine ⟨_, rfl, ?_, ?_, by simp⟩
  · apply nodup_keys_aggregationEntries
    · cases body.sort <;> simp
    · cases body.sort <;> simp
  · unfold aggregationEntries
    cases body.sort <;> split_ifs <;> simp [Json.queryKeys]

theorem keys_filterClauses (filters : List AdhocFilter) (clauses : Json) :
    ((("filter", clauses) :: filterClauses filters).map Prod.fst).Nodup ∧
      ∀ key ∈ (("filter", clauses) :: filterClauses filters).map Prod.fst,
        key ∈ Json.queryKeys := by
  unfold filterClauses
  split_ifs
  · simp [Json.queryKeys]
  · simp [Json.queryKeys]

theorem mem_texts_body {q : PanelQuery} {filters : List AdhocFilter} {text : String} {body : Body}
    (built : q.body filters text = .ok body) : text ∈ body.toJson.texts := by
  obtain ⟨fields, eq, -, -, mem⟩ := keys_toJson body
  rw [eq, Json.mem_texts_obj]
  refine ⟨_, mem, .inr ?_⟩
  rw [selection_of_body built]
  simp [selection, textClause, Json.texts, Json.textsOfFields, Json.textsOfItems]

/-- The query text stands where `readQuery` looks, whatever the second pass makes of it. -/
theorem readQuery_of_body {q : PanelQuery} {filters : List AdhocFilter} {text : String}
    {body : Body} (built : q.body filters text = .ok body) {vars : Variables}
    {dec : String → String} (h : Json.ReadsAs vars dec body.toJson) :
    readQuery (body.toJson.readBack Entries.ofPairs dec) = .ok (.str (dec text)) := by
  obtain ⟨fields, eq, nodup, fixed, mem⟩ := keys_toJson body
  rw [eq] at h ⊢
  rw [selection_of_body built, selection, textClause] at mem
  obtain ⟨query, h⟩ := h.entry nodup fixed mem
  obtain ⟨bool, h⟩ := h.entry (by simp) (by simp [Json.queryKeys]) (List.mem_singleton_self _)
  obtain ⟨filter, h⟩ := h.entry (keys_filterClauses filters _).1 (keys_filterClauses filters _).2
    (List.mem_cons_self ..)
  obtain ⟨item, h⟩ := h.item (i := 1) rfl
  obtain ⟨clause, h⟩ := h.entry (by simp) (by simp [Json.queryKeys]) (List.mem_singleton_self _)
  obtain ⟨found, -⟩ := h.entry (by simp) (by simp [Json.queryKeys])
    (by simp : ("query", Json.str text) ∈ _)
  simp only [readQuery, query, bool, filter, item, clause, found, bind, Except.bind]
  rfl

/-! ## The line of a query -/

/-- What is read from the line of a body, if the second pass keeps the strings in it. -/
theorem readQuery_line {q : PanelQuery} {filters : List AdhocFilter} {vars : Variables}
    {text : String} {body : Body} (built : q.body filters text = .ok body) (wire : q.IsWire)
    (inside : RefersInside vars body.toJson)
    (kept : ∀ put ∈ vars.inserted body.toJson.spacedText, fate put = .kept) :
    ∃ v found, Json.read (vars.replace body.toJson.spacedText none) = .ok v ∧
      readQuery v = .ok (.str found) ∧ Reads (sentString vars text) found ∧
        ∀ put ∈ putInto vars text, fate put = .kept := by
  obtain ⟨dec, read, reads⟩ := read_of_inside inside (legible_body wire built) kept
  have mem := mem_texts_body built
  refine ⟨_, dec text, read, readQuery_of_body built reads, reads text mem, fun put hp => ?_⟩
  exact kept put ((mem_inserted_of_inside inside).2 ⟨text, mem, hp⟩)

/-- References to no variable are still there in a text whose references are expanded. -/
theorem isInfix_replace {vars : Variables} {target : String} (format : Option String)
    {r : Reference} (h : .mark r ∈ references target.toList) (unknown : vars.knows r = false) :
    r.source <:+: (vars.replace target format).toList := by
  obtain ⟨before, after, split⟩ := List.append_of_mem h
  rw [Variables.replace, String.toList_ofList, split, assemble_append, assemble_mark,
    expand_of_unknown unknown]
  exact ⟨_, _, by rw [List.append_assoc]⟩

/-- What can be said of the body line of a query and of the text that is read from it. -/
structure QueryLine (vars : Variables) (filters : List AdhocFilter) (q : PanelQuery)
    (line : String) : Prop where
  /-- References to no variable are still in the expanded text. -/
  unknown : ∀ r, .mark r ∈ references (queryOrAll (q.query.getD "")).toList →
    vars.knows r = false → r.source <:+: (expandedText vars q).toList
  /-- Into the string of an ASCII text is put what its own references stand for. -/
  ascii : (∀ c ∈ (expandedText vars q).toList, c.toNat < 0x80) →
    putInto vars (expandedText vars q) = vars.inserted (expandedText vars q) ∧
      Text.splitsPair (expandedText vars q).toList = false
  /-- If the second pass keeps the strings of the line, the query text that is read from it is the
  expanded text if and only if nothing is put into it and no halves in it make a pair. -/
  read : ∃ body, q.body filters (expandedText vars q) = .ok body ∧
    (RefersInside vars body.toJson →
      (∀ put ∈ vars.inserted body.toJson.spacedText, fate put = .kept) →
      ∃ v text, Json.read line = .ok v ∧ readQuery v = .ok (.str text) ∧
        (text = expandedText vars q ↔ putInto vars (expandedText vars q) = [] ∧
          Text.splitsPair (expandedText vars q).toList = false))

theorem queryLine_of_body {vars : Variables} (plain : vars.ArePlain) {filters : List AdhocFilter}
    {q : PanelQuery} (wire : q.IsWire) {body : Body}
    (built : q.body filters (expandedText vars q) = .ok body) :
    QueryLine vars filters q (vars.replace body.toJson.spacedText none) where
  unknown _ mark unknown := isInfix_replace _ mark unknown
  ascii low := ⟨Json.putInto_of_ascii low, Text.splitsPair_of_ascii low⟩
  read := by
    refine ⟨body, built, fun inside kept => ?_⟩
    obtain ⟨v, text, read, found, reads, into⟩ := readQuery_line built wire inside kept
    exact ⟨v, text, read, found, Json.reads_self_iff plain into reads⟩

/-! ## Requests of plain values -/

/-- The values of the variables, the bounds of the range and the interval are plain. -/
structure BatchRequest.IsPlain (request : BatchRequest) : Prop where
  vars : request.vars.ArePlain
  start : IsPlainText request.range.start
  stop : IsPlainText request.range.stop
  interval : IsPlainText request.interval

theorem arePlain_put {vars : Variables} (plain : vars.ArePlain) {name text : String}
    (h : IsPlainText text) : Variables.ArePlain (Entries.put vars name (.single text)) := by
  intro entry he
  rcases Entries.mem_put he with he | rfl
  · exact plain entry he
  · simpa [Value.texts] using h

theorem BatchRequest.IsPlain.allVars {request : BatchRequest} (h : request.IsPlain) :
    request.allVars.ArePlain :=
  arePlain_put (arePlain_put (arePlain_put h.vars h.start) h.stop) h.interval

/-- Without line breaks in the values each body has a line of its own. -/
theorem lines_of_entries {settings : Settings} {filters : List AdhocFilter} {vars : Variables}
    (plain : vars.ArePlain) {queries : List PanelQuery} {entries : List Entry}
    (made : queries.mapM (entry settings filters vars) = .ok entries) :
    ∃ lines, IsLines (resolved vars (write entries)) lines ∧ lines.length = 2 * queries.length ∧
      ∀ (i : ℕ) (q : PanelQuery), queries[i]? = some q →
        ∃ body, q.body filters (expandedText vars q) = .ok body ∧
          lines[2 * i + 1]? = some (vars.replace body.toJson.spacedText none) := by
  have whole : ∀ put ∈ vars.inserted (unlines ((entries.flatMap Entry.values).map
      Json.spacedText)), '\n' ∉ put := by
    intro put hp
    rw [inserted_eq] at hp
    exact (tame_inserted plain hp).not_mem_newline
  have lines := isLines_resolved vars (entries.flatMap Entry.values)
  rw [innerLines_resolved whole, ← write_eq] at lines
  refine ⟨_, lines, ?_, fun i q hq => ?_⟩
  · rw [List.length_map, length_values, (Outcome.mapM_eq_ok.1 made).length_eq]
  · obtain ⟨e, he, here⟩ := getElem?_entries made hq
    obtain ⟨body, built, rfl⟩ := body_of_entry here
    exact ⟨body, built, by rw [List.getElem?_map, (getElem?_values he).2]; rfl⟩

/-- The payload of a request of plain values, which was read from a text (`Json.isWire_readBody`),
has two lines for each visible query, and from the second of them its expanded text is read, unless
the second pass puts something into it or it has a high half before a low half. -/
theorem queryLine_of_sends (d : Datasource) {wrong : Flaw} {value : Json} (wire : value.IsWire)
    {request : BatchRequest} (checked : BatchRequest.check wrong value = .ok request)
    (plain : request.IsPlain) {sent : String}
    (sends : d.Sends request.filters request.allVars request.queries sent) :
    ∃ lines, IsLines sent lines ∧
      lines.length = 2 * (visibleQueries request.queries).length ∧
      ∀ (i : ℕ) (q : PanelQuery), (visibleQueries request.queries)[i]? = some q →
        ∃ line, lines[2 * i + 1]? = some line ∧
          QueryLine request.allVars request.filters q line := by
  obtain ⟨entries, made, rfl⟩ := exists_entries sends.1
  obtain ⟨lines, isLines, length, bodies⟩ := lines_of_entries plain.allVars made
  refine ⟨lines, isLines, length, fun i q hq => ?_⟩
  obtain ⟨body, built, line⟩ := bodies i q hq
  have visible := mem_of_mem_visibleQueries (List.mem_of_getElem? hq)
  exact ⟨_, line, queryLine_of_body plain.allVars
    (BatchRequest.isWire_of_check wire checked q visible) built⟩

/-- A request with one query for a text, and some variables. -/
def requestFor (text : String) (vars : List (String × Json)) : Json :=
  .obj [("queries", .arr [.obj [("query", .str text)]]), ("variables", .obj vars)]

theorem isWire_requestFor (text : String) {vars : List (String × Json)}
    (names : (vars.map Prod.fst).Nodup) (h : ∀ entry ∈ vars, entry.2.IsWire) :
    (requestFor text vars).IsWire := by
  have queries : Json.IsWire (.arr [.obj [("query", .str text)]]) :=
    .arr (by simpa using Json.IsWire.entry "query" (.str text))
  exact .obj (by simp) (by simpa using ⟨queries, Json.IsWire.obj names h⟩)

/-- One visible query is sent as its entry. -/
theorem sends_single (d : Datasource) {request : BatchRequest} {q : PanelQuery} {body : Body}
    (one : request.queries = [q]) (shown : q.hide = false)
    (built : q.body request.filters (expandedText request.allVars q) = .ok body) :
    ∃ entries, [q].mapM (entry d.settings request.filters request.allVars) = .ok entries ∧
      d.Sends request.filters request.allVars request.queries
        (resolved request.allVars (write entries)) := by
  have visible : visibleQueries request.queries = [q] := one ▸ visibleQueries_single shown
  have each : ∀ p ∈ [q], ∃ body, p.body request.filters (expandedText request.allVars p) =
      .ok body := by simpa using ⟨body, built⟩
  obtain ⟨entries, made⟩ := mapM_entry d.settings each
  refine ⟨entries, made, Datasource.sends_of_sentText (by simp [visible]) ?_⟩
  rw [visible]
  exact sentText_of_entries made

/-- The known references in the line of a body are in its strings, and all that is put into them is
kept. -/
theorem inside_of_bare {request : BatchRequest} {q : PanelQuery} {text : String} {body : Body}
    (wire : q.IsWire) (built : q.body request.filters text = .ok body)
    (bare : ∀ entry ∈ request.allVars, Json.isBareName entry.1 = false)
    (kept : ∀ s ∈ body.toJson.texts, ∀ put ∈ putInto request.allVars s, fate put = .kept) :
    RefersInside request.allVars body.toJson ∧
      ∀ put ∈ request.allVars.inserted body.toJson.spacedText, fate put = .kept := by
  have unnamed (name : String) (h : Json.isBareName name = true) := not_known_of_bare bare h
  have inside : RefersInside request.allVars body.toJson :=
    pieces_spacedText (unnamed_knows unnamed) (legible_body wire built)
  refine ⟨inside, fun put hp => ?_⟩
  obtain ⟨s, hs, into⟩ := (mem_inserted_of_inside inside).1 hp
  exact kept s hs put into

/-- A request whose text refers to a variable, and by another name to none. -/
def levels : Json := requestFor "level:$level $unit" [("level", .arr [.str "warn", .str "error"])]

theorem levels_queryLine : levels.IsWire ∧ ∃ request sent line v,
    BatchRequest.check .notRecord levels = .ok request ∧ request.IsPlain ∧
      Datasource.someDatasource.Sends request.filters request.allVars request.queries sent ∧
      (∃ lines, IsLines sent lines ∧ lines[1]? = some line) ∧ Json.read line = .ok v ∧
      readQuery v = .ok (.str "level:(\"warn\" OR \"error\") $unit") := by
  have values : Json.IsWire (.arr [.str "warn", .str "error"]) :=
    .arr (by simpa using ⟨Json.IsWire.str "warn", Json.IsWire.str "error"⟩)
  have wire : levels.IsWire := isWire_requestFor _ (by simp) (by simpa using values)
  obtain ⟨request, q, body, checked, plain, one, shown, built, bare, kept, expanded, nothing⟩ :
      ∃ request q body, BatchRequest.check .notRecord levels = .ok request ∧ request.IsPlain ∧
        request.queries = [q] ∧ q.hide = false ∧
        q.body request.filters (expandedText request.allVars q) = .ok body ∧
        (∀ entry ∈ request.allVars, Json.isBareName entry.1 = false) ∧
        (∀ s ∈ body.toJson.texts, ∀ put ∈ putInto request.allVars s, fate put = .kept) ∧
        expandedText request.allVars q = "level:(\"warn\" OR \"error\") $unit" ∧
        putInto request.allVars (expandedText request.allVars q) = [] :=
    ⟨_, _, _, rfl, ⟨by decide, by decide, by decide, by decide⟩, rfl, rfl, rfl, by decide,
      by decide +kernel, by decide +kernel, by decide +kernel⟩
  obtain ⟨entries, -, sends⟩ := sends_single Datasource.someDatasource one shown built
  obtain ⟨lines, isLines, -, each⟩ :=
    queryLine_of_sends Datasource.someDatasource wire checked plain sends
  obtain ⟨line, second, here⟩ := each 0 q (by rw [one, visibleQueries_single shown]; rfl)
  obtain ⟨body', built', read⟩ := here.read
  obtain rfl := Except.ok.inj (built.symm.trans built')
  have inside := inside_of_bare (BatchRequest.isWire_of_check wire checked q (by simp [one])) built
    bare kept
  obtain ⟨v, text, readLine, found, same⟩ := read inside.1 inside.2
  refine ⟨wire, request, _, line, v, checked, plain, sends, ⟨lines, isLines, second⟩, readLine, ?_⟩
  rw [found, same.2 ⟨nothing, by rw [expanded]; decide +kernel⟩, expanded]

/-- A request whose text makes a reference when it is expanded. -/
def nestedReference : Json := requestFor "$$a" [("a", .str "b"), ("b", .str "c")]

/-- The reference that the first pass makes is expanded by the second. -/
theorem nestedReference_expanded_twice : ∃ request q sent line v,
    BatchRequest.check .notRecord nestedReference = .ok request ∧ request.IsPlain ∧
      request.queries = [q] ∧ q.hide = false ∧
      Datasource.someDatasource.Sends request.filters request.allVars request.queries sent ∧
      (∃ lines, IsLines sent lines ∧ lines[1]? = some line) ∧ Json.read line = .ok v ∧
      expandedText request.allVars q = "$b" ∧ readQuery v = .ok (.str "c") := by
  have wire : nestedReference.IsWire := isWire_requestFor _ (by simp) <| by
    simpa using ⟨Json.IsWire.str "b", Json.IsWire.str "c"⟩
  obtain ⟨request, q, body, checked, plain, one, shown, built, bare, kept, expanded, sent⟩ :
      ∃ request q body, BatchRequest.check .notRecord nestedReference = .ok request ∧
        request.IsPlain ∧ request.queries = [q] ∧ q.hide = false ∧
        q.body request.filters (expandedText request.allVars q) = .ok body ∧
        (∀ entry ∈ request.allVars, Json.isBareName entry.1 = false) ∧
        (∀ s ∈ body.toJson.texts, ∀ put ∈ putInto request.allVars s, fate put = .kept) ∧
        expandedText request.allVars q = "$b" ∧
        sentString request.allVars (expandedText request.allVars q) = Json.renderString true "c" :=
    ⟨_, _, _, rfl, ⟨by decide, by decide, by decide, by decide⟩, rfl, rfl, rfl, by decide,
      by decide +kernel, by decide +kernel, by decide +kernel⟩
  obtain ⟨entries, made, sends⟩ := sends_single Datasource.someDatasource one shown built
  obtain ⟨lines, isLines, -, bodies⟩ := lines_of_entries plain.allVars made
  obtain ⟨body', built', second⟩ := bodies 0 q rfl
  obtain rfl := Except.ok.inj (built.symm.trans built')
  have wireQuery := BatchRequest.isWire_of_check wire checked q (by simp [one])
  have inside := inside_of_bare wireQuery built bare kept
  obtain ⟨v, text, readLine, found, reads, -⟩ := readQuery_line built wireQuery inside.1 inside.2
  rw [sent] at reads
  have same : text = "c" := by
    rw [reads.unique (Json.reads_renderString "c"), Json.rejoin_of_whole (by decide)]
  exact ⟨request, q, _, _, v, checked, plain, one, shown, sends, ⟨lines, isLines, second⟩, readLine,
    expanded, same ▸ found⟩

end ElasticPanels

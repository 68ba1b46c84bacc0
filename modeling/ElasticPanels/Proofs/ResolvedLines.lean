import ElasticPanels.Proofs.PayloadLines

/-!
# The second pass over a payload

`resolved` expands the references of a whole payload, layout and all.  That is expanding the
references inside each text of each line (`resolved_reads_back`), as long as the texts are ASCII,
what is put in (`inserted`) stands in a string as itself, and no variable has a name that the layout
of a list may hold.
-/

namespace ElasticPanels

open Template
open Text (assemble)

/-! ## What stands for the pieces of a text -/

namespace Template

/-- Whether a reference is to one of the variables. -/
def Variables.knows (vars : Variables) (r : Reference) : Bool := (vars.get? r.name).isSome

/-- What stands for the known references of a text. -/
def Variables.inserted (vars : Variables) (text : String) : List (List Char) :=
  ((marks (references text.toList)).filter vars.knows).map (vars.expand none)

theorem inserted_eq (vars : Variables) (text : String) :
    vars.inserted text = (marks (pieces vars.knows text.toList)).map (vars.expand none) := by
  rw [Variables.inserted, marks_pieces]

/-- A reference to no variable stands for itself. -/
theorem expand_of_unknown {vars : Variables} {r : Reference} (h : vars.knows r = false)
    (format : Option String) : vars.expand format r = r.source := by
  have none : vars.get? r.name = none := by simpa [Variables.knows] using h
  rw [Variables.expand, none]

theorem toList_replace (vars : Variables) (target : String) (format : Option String) :
    (vars.replace target format).toList =
      assemble (vars.expand format) (pieces vars.knows target.toList) := by
  rw [Variables.replace, String.toList_ofList, pieces_eq]
  induction references target.toList with
  | nil => rfl
  | cons piece rest ih =>
    rw [List.flatMap_cons, assemble_append, ← ih]
    cases piece with
    | plain c => rfl
    | mark r =>
      rw [assemble_mark]
      dsimp only
      split_ifs with h
      · rw [assemble_mark, assemble_nil, List.append_nil]
      · rw [assemble_map_plain, expand_of_unknown (by simpa using h)]

end Template

/-! ## Inside the lines -/

namespace Json

variable {vars : Variables}

/-- A string with what stands for its references. -/
def sentString (vars : Variables) (s : String) : List Char :=
  '"' :: (assemble (vars.expand none) (pieces vars.knows (escaped s.toList)) ++ ['"'])

/-- What is put into a string. -/
def putInto (vars : Variables) (s : String) : List (List Char) :=
  (marks (pieces vars.knows (escaped s.toList))).map (vars.expand none)

/-- The second pass over a written value is a pass over each of its strings. -/
theorem assemble_spell (v : Json) :
    assemble (vars.expand none) (v.spell .plain (stringPieces vars.knows)) =
      v.spell id (sentString vars) := by
  refine (flatMap_spell (fun c => (rfl : _ = [id c])) v).trans (spell_congr fun s _ => ?_)
  rw [stringPieces, List.flatMap_cons, List.flatMap_append]
  rfl

/-- Expanding the references inside an ASCII string is expanding those of its text, if what is put
in stands in a string as itself. -/
theorem assemble_escaped {cs : List Char} (ascii : ∀ c ∈ cs, c.toNat < 0x80)
    (shown : ∀ r ∈ marks (pieces vars.knows cs), ∀ c ∈ vars.expand none r, isShown c = true) :
    assemble (vars.expand none) (pieces vars.knows (escaped cs)) =
      escaped (assemble (vars.expand none) (pieces vars.knows cs)) := by
  rw [pieces_escaped ascii]
  replace shown := fun r hr => shown r (mem_marks.2 hr)
  generalize pieces vars.knows cs = found at shown ⊢
  induction found with
  | nil => rfl
  | cons piece rest ih =>
    have later := ih fun r hr => shown r (List.mem_cons_of_mem _ hr)
    rw [List.flatMap_cons, assemble_append, later]
    cases piece with
    | plain c => rw [escapedPiece, assemble_map_plain, assemble_plain, escaped_cons]
    | mark r =>
      rw [escapedPiece, assemble_mark, assemble_mark, assemble_nil, List.append_nil,
        escaped_append, escaped_shown (shown r (by simp))]

theorem ascii_assemble {cs : List Char} (ascii : ∀ c ∈ cs, c.toNat < 0x80)
    (shown : ∀ r ∈ marks (pieces vars.knows cs), ∀ c ∈ vars.expand none r, isShown c = true) :
    ∀ c ∈ assemble (vars.expand none) (pieces vars.knows cs), c.toNat < 0x80 := by
  intro c hc
  obtain ⟨piece, mem, inside⟩ := List.mem_flatMap.1 hc
  cases piece with
  | plain d =>
    obtain rfl : c = d := by simpa using inside
    exact ascii c (mem_of_plain_mem_pieces mem)
  | mark r => exact ascii_of_isShown (shown r (mem_marks.2 mem) c inside)

end Json

/-! ## Whole payloads -/

namespace Search

open Json (IsWire Legible Unnamed isShown stringPieces)

theorem toList_spacedText (v : Json) :
    v.spacedText.toList = v.spell id (Json.renderString true) := by
  rw [Json.spacedText, String.toList_ofList, Json.render_spaced]

theorem not_mem_spacedText (v : Json) : '\n' ∉ v.spacedText.toList :=
  not_mem_of_isPrintable (Json.isPrintable_spacedText v)

theorem pieces_unlines (known : Reference → Bool) (lines : List String) :
    pieces known (unlines lines).toList =
      lines.flatMap fun line => pieces known line.toList ++ [.plain '\n'] := by
  rw [toList_unlines]
  induction lines with
  | nil => rfl
  | cons line lines ih =>
    rw [List.flatMap_cons, List.flatMap_cons, ← ih, List.append_assoc, List.append_assoc,
      List.singleton_append, List.singleton_append, pieces_append Json.isBarrier_newline]

/-- No reference reaches from one line into the next. -/
theorem resolved_unlines (vars : Variables) (lines : List String) :
    resolved vars (unlines lines) = unlines (lines.map (vars.replace · none)) := by
  rw [← String.toList_inj, resolved, toList_replace, pieces_unlines, toList_unlines,
    List.flatMap_map, assemble, List.flatMap_assoc]
  apply List.flatMap_congr
  intro line _
  rw [toList_replace, List.flatMap_append]
  rfl

theorem inserted_unlines (vars : Variables) (lines : List String) :
    vars.inserted (unlines lines) = lines.flatMap vars.inserted := by
  rw [inserted_eq, pieces_unlines]
  induction lines with
  | nil => rfl
  | cons line lines ih =>
    have last : marks [Text.Piece.plain '\n'] = [] := rfl
    rw [List.flatMap_cons, List.flatMap_cons, marks_append, marks_append, last, List.append_nil,
      List.map_append, ih, inserted_eq]

theorem unnamed_knows {vars : Variables}
    (unnamed : ∀ name, Json.isBareName name = true → vars.get? name = none) :
    Unnamed vars.knows :=
  fun r bare => by rw [Variables.knows, unnamed r.name bare]; rfl

theorem not_known_of_bare {vars : Variables} (h : ∀ e ∈ vars, Json.isBareName e.1 = false)
    {name : String} (bare : Json.isBareName name = true) : vars.get? name = none := by
  by_contra known
  obtain ⟨value, found⟩ := Option.ne_none_iff_exists'.1 known
  simp [h _ (Entries.mem_of_get? found)] at bare

section Inside

/-- The known references of the line of a value are those inside its strings. -/
def RefersInside (vars : Variables) (v : Json) : Prop :=
  pieces vars.knows v.spacedText.toList = v.spell .plain (stringPieces vars.knows)

variable {vars : Variables} {v : Json} (inside : RefersInside vars v)
include inside

theorem mem_inserted_of_inside {text : List Char} :
    text ∈ vars.inserted v.spacedText ↔ ∃ s ∈ v.texts, text ∈ Json.putInto vars s := by
  rw [inserted_eq, inside]
  constructor
  · intro h
    obtain ⟨r, hr, rfl⟩ := List.mem_map.1 h
    have inside : ∀ piece ∈ v.spell .plain (stringPieces vars.knows), ∀ r, piece = .mark r →
        ∃ s ∈ v.texts, .mark r ∈ pieces vars.knows (Json.escaped s.toList) := by
      refine Json.forall_mem_spell (fun _ _ _ h => by cases h) (fun _ _ _ h => by cases h) ?_
      rintro s hs piece mem r rfl
      exact ⟨s, hs, by simpa [stringPieces] using mem⟩
    obtain ⟨s, hs, mem⟩ := inside _ (mem_marks.1 hr) r rfl
    exact ⟨s, hs, List.mem_map_of_mem (mem_marks.2 mem)⟩
  · rintro ⟨s, hs, h⟩
    obtain ⟨r, hr, rfl⟩ := List.mem_map.1 h
    refine List.mem_map_of_mem (mem_marks.2 (Json.mem_spell hs ?_))
    exact List.mem_cons_of_mem _ (List.mem_append_left _ (mem_marks.1 hr))

theorem replace_of_inside :
    (vars.replace v.spacedText none).toList = v.spell id (Json.sentString vars) := by
  rw [toList_replace, inside, Json.assemble_spell]

end Inside

section Line

variable {vars : Variables} (unnamed : Unnamed vars.knows) {v : Json} (legible : Legible v)
include unnamed legible

theorem pieces_spacedText :
    pieces vars.knows v.spacedText.toList = v.spell .plain (stringPieces vars.knows) := by
  have := Json.pieces_spell unnamed legible []
  rwa [List.append_nil, pieces_nil, List.append_nil, ← toList_spacedText] at this

/-- What is put into a line is put into its strings. -/
theorem mem_inserted {text : List Char} :
    text ∈ vars.inserted v.spacedText ↔ ∃ s ∈ v.texts, text ∈ Json.putInto vars s :=
  mem_inserted_of_inside (pieces_spacedText unnamed legible)

/-- The second pass over a line is a pass over each of its strings. -/
theorem replace_spacedText :
    (vars.replace v.spacedText none).toList = v.spell id (Json.sentString vars) :=
  replace_of_inside (pieces_spacedText unnamed legible)

variable (ascii : ∀ s ∈ v.texts, ∀ c ∈ s.toList, c.toNat < 0x80)
  (shown : ∀ text ∈ vars.inserted v.spacedText, ∀ c ∈ text, isShown c = true)
include ascii shown

theorem shown_of_mem_pieces {s : String} (hs : s ∈ v.texts) :
    ∀ r ∈ marks (pieces vars.knows s.toList), ∀ c ∈ vars.expand none r, isShown c = true := by
  intro r hr
  have mem : .mark r ∈ pieces vars.knows (Json.escaped s.toList) := by
    rw [Json.pieces_escaped (ascii s hs)]
    exact List.mem_flatMap.2 ⟨_, mem_marks.1 hr, by simp [Json.escapedPiece]⟩
  exact shown _ ((mem_inserted unnamed legible).2 ⟨s, hs, List.mem_map_of_mem (mem_marks.2 mem)⟩)

/-- For ASCII texts, that is expanding the references of each text. -/
theorem replace_spacedText_of_shown :
    vars.replace v.spacedText none = (v.mapText (vars.replace · none)).spacedText := by
  rw [← String.toList_inj, replace_spacedText unnamed legible, toList_spacedText,
    Json.spell_mapText]
  apply Json.spell_congr
  intro s hs
  rw [Json.sentString, Json.renderString_eq, toList_replace,
    Json.assemble_escaped (ascii s hs) (shown_of_mem_pieces unnamed legible ascii shown hs)]

theorem ascii_replace {s : String} (hs : s ∈ v.texts) :
    ∀ c ∈ (vars.replace s none).toList, c.toNat < 0x80 := by
  rw [toList_replace]
  exact Json.ascii_assemble (ascii s hs) (shown_of_mem_pieces unnamed legible ascii shown hs)

/-- So the line is read as the value with the references of its texts expanded. -/
theorem readPairs_replace : Json.readPairs v.spacedText = .ok v ∧
    Json.readPairs (vars.replace v.spacedText none) = .ok (v.mapText (vars.replace · none)) := by
  rw [replace_spacedText_of_shown unnamed legible ascii shown]
  refine ⟨Json.readPairs_spacedText legible fun s hs => Text.splitsPair_of_ascii (ascii s hs),
    Json.readPairs_spacedText (legible.mapText _) ?_⟩
  rw [Json.texts_mapText, List.forall_mem_map]
  intro s hs
  exact Text.splitsPair_of_ascii (ascii_replace unnamed legible ascii shown hs)

end Line

theorem mem_inserted_unlines {vars : Variables} {values : List Json} {text : List Char} :
    text ∈ vars.inserted (unlines (values.map Json.spacedText)) ↔
      ∃ v ∈ values, text ∈ vars.inserted v.spacedText := by
  rw [inserted_unlines, List.flatMap_map, List.mem_flatMap]

/-- What is put into a payload is put into the strings of its lines. -/
theorem forall_inserted {vars : Variables} (unnamed : Unnamed vars.knows) {entries : List Entry}
    (legible : ∀ v ∈ entries.flatMap Entry.values, Legible v) {P : List Char → Prop}
    (h : ∀ v ∈ entries.flatMap Entry.values, ∀ s ∈ v.texts, ∀ text ∈ Json.putInto vars s, P text) :
    ∀ text ∈ vars.inserted (write entries), P text := by
  intro text ht
  rw [write_eq] at ht
  obtain ⟨v, hv, inside⟩ := mem_inserted_unlines.1 ht
  obtain ⟨s, hs, put⟩ := (mem_inserted unnamed (legible v hv)).1 inside
  exact h v hv s hs text put

/-- The names that the bodies themselves refer to. -/
def ownReferences : List String := ["timeFrom", "timeTo", "__interval"]

theorem references_ownReferences : ∀ name ∈ ownReferences,
    references ("$" ++ name).toList = [.mark ⟨name, none, ("$" ++ name).toList⟩] := by
  decide +kernel

/-- A reference of a body becomes the value of its variable. -/
theorem replace_ownReference {vars : Variables} {name : String} (own : name ∈ ownReferences)
    {value : Value} (known : vars.get? name = some value) :
    vars.replace ("$" ++ name) none = Format.glob.render name value := by
  rw [Variables.replace, references_ownReferences name own, assemble_mark, assemble_nil,
    List.append_nil, Variables.expand, known, String.ofList_toList]
  rfl

theorem legible_values {settings : Settings} {filters : List AdhocFilter} {built : Variables}
    {queries : List PanelQuery} {entries : List Entry}
    (made : queries.mapM (entry settings filters built) = .ok entries)
    (concurrency : IsShort settings.maxConcurrentShardRequests)
    (wire : ∀ q ∈ queries, q.IsWire) : ∀ v ∈ entries.flatMap Entry.values, Legible v := by
  intro v hv
  obtain ⟨e, he, hv⟩ := List.mem_flatMap.1 hv
  obtain ⟨q, hq, hmade⟩ := Outcome.exists_of_mapM made he
  obtain ⟨body, hb, rfl⟩ := body_of_entry hmade
  rcases List.mem_pair.1 hv with rfl | rfl
  · exact (isWire_sentJson concurrency _).legible
  · exact legible_body (wire q hq) hb

/-- The second pass over a payload of ASCII texts has the same lines, each with the references in
its texts expanded, and nothing else changed: as long as what is put in stands in a string as itself
and no variable has a bare name. -/
theorem resolved_reads_back (settings : Settings) (filters : List AdhocFilter)
    (built vars : Variables) (queries : List PanelQuery) (entries : List Entry)
    (made : queries.mapM (entry settings filters built) = .ok entries)
    (concurrency : IsShort settings.maxConcurrentShardRequests)
    (wire : ∀ q ∈ queries, q.IsWire)
    (ascii : ∀ v ∈ entries.flatMap Entry.values, ∀ s ∈ v.texts, ∀ c ∈ s.toList, c.toNat < 0x80)
    (unnamed : ∀ name, Json.isBareName name = true → vars.get? name = none)
    (shown : ∀ text ∈ vars.inserted (write entries), ∀ c ∈ text, isShown c = true) :
    payload settings filters built queries = .ok (write entries) ∧
    (∃ before after, IsLines (write entries) before ∧ before.length = 2 * queries.length ∧
      IsLines (resolved vars (write entries)) after ∧
      List.Forall₂ (fun old new => ∃ v, Json.readPairs old = .ok v ∧
        Json.readPairs new = .ok (v.mapText (vars.replace · none))) before after) ∧
    ∀ name ∈ ownReferences, ∀ value, vars.get? name = some value →
      vars.replace ("$" ++ name) none = Format.glob.render name value := by
  have legible := legible_values made concurrency wire
  have count := (Outcome.mapM_eq_ok.1 made).length_eq
  have line (v : Json) (hv : v ∈ entries.flatMap Entry.values) :
      ∀ text ∈ vars.inserted v.spacedText, ∀ c ∈ text, isShown c = true := fun text ht =>
    shown text (by rw [write_eq]; exact mem_inserted_unlines.2 ⟨v, hv, ht⟩)
  have unknown := unnamed_knows unnamed
  have after : IsLines (resolved vars (write entries))
      (((entries.flatMap Entry.values).map Json.spacedText).map (vars.replace · none)) := by
    rw [write_eq, resolved_unlines]
    apply isLines_unlines
    rw [List.forall_mem_map, List.forall_mem_map]
    intro v hv
    rw [replace_spacedText_of_shown unknown (legible v hv) (ascii v hv) (line v hv)]
    exact not_mem_spacedText _
  refine ⟨by rw [payload, made]; rfl, ⟨_, _, isLines_write entries, ?_, after, ?_⟩,
    fun name own value => replace_ownReference own⟩
  · rw [List.length_map, length_values, count]
  · rw [List.forall₂_map_right_iff, List.forall₂_same, List.forall_mem_map]
    intro v hv
    exact ⟨v, readPairs_replace unknown (legible v hv) (ascii v hv) (line v hv)⟩

/-- A query over time whose text has a line break, a quotation mark and a reference. -/
def overTime : PanelQuery :=
  ⟨"A", some "level:\"$level\"\n", false, none, none, "@timestamp", [.default],
    [⟨"2", .dateHistogram, none, [("interval", .str "auto")]⟩]⟩

theorem isWire_overTime : overTime.IsWire :=
  ⟨by simp [overTime], by simp [overTime, Metric.default, Metric.IsWire],
    by simpa [overTime, Bucketing.IsWire] using IsWire.str "auto"⟩

/-- The variables of a request over time. -/
def overTimeVariables : Variables :=
  [("level", .multi ["warn", "error"]), ("timeFrom", .single "now-6h"), ("timeTo", .single "now"),
    ("__interval", .single "1m")]

theorem overTime_resolved : ∃ entries after,
    [overTime].mapM (entry someSettings [] []) = .ok entries ∧
      (∀ v ∈ entries.flatMap Entry.values, ∀ s ∈ v.texts, ∀ c ∈ s.toList, c.toNat < 0x80) ∧
      (∀ text ∈ overTimeVariables.inserted (write entries), ∀ c ∈ text, isShown c = true) ∧
      IsLines (resolved overTimeVariables (write entries)) after ∧ after.length = 2 := by
  obtain ⟨entries, made, ascii, put⟩ : ∃ entries,
      [overTime].mapM (entry someSettings [] []) = .ok entries ∧
        (∀ v ∈ entries.flatMap Entry.values, ∀ s ∈ v.texts, ∀ c ∈ s.toList, c.toNat < 0x80) ∧
        ∀ v ∈ entries.flatMap Entry.values, ∀ s ∈ v.texts,
          ∀ text ∈ Json.putInto overTimeVariables s, ∀ c ∈ text, isShown c = true :=
    ⟨_, rfl, by decide +kernel, by decide +kernel⟩
  have short : IsShort someSettings.maxConcurrentShardRequests := by decide
  have wire : ∀ q ∈ [overTime], q.IsWire := by simpa using isWire_overTime
  have unnamed (name : String) (bare : Json.isBareName name = true) :=
    (not_known_of_bare (by decide) bare : overTimeVariables.get? name = none)
  have shown := forall_inserted (unnamed_knows unnamed) (legible_values made short wire) put
  obtain ⟨-, ⟨before, after, -, count, lines, read⟩, -⟩ :=
    resolved_reads_back someSettings [] [] overTimeVariables [overTime] entries made short wire
      ascii unnamed shown
  exact ⟨entries, after, made, ascii, shown, lines, read.length_eq ▸ count⟩

end Search

end ElasticPanels

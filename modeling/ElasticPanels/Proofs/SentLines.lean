import ElasticPanels.Datasource
import ElasticPanels.Proofs.ResolvedLines

/-!
# The payload that is sent

The second pass puts the values of variables into strings that are written already.  What it puts
in decides what becomes of the string (`Json.fate`): it is still a string, or it cannot be read, or
what follows decides, since the value closes the string or ends within an escape.  So the payload
that is sent has its two lines for each search, each of them an object, only if no value breaks a
string (`isSearchText_resolved_iff`), and it always has a line more for each line break in a value.
-/

namespace ElasticPanels

open Template

namespace Json

/-! ## What is put into a string -/

/-- The characters end the reading of a string, whatever follows them. -/
def Stops (cs : List Char) : Prop :=
  ∀ opening rest, rest ≠ [] → ∃ refusal, readPieces opening (cs ++ rest) = .error refusal

theorem Stops.append {cs : List Char} (h : Stops cs) (ds : List Char) : Stops (cs ++ ds) := by
  intro opening rest ne
  rw [List.append_assoc]
  exact h opening _ (by simp [ne])

theorem Spelled.stops {cs ds : List Char} {ps : List Piece} (h : Spelled cs ps) (h' : Stops ds) :
    Stops (cs ++ ds) := by
  intro opening rest ne
  obtain ⟨refusal, e⟩ := h' opening rest ne
  exact ⟨refusal, by rw [List.append_assoc, h opening _ (by simp [ne]), e]; rfl⟩

theorem Stops.refused {cs : List Char} (h : Stops cs) : Refused ('"' :: (cs ++ ['"'])) := by
  refine ⟨cs ++ ['"'], rfl, fun opening rest => ?_⟩
  obtain ⟨refusal, e⟩ := h opening (['"'] ++ rest) (by simp)
  exact ⟨refusal, by rw [readString, List.append_assoc, e]; rfl⟩

theorem stops_control {c : Char} (h : c.toNat < 0x20) (tail : List Char) : Stops (c :: tail) := by
  have ne : c ≠ '"' ∧ c ≠ '\\' := by constructor <;> rintro rfl <;> exact absurd h (by decide)
  intro opening rest _
  exact ⟨_, by rw [List.cons_append, readPieces_plain ne, if_pos h]⟩

theorem stops_short {e : Char} (h : shortEscape? e = none) (other : e ≠ 'u') (tail : List Char) :
    Stops ('\\' :: e :: tail) := by
  intro opening rest _
  refine ⟨.flawed .badEscape ('\\' :: e :: (tail ++ rest)), ?_⟩
  rw [List.cons_append, List.cons_append,
    readPieces.eq_5 _ _ _ (fun _ _ _ _ _ _ h => absurd h other) other, h]

theorem hexUnit?_isSome {a b c d : Char} :
    (hexUnit? a b c d).isSome = [a, b, c, d].all (hexValue? · |>.isSome) := by
  cases ha : hexValue? a <;> cases hb : hexValue? b <;> cases hc : hexValue? c <;>
    cases hd : hexValue? d <;> simp [hexUnit?, ha, hb, hc, hd]

theorem stops_unit {cs : List Char} (h : (cs.take 4).all (hexValue? · |>.isSome) = false) :
    Stops ('\\' :: 'u' :: cs) := by
  intro opening rest ne
  rw [List.cons_append, List.cons_append]
  match e : cs ++ rest with
  | a :: b :: c :: d :: x :: more =>
    refine ⟨.flawed .badUnicodeEscape ('u' :: a :: b :: c :: d :: x :: more), ?_⟩
    have none : hexUnit? a b c d = none := by
      rw [← Option.not_isSome_iff_eq_none, hexUnit?_isSome]
      have first : [a, b, c, d] = (cs ++ rest).take 4 := by rw [e]; rfl
      rw [first, List.take_append, List.all_append, h]
      exact Bool.false_ne_true
    rw [readPieces.eq_3, none]
  | [] | [_] | [_, _] | [_, _, _] | [_, _, _, _] => exact ⟨_, rfl⟩

/-- The characters are read as pieces of a string, and hold no control character. -/
def Kept (cs : List Char) : Prop := (∃ ps, Spelled cs ps) ∧ ∀ c ∈ cs, 0x20 ≤ c.toNat

theorem Kept.append {cs ds : List Char} (h : Kept cs) (h' : Kept ds) : Kept (cs ++ ds) := by
  obtain ⟨⟨ps, spelled⟩, plain⟩ := h
  obtain ⟨⟨qs, spelled'⟩, plain'⟩ := h'
  exact ⟨⟨_, spelled.append spelled'⟩, List.forall_mem_append.2 ⟨plain, plain'⟩⟩

theorem Kept.stops {cs ds : List Char} (h : Kept cs) (h' : Stops ds) : Stops (cs ++ ds) := by
  obtain ⟨⟨ps, spelled⟩, -⟩ := h
  exact spelled.stops h'

theorem kept_plain {c : Char} (plain : ¬ c.toNat < 0x20) (quote : c ≠ '"') (backslash : c ≠ '\\') :
    Kept [c] := by
  have : isPlain c = true := by simpa [isPlain, quote, backslash] using plain
  exact ⟨⟨_, spelled_plain this⟩, by simpa using plain⟩

theorem kept_short {e : Char} (h : (shortEscape? e).isSome = true) : Kept ['\\', e] := by
  obtain ⟨c, hc⟩ := Option.isSome_iff_exists.1 h
  refine ⟨⟨_, spelled_short hc⟩, List.forall_mem_cons.2 ⟨by decide, ?_⟩⟩
  rw [List.forall_mem_singleton]
  unfold shortEscape? at h
  split at h <;> first | decide | cases h

theorem hexValue?_bound {c : Char} (h : (hexValue? c).isSome = true) : 0x20 ≤ c.toNat := by
  unfold hexValue? at h
  have bound {d : Char} (low : 0x20 ≤ d.toNat) (le : d ≤ c) : 0x20 ≤ c.toNat := low.trans le
  split_ifs at h with digit small large
  · exact bound (by decide) digit.1
  · exact bound (by decide) small.1
  · exact bound (by decide) large.1
  · cases h

theorem kept_hex {a b c d : Char} (h : (hexUnit? a b c d).isSome = true) :
    Kept ['\\', 'u', a, b, c, d] := by
  obtain ⟨n, hn⟩ := Option.isSome_iff_exists.1 h
  rw [hexUnit?_isSome, List.all_eq_true] at h
  refine ⟨⟨_, spelled_hex hn⟩, List.forall_mem_cons.2 ⟨by decide, ?_⟩⟩
  exact List.forall_mem_cons.2 ⟨by decide, fun x hx => hexValue?_bound (h x hx)⟩

/-- What becomes of a string that something is put into. -/
inductive Fate
  /-- It is still a string. -/
  | kept
  /-- It cannot be read. -/
  | broken
  /-- What follows decides: the string is closed, or an escape is left open. -/
  | undecided
  deriving DecidableEq, Repr

/-- What becomes of a string that these characters are put into. -/
def fate : List Char → Fate
  | [] => .kept
  | '"' :: _ => .undecided
  | '\\' :: 'u' :: a :: b :: c :: d :: rest =>
    if (hexUnit? a b c d).isSome then fate rest else .broken
  | '\\' :: 'u' :: short => if short.all (hexValue? · |>.isSome) then .undecided else .broken
  | '\\' :: e :: rest => if (shortEscape? e).isSome then fate rest else .broken
  | ['\\'] => .undecided
  | c :: rest => if c.toNat < 0x20 then .broken else fate rest

/-- A character is no backslash if it neither comes last nor begins an escape. -/
theorem ne_backslash {c : Char} {rest : List Char} (last : c = '\\' → rest = [] → False)
    (more : ∀ e tail, c = '\\' → rest = e :: tail → False) : c ≠ '\\' := by
  intro same
  cases rest with
  | nil => exact last same rfl
  | cons e tail => exact more e tail same rfl

theorem kept_of_fate {cs : List Char} (h : fate cs = .kept) : Kept cs := by
  fun_induction fate cs with
  | case1 => exact ⟨⟨[], .nil⟩, by simp⟩
  | case3 a b c d rest hex ih => exact (kept_hex hex).append (ih h)
  | case7 e rest _ _ short ih => exact (kept_short short).append (ih h)
  | case11 c rest quote _ _ more last control ih =>
    exact (kept_plain control quote (ne_backslash last more)).append (ih h)
  | case2 | case4 | case5 | case6 | case8 | case9 | case10 => cases h

theorem stops_of_fate {cs : List Char} (h : fate cs = .broken) : Stops cs := by
  fun_induction fate cs with
  | case3 a b c d rest hex ih => exact (kept_hex hex).stops (ih h)
  | case4 a b c d rest hex =>
    apply stops_unit
    rw [hexUnit?_isSome] at hex
    exact Bool.eq_false_iff.2 hex
  | case6 short few hex =>
    apply stops_unit
    have all : short.take 4 = short := List.take_of_length_le <| by
      by_contra many
      match short with
      | [] | [_] | [_, _] | [_, _, _] | [_, _, _, _] => simp at many
      | a :: b :: c :: d :: e :: rest => exact few a b c d (e :: rest) rfl
    rw [all]
    exact Bool.eq_false_iff.2 hex
  | case7 e rest _ _ short ih => exact (kept_short short).stops (ih h)
  | case8 e rest _ other short => exact stops_short (Option.not_isSome_iff_eq_none.1 short) other _
  | case10 c rest _ _ _ _ _ control => exact stops_control control rest
  | case11 c rest quote _ _ more last control ih =>
    exact (kept_plain control quote (ne_backslash last more)).stops (ih h)
  | case1 | case2 | case5 | case9 => cases h

/-! ## Strings that something was put into -/

theorem reads_of_kept {units : List (List Char)} (h : ∀ unit ∈ units, Kept unit) :
    ∃ s, Reads ('"' :: (units.flatten ++ ['"'])) s := by
  have whole : Kept units.flatten := by
    induction units with
    | nil => exact ⟨⟨[], .nil⟩, by simp⟩
    | cons unit units ih => exact (h unit (by simp)).append (ih fun u hu => h u (by simp [hu]))
  obtain ⟨⟨ps, spelled⟩, -⟩ := whole
  exact ⟨_, spelled.reads⟩

theorem refused_of_stops {units : List (List Char)} (each : ∀ unit ∈ units, Kept unit ∨ Stops unit)
    (bad : ∃ unit ∈ units, Stops unit) : Refused ('"' :: (units.flatten ++ ['"'])) := by
  apply Stops.refused
  induction units with
  | nil => simp at bad
  | cons unit units ih =>
    rw [List.flatten_cons]
    -- The first unit that stops the reader decides, and those before it are kept.
    rcases each unit (by simp) with kept | stops
    · obtain ⟨other, mem, stops⟩ := bad
      rcases List.mem_cons.1 mem with rfl | mem
      · exact stops.append _
      · exact kept.stops (ih (fun u hu => each u (by simp [hu])) ⟨other, mem, stops⟩)
    · exact stops.append _

theorem kept_stringChar (c : Char) : Kept (stringChar true c) :=
  ⟨⟨_, spelled_stringChar c⟩, fun d hd => by
    have : 0x20 ≤ d.toNat ∧ d.toNat ≤ 0x7e := by
      simpa [isPrintable] using isPrintable_of_mem_stringChar hd
    exact this.1⟩

section Strings

variable (vars : Variables)

/-- What stands for a piece of a text in its string. -/
def sentPiece : Text.Piece Reference → List Char
  | .plain c => stringChar true c
  | .mark r => vars.expand none r

theorem assemble_escapedPieces (ps : List (Text.Piece Reference)) :
    Text.assemble (vars.expand none) (ps.flatMap escapedPiece) = (ps.map (sentPiece vars)).flatten ∧
      marks (ps.flatMap escapedPiece) = marks ps := by
  induction ps with
  | nil => exact ⟨rfl, rfl⟩
  | cons piece ps ih =>
    rw [List.flatMap_cons, assemble_append, marks_append, ih.1, ih.2]
    cases piece with
    | plain c =>
      refine ⟨?_, ?_⟩
      · rw [escapedPiece, assemble_map_plain]
        rfl
      · rw [escapedPiece, marks_map_plain]
        rfl
    | mark r => exact ⟨by rw [escapedPiece, assemble_mark, assemble_nil, List.append_nil]; rfl, rfl⟩

variable {vars}

/-- What is put into a string decides what becomes of it. -/
theorem sentString_of_fate (s : String)
    (decided : ∀ text ∈ putInto vars s, fate text ≠ .undecided) :
    ((∀ text ∈ putInto vars s, fate text = .kept) → ∃ t, Reads (sentString vars s) t) ∧
      ((∃ text ∈ putInto vars s, fate text = .broken) → Refused (sentString vars s)) := by
  obtain ⟨ps, e⟩ := exists_pieces_escaped vars.knows s.toList
  obtain ⟨written, same⟩ := assemble_escapedPieces vars ps
  have mem {text : List Char} :
      text ∈ putInto vars s ↔ ∃ r ∈ marks ps, vars.expand none r = text := by
    rw [putInto, e, same, List.mem_map]
  rw [sentString, e, written]
  constructor
  · intro kept
    apply reads_of_kept
    rw [List.forall_mem_map]
    intro piece hp
    cases piece with
    | plain c => exact kept_stringChar c
    | mark r => exact kept_of_fate (kept _ (mem.2 ⟨r, mem_marks.2 hp, rfl⟩))
  · rintro ⟨text, put, broken⟩
    refine refused_of_stops (List.forall_mem_map.2 fun piece hp => ?_) ?_
    · cases piece with
      | plain c => exact .inl (kept_stringChar c)
      | mark r =>
        have known := decided _ (mem.2 ⟨r, mem_marks.2 hp, rfl⟩)
        cases h : fate (vars.expand none r) with
        | kept => exact .inl (kept_of_fate h)
        | broken => exact .inr (stops_of_fate h)
        | undecided => exact absurd h known
    · obtain ⟨r, hr, rfl⟩ := mem.1 put
      exact ⟨_, List.mem_map_of_mem (mem_marks.1 hr), stops_of_fate broken⟩

end Strings

end Json

/-! ## Lines that something was put into -/

namespace Template

/-- A character that is not in a text comes from what was put into it. -/
theorem count_replace (vars : Variables) {text : String} {c : Char} (h : c ∉ text.toList) :
    (vars.replace text none).toList.count c = ((vars.inserted text).map (List.count c)).sum := by
  rw [toList_replace, inserted_eq]
  have plain : ∀ d, .plain d ∈ pieces vars.knows text.toList → d ≠ c := by
    rintro d mem rfl
    exact h (mem_of_plain_mem_pieces mem)
  generalize pieces vars.knows text.toList = ps at plain
  induction ps with
  | nil => rfl
  | cons piece ps ih =>
    have later := ih fun d hd => plain d (List.mem_cons_of_mem _ hd)
    cases piece with
    | plain d =>
      rw [assemble_plain, List.count_cons_of_ne (plain d (by simp)), later]
      rfl
    | mark r =>
      rw [assemble_mark, List.count_append, later]
      rfl

theorem not_mem_replace_iff (vars : Variables) {text : String} {c : Char} (h : c ∉ text.toList) :
    c ∉ (vars.replace text none).toList ↔ ∀ put ∈ vars.inserted text, c ∉ put := by
  rw [← List.count_eq_zero, count_replace vars h, List.sum_eq_zero_iff, List.forall_mem_map]
  exact forall₂_congr fun put _ => List.count_eq_zero

end Template

namespace Search

open Session
open Json (Legible Unnamed fate)

/-- If all that is put into a line is put into its strings and kept, the line is read. -/
theorem read_of_inside {vars : Variables} {v : Json} (inside : RefersInside vars v)
    (legible : Legible v) (kept : ∀ text ∈ vars.inserted v.spacedText, fate text = .kept) :
    ∃ dec, Json.read (vars.replace v.spacedText none) = .ok (v.readBack Entries.ofPairs dec) ∧
      ∀ s ∈ v.texts, Json.Reads (Json.sentString vars s) (dec s) := by
  have reads : ∀ s ∈ v.texts, ∃ t, Json.Reads (Json.sentString vars s) t := by
    intro s hs
    have all : ∀ text ∈ Json.putInto vars s, fate text = .kept :=
      fun text ht => kept text ((mem_inserted_of_inside inside).2 ⟨s, hs, ht⟩)
    exact (Json.sentString_of_fate s fun text ht => by simp [all text ht]).1 all
  choose! dec hdec using reads
  refine ⟨dec, ?_, hdec⟩
  rw [Json.read, ← String.ofList_toList (s := vars.replace v.spacedText none),
    replace_of_inside inside]
  exact Json.readText_spell rfl legible hdec

section Line

variable {vars : Variables} (unnamed : Unnamed vars.knows) {v : Json} (legible : Legible v)
include unnamed legible

/-- If all that is put into a line is kept, the line is read. -/
theorem read_of_kept (kept : ∀ text ∈ vars.inserted v.spacedText, fate text = .kept) :
    ∃ dec, Json.read (vars.replace v.spacedText none) = .ok (v.readBack Entries.ofPairs dec) := by
  obtain ⟨dec, read, -⟩ := read_of_inside (pieces_spacedText unnamed legible) legible kept
  exact ⟨dec, read⟩

/-- If something that is put into a line breaks a string, the line is not read. -/
theorem read_of_broken
    (decided : ∀ text ∈ vars.inserted v.spacedText, fate text ≠ .undecided)
    (broken : ∃ text ∈ vars.inserted v.spacedText, fate text = .broken) :
    ∃ error, Json.read (vars.replace v.spacedText none) = .error error := by
  have inside {s : String} (hs : s ∈ v.texts) := Json.sentString_of_fate s fun text ht =>
    decided text ((mem_inserted unnamed legible).2 ⟨s, hs, ht⟩)
  have each : ∀ s ∈ v.texts, ∃ t, Json.Reads (Json.sentString vars s) t ∨
      Json.Refused (Json.sentString vars s) := by
    intro s hs
    by_cases bad : ∃ text ∈ Json.putInto vars s, fate text = .broken
    · exact ⟨s, .inr ((inside hs).2 bad)⟩
    · obtain ⟨t, reads⟩ := (inside hs).1 fun text ht => by
        have known := decided text ((mem_inserted unnamed legible).2 ⟨s, hs, ht⟩)
        cases h : fate text with
        | kept => rfl
        | broken => exact absurd ⟨text, ht, h⟩ bad
        | undecided => exact absurd h known
      exact ⟨t, .inl reads⟩
  choose! dec hdec using each
  obtain ⟨text, ht, h⟩ := broken
  obtain ⟨s, hs, put⟩ := (mem_inserted unnamed legible).1 ht
  rw [Json.read, ← String.ofList_toList (s := vars.replace v.spacedText none),
    replace_spacedText unnamed legible]
  exact Json.readText_refused rfl legible hdec ⟨s, hs, (inside hs).2 ⟨text, put, h⟩⟩

end Line

/-! ## Payloads that something was put into -/

/-- The text has `count` lines, each of them an object. -/
def IsSearchText (text : String) (count : ℕ) : Prop :=
  ∃ lines, IsLines text lines ∧ lines.length = count ∧
    ∀ line ∈ lines, ∃ fields, Json.read line = .ok (.obj fields)

section Payload

theorem isLines_resolved (vars : Variables) (values : List Json) :
    IsLines (resolved vars (unlines (values.map Json.spacedText)))
      (values.flatMap fun v => innerLines (vars.replace v.spacedText none)) := by
  rw [resolved_unlines]
  have := isLines_innerLines ((values.map Json.spacedText).map (vars.replace · none))
  rwa [List.flatMap_map, List.flatMap_map] at this

variable {vars : Variables} {values : List Json}

/-- There is a line more for each line break that is put in. -/
theorem length_resolved :
    (values.flatMap fun v => innerLines (vars.replace v.spacedText none)).length = values.length +
      ((vars.inserted (unlines (values.map Json.spacedText))).map (List.count '\n')).sum := by
  rw [inserted_unlines, List.flatMap_map]
  induction values with
  | nil => rfl
  | cons v values ih =>
    have here : (innerLines (vars.replace v.spacedText none)).length =
        ((vars.inserted v.spacedText).map (List.count '\n')).sum + 1 := by
      rw [innerLines, List.length_map, length_splitAt, count_replace vars (not_mem_spacedText v)]
    rw [List.flatMap_cons, List.flatMap_cons, List.length_append, ih, here, List.map_append,
      List.sum_append, List.length_cons]
    omega

/-- Without line breaks in what is put in, the lines are those that were written. -/
theorem innerLines_resolved (whole : ∀ text ∈ vars.inserted (unlines (values.map Json.spacedText)),
    '\n' ∉ text) : (values.flatMap fun v => innerLines (vars.replace v.spacedText none)) =
      values.map fun v => vars.replace v.spacedText none := by
  rw [← List.flatMap_map (f := fun v => vars.replace (Json.spacedText v) none) innerLines]
  apply flatMap_innerLines
  rw [List.forall_mem_map]
  intro v hv
  rw [not_mem_replace_iff vars (not_mem_spacedText v)]
  intro text ht
  exact whole text (mem_inserted_unlines.2 ⟨v, hv, ht⟩)

/-- If there is one line for each value, no line break was put in. -/
theorem IsSearchText.not_mem
    (h : IsSearchText (resolved vars (unlines (values.map Json.spacedText))) values.length) :
    ∀ put ∈ vars.inserted (unlines (values.map Json.spacedText)), '\n' ∉ put := by
  obtain ⟨lines, isLines, count, -⟩ := h
  obtain rfl := isLines.unique (isLines_resolved _ _)
  rw [length_resolved, Nat.add_eq_left, List.sum_eq_zero_iff, List.forall_mem_map] at count
  intro put hp
  exact List.count_eq_zero.1 (count put hp)

variable (unnamed : Unnamed vars.knows) (legible : ∀ v ∈ values, Legible v)
  (objects : ∀ v ∈ values, ∃ fields, v = .obj fields)
  (decided : ∀ text ∈ vars.inserted (unlines (values.map Json.spacedText)),
    fate text ≠ .undecided)
include unnamed legible objects decided

/-- The lines are one object for each value if and only if all that is put in is kept. -/
theorem isSearchText_resolved_iff :
    IsSearchText (resolved vars (unlines (values.map Json.spacedText))) values.length ↔
      ∀ text ∈ vars.inserted (unlines (values.map Json.spacedText)), fate text = .kept := by
  constructor
  · intro h text ht
    have none := h.not_mem
    obtain ⟨lines, isLines, -, read⟩ := h
    obtain rfl := isLines.unique (isLines_resolved _ _)
    rw [innerLines_resolved none, List.forall_mem_map] at read
    obtain ⟨v, hv, inside⟩ := mem_inserted_unlines.1 ht
    obtain ⟨fields, ok⟩ := read v hv
    have known (put : List Char) (hp : put ∈ vars.inserted v.spacedText) :=
      decided put (mem_inserted_unlines.2 ⟨v, hv, hp⟩)
    cases h : fate text with
    | kept => rfl
    | broken =>
      obtain ⟨error, refused⟩ := read_of_broken unnamed (legible v hv) known ⟨text, inside, h⟩
      rw [refused] at ok
      cases ok
    | undecided => exact absurd h (decided text ht)
  · intro kept
    have whole : ∀ text ∈ vars.inserted (unlines (values.map Json.spacedText)), '\n' ∉ text := by
      intro text ht mem
      exact absurd ((Json.kept_of_fate (kept text ht)).2 _ mem) (by decide)
    have lines := isLines_resolved vars values
    rw [innerLines_resolved whole] at lines
    refine ⟨_, lines, List.length_map _, List.forall_mem_map.2 fun v hv => ?_⟩
    obtain ⟨dec, read⟩ := read_of_kept unnamed (legible v hv)
      fun text ht => kept text (mem_inserted_unlines.2 ⟨v, hv, ht⟩)
    obtain ⟨fields, rfl⟩ := objects v hv
    exact ⟨_, by rw [read, Json.readBack_obj]⟩

end Payload

theorem exists_fields {entries : List Entry} :
    ∀ v ∈ entries.flatMap Entry.values, ∃ fields, v = .obj fields := by
  intro v hv
  obtain ⟨e, -, hv⟩ := List.mem_flatMap.1 hv
  rcases List.mem_pair.1 hv with rfl | rfl
  · exact ⟨_, rfl⟩
  · exact ⟨_, rfl⟩

/-- What can be said of the text that is sent for `n` searches. -/
structure IsSent (vars : Variables) (text : String) (n : ℕ) : Prop where
  /-- There are two lines for each search, and one for each line break that is put in. -/
  lines : ∃ lines, IsLines (resolved vars text) lines ∧
    lines.length = 2 * n + ((vars.inserted text).map (List.count '\n')).sum
  /-- There are two objects for each search if and only if all that is put in is kept. -/
  objects : (∀ name, Json.isBareName name = true → vars.get? name = none) →
    (∀ put ∈ vars.inserted text, fate put ≠ .undecided) →
      (IsSearchText (resolved vars text) (2 * n) ↔ ∀ put ∈ vars.inserted text, fate put = .kept)

theorem isSent_write (vars : Variables) {entries : List Entry}
    (legible : ∀ v ∈ entries.flatMap Entry.values, Legible v) :
    IsSent vars (write entries) entries.length := by
  rw [write_eq]
  refine ⟨⟨_, isLines_resolved _ _, ?_⟩, fun unnamed decided => ?_⟩
  · rw [length_resolved, length_values]
  · rw [← length_values]
    exact isSearchText_resolved_iff (unnamed_knows unnamed) legible exists_fields decided

theorem isWire_termsBody {l : Lookup} (short : ∀ n, l.size = some n → IsShort n)
    (timeField : String) : (l.termsBody timeField).toJson.IsWire := by
  have size : IsShort (if l.size.getD 0 = 0 then termsLimit else l.size.getD 0) := by
    split_ifs with zero
    · decide
    · cases h : l.size with
      | none => decide
      | some n => exact short n h
  have order : Json.IsWire (.obj [("_term", .str "asc")]) := .entry _ (.str _)
  have terms : Json.IsWire (.obj [("field", .ofText? l.field),
      ("size", .int (if l.size.getD 0 = 0 then termsLimit else l.size.getD 0)),
      ("order", .obj [("_term", .str "asc")])]) :=
    .obj (by simp) (by simpa using ⟨Json.IsWire.ofText? l.field, Json.IsWire.int size, order⟩)
  have selection := isWire_selection timeField (queryOrAll (l.query.getD "")) []
  refine .obj (by simp [aggregationEntries, Lookup.termsBody]) ?_
  simpa [aggregationEntries, Lookup.termsBody] using
    ⟨Json.IsWire.int (by decide : IsShort 0), selection, .entry "1" (.entry "terms" terms)⟩

end Search

/-! ## What a datasource sends -/

namespace Datasource

open Search Session

variable (d : Datasource)

section

variable {queries : List PanelQuery} {filters : List AdhocFilter} {vars : Template.Variables}

theorem runBatch_of_none (none : visibleQueries queries = []) :
    d.runBatch queries filters vars = pure [] := by
  rw [runBatch, none]
  rfl

variable (any : visibleQueries queries ≠ [])
include any

theorem runBatch_eq {text : String}
    (made : payload d.settings filters vars (visibleQueries queries) = .ok text) :
    d.runBatch queries filters vars = (do
      count (.batch (visibleQueries queries).length)
      let reply ← multiSearch d.connection .query multiSearchPath (resolved vars text)
      ofOutcome (results (visibleQueries queries) reply)) := by
  have empty : (visibleQueries queries).isEmpty = false := by simpa using any
  rw [Datasource.runBatch]
  simp only [empty, made, Bool.false_eq_true, if_false, ofOutcome, pure_bind]

/-- A payload that cannot be built ends a batch before anything is done. -/
theorem run_unbuilt {fault : Fault}
    (unbuilt : payload d.settings filters vars (visibleQueries queries) = .error fault)
    (j : Journal) : (d.runBatch queries filters vars).run.run j = (.error fault, j) := by
  have shown : (visibleQueries queries).isEmpty = false := by simpa using any
  rw [runBatch]
  simp only [shown, unbuilt]
  rfl

end

/-- The text that is sent for a batch of queries, and for a lookup of terms. -/
theorem isSent (concurrency : IsShort d.settings.maxConcurrentShardRequests) :
    (∀ (request : BatchRequest) (text : String), (∀ q ∈ request.queries, q.IsWire) →
      let visible := visibleQueries request.queries
      let vars := request.allVars
      visible ≠ [] → payload d.settings request.filters vars visible = .ok text →
        d.query request = (do
          count (.batch visible.length)
          let reply ← multiSearch d.connection .query multiSearchPath (resolved vars text)
          ofOutcome (results visible reply)) ∧
        IsSent vars text visible.length) ∧
    ∀ (request : LookupRequest) (l : Lookup), Lookup.read request.query = .ok (some l) →
      l.target = .terms → (∀ n, l.size = some n → IsShort n) →
      let vars := request.allVars
      let text := termsPayload d.settings (l.asked vars)
      d.find request = (do
        count (.lookup .terms)
        let reply ← multiSearch d.connection .terms d.termsPath (resolved vars text)
        let found ← ofOutcome (do
          let slots ← reply.entry "responses"
          Suggestion.ofSlot (← slots.item 0) "1")
        return .terms found) ∧
      IsSent vars text 1 := by
  refine ⟨fun request text wire => ?_, fun request l given terms short => ?_⟩
  · intro visible vars any made
    refine ⟨runBatch_eq d any made, ?_⟩
    obtain ⟨entries, made', written⟩ := Outcome.bind_eq_ok.1 made
    obtain rfl := Outcome.pure_eq_ok.1 written
    have count := (Outcome.mapM_eq_ok.1 made').length_eq
    have legible := legible_values made' concurrency fun q hq =>
      wire q (mem_of_mem_visibleQueries hq)
    exact count ▸ isSent_write vars legible
  · intro vars text
    constructor
    · rw [d.find_of_terms given terms, fieldTerms]
      simp only [bind_assoc]
      rfl
    · have legible : ∀ v ∈ [Entry.mk (d.settings.header d.settings.version.termsSearchType)
          ((l.asked vars).termsBody d.settings.timeField)].flatMap Entry.values,
            Json.Legible v := by
        simpa [Entry.values] using ⟨(isWire_sentJson concurrency _).legible,
          (isWire_termsBody (l := l.asked vars) short _).legible⟩
      exact isSent_write vars legible

/-- An index of some server. -/
def someDatasource : Datasource := ⟨someSettings, ⟨"http://es:9200", none, none, []⟩⟩

/-- A request over time in some range. -/
def requestFrom (start : String) : BatchRequest :=
  ⟨[overTime], [], [("level", .multi ["warn", "error"])], ⟨start, "now"⟩, "1m"⟩

/-- The variables of the request. -/
def variablesFrom (start : String) : Template.Variables := (requestFrom start).allVars

theorem requestFrom_isSearchText : IsShort someDatasource.settings.maxConcurrentShardRequests ∧
    overTime.IsWire ∧
      ∃ text, payload someDatasource.settings [] (variablesFrom "now-6h") [overTime] = .ok text ∧
      (∀ put ∈ (variablesFrom "now-6h").inserted text, Json.fate put = .kept) ∧
      IsSearchText (resolved (variablesFrom "now-6h") text) 2 := by
  have short : IsShort someDatasource.settings.maxConcurrentShardRequests := by decide
  have wire : ∀ q ∈ (requestFrom "now-6h").queries, q.IsWire := by
    simpa [requestFrom] using isWire_overTime
  obtain ⟨entries, made, put⟩ : ∃ entries,
      [overTime].mapM (entry someDatasource.settings [] (variablesFrom "now-6h")) = .ok entries ∧
        ∀ v ∈ entries.flatMap Entry.values, ∀ s ∈ v.texts,
          ∀ text ∈ Json.putInto (variablesFrom "now-6h") s, Json.fate text = .kept :=
    ⟨_, rfl, by decide +kernel⟩
  have written : payload someDatasource.settings [] (variablesFrom "now-6h") [overTime] =
      .ok (write entries) := by rw [payload, made]; rfl
  have unnamed (name : String) (bare : Json.isBareName name = true) :=
    (not_known_of_bare (by decide) bare : (variablesFrom "now-6h").get? name = none)
  have kept := forall_inserted (unnamed_knows unnamed) (legible_values made short wire) put
  obtain ⟨-, sent⟩ := (isSent someDatasource short).1 (requestFrom "now-6h") _ wire
    (by simp [requestFrom, overTime, visibleQueries]) written
  refine ⟨short, isWire_overTime, _, written, kept, (sent.objects unnamed ?_).2 kept⟩
  exact fun put hp => by rw [kept put hp]; decide

/-- A line break in the start of the range makes a line more. -/
theorem lineBreak_not_isSearchText : ∃ text,
    payload someDatasource.settings [] (variablesFrom "now\n-6h") [overTime] = .ok text ∧
      ¬ IsSearchText (resolved (variablesFrom "now\n-6h") text) 2 := by
  obtain ⟨entries, made, v, hv, s, hs, put⟩ : ∃ entries,
      [overTime].mapM (entry someDatasource.settings [] (variablesFrom "now\n-6h")) =
          .ok entries ∧
        ∃ v ∈ entries.flatMap Entry.values, ∃ s ∈ v.texts,
          "now\n-6h".toList ∈ Json.putInto (variablesFrom "now\n-6h") s :=
    ⟨_, rfl, by decide +kernel⟩
  have count := (Outcome.mapM_eq_ok.1 made).length_eq
  have unnamed (name : String) (bare : Json.isBareName name = true) :=
    (not_known_of_bare (by decide) bare : (variablesFrom "now\n-6h").get? name = none)
  have legible := legible_values made (by decide) (by simpa using isWire_overTime)
  have inserted := mem_inserted_unlines.2
    ⟨v, hv, (mem_inserted (unnamed_knows unnamed) (legible v hv)).2 ⟨s, hs, put⟩⟩
  refine ⟨write entries, by rw [payload, made]; rfl, fun sent => ?_⟩
  have two : 2 = (entries.flatMap Entry.values).length := by rw [length_values, ← count]; rfl
  rw [write_eq, two] at sent
  exact sent.not_mem _ inserted (by decide)

end Datasource

end ElasticPanels

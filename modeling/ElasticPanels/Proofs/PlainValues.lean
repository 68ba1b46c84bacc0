import ElasticPanels.Proofs.SentLines

/-!
# Plain values

A value is plain if it has no character that begins a reference, no backslash and no line break.
Whatever its format, what such a value puts into a text is tame (`tame_inserted`): it makes no new
reference and no new line, and a string that keeps it reads no reference from it either
(`spelled_of_tame`).  So a string that plain values were put into reads as a text with fewer
beginnings of references (`sigils`) than the text that was written, if anything was put into it at
all (`putInto_of_reads`).
-/

namespace ElasticPanels

open Template
open Text (isWord assemble)

/-! ## Tame texts -/

namespace Template

/-- Whether references begin with the character. -/
def isSigil (c : Char) : Bool := c = '$' || c = '['

/-- The number of characters that references begin with. -/
def sigils (cs : List Char) : ℕ := cs.countP isSigil

/-- Whether a character begins no reference and ends no line. -/
def isMild (c : Char) : Bool := !isSigil c && c ≠ '\n'

/-- The characters begin no reference and end no line, and a backslash among them takes the next
character, which begins no unit. -/
inductive Tame : List Char → Prop
  | nil : Tame []
  | plain {c : Char} {rest : List Char} (mild : isMild c = true) (whole : c ≠ '\\')
      (h : Tame rest) : Tame (c :: rest)
  | escaped {c : Char} {rest : List Char} (mild : isMild c = true) (letter : c ≠ 'u')
      (h : Tame rest) : Tame ('\\' :: c :: rest)

theorem Tame.append {cs ds : List Char} (h : Tame cs) (h' : Tame ds) : Tame (cs ++ ds) := by
  induction h with
  | nil => exact h'
  | plain mild whole _ ih => exact .plain mild whole ih
  | escaped mild letter _ ih => exact .escaped mild letter ih

theorem Tame.mild {cs : List Char} (h : Tame cs) : ∀ c ∈ cs, isMild c = true := by
  induction h with
  | nil => simp
  | plain mild _ _ ih => exact List.forall_mem_cons.2 ⟨mild, ih⟩
  | escaped mild _ _ ih =>
    exact List.forall_mem_cons.2 ⟨by decide, List.forall_mem_cons.2 ⟨mild, ih⟩⟩

theorem Tame.not_mem_newline {cs : List Char} (h : Tame cs) : '\n' ∉ cs :=
  fun mem => absurd (h.mild _ mem) (by decide)

theorem Tame.sigils_eq_zero {cs : List Char} (h : Tame cs) : sigils cs = 0 := by
  rw [sigils, List.countP_eq_zero]
  intro c hc
  have := h.mild c hc
  simp only [isMild, Bool.and_eq_true, Bool.not_eq_true'] at this
  simp [this.1]

/-- Whether a character stands in plain values. -/
def isPlainChar (c : Char) : Bool := isMild c && c ≠ '\\'

theorem isPlainChar_iff {c : Char} : isPlainChar c = true ↔ isMild c = true ∧ c ≠ '\\' := by
  simp [isPlainChar]

/-- The text is plain: it has no character that begins a reference, no backslash and no line
break. -/
def IsPlainText (s : String) : Prop := ∀ c ∈ s.toList, isPlainChar c = true

instance : DecidablePred IsPlainText := fun s =>
  inferInstanceAs (Decidable (∀ c ∈ s.toList, isPlainChar c = true))

theorem tame_of_plain {cs : List Char} (h : ∀ c ∈ cs, isPlainChar c = true) : Tame cs := by
  induction cs with
  | nil => exact .nil
  | cons c cs ih =>
    obtain ⟨mild, whole⟩ := isPlainChar_iff.1 (h c (by simp))
    exact .plain mild whole (ih fun d hd => h d (by simp [hd]))

/-! ## What formats make of plain values -/

theorem tame_protectChars {special : Char → Bool} (letter : special 'u' = false) {cs : List Char}
    (h : ∀ c ∈ cs, isPlainChar c = true) : Tame (protectChars special cs) := by
  induction cs with
  | nil => exact .nil
  | cons c cs ih =>
    obtain ⟨mild, whole⟩ := isPlainChar_iff.1 (h c (by simp))
    have rest := ih fun d hd => h d (by simp [hd])
    rw [protectChars_cons]
    split_ifs with hc
    · exact .escaped mild (Text.ne_of_class letter hc).symm rest
    · exact .plain mild whole rest

theorem tame_luceneEscape {s : String} (h : IsPlainText s) : Tame (luceneEscape s).toList := by
  rw [luceneEscape, String.toList_ofList]
  exact tame_protectChars (by decide) h

theorem tame_regexEscape {s : String} (h : IsPlainText s) : Tame (regexEscape s).toList := by
  rw [regexEscape, String.toList_ofList]
  exact tame_protectChars (by decide) h

theorem tame_intercalate {separator : String} (h : Tame separator.toList) {texts : List String}
    (each : ∀ s ∈ texts, Tame s.toList) : Tame (String.intercalate separator texts).toList := by
  rw [String.toList_intercalate]
  replace each : ∀ part ∈ texts.map String.toList, Tame part := List.forall_mem_map.2 each
  generalize texts.map String.toList = parts at each
  induction parts with
  | nil => exact .nil
  | cons part parts ih =>
    have first := each part (by simp)
    have later := ih fun p hp => each p (by simp [hp])
    cases parts with
    | nil => simpa [List.intercalate] using first
    | cons next parts =>
      have step : separator.toList.intercalate (part :: next :: parts) =
          part ++ (separator.toList ++ separator.toList.intercalate (next :: parts)) := by
        simp [List.intercalate]
      rw [step]
      exact first.append (h.append later)

/-- The texts of a value. -/
def Value.texts : Value → List String
  | .single text => [text]
  | .multi texts => texts

/-- Fixed parts of what formats write. -/
theorem tame_marks : ∀ mark ∈ ["__empty__", "(", ")", " OR ", "\"", ",", "|", "=", "\x7b", "\x7d"],
    Tame (String.toList mark) := by
  intro mark hm
  apply tame_of_plain
  revert mark
  decide

section Render

variable {texts : List String} (plain : ∀ s ∈ texts, IsPlainText s)
include plain

theorem tame_luceneGroup : Tame (luceneGroup texts).toList := by
  cases texts with
  | nil => exact tame_marks "__empty__" (by decide)
  | cons text texts =>
    simp only [luceneGroup, String.toList_append]
    refine .append (.append (tame_marks "(" (by decide)) ?_) (tame_marks ")" (by decide))
    refine tame_intercalate (tame_marks " OR " (by decide)) (List.forall_mem_map.2 fun s hs => ?_)
    simp only [String.toList_append]
    have quote := tame_marks "\"" (by decide)
    exact (quote.append (tame_luceneEscape (plain s hs))).append quote

theorem tame_list {separator : String} (h : Tame separator.toList) :
    Tame (String.intercalate separator texts).toList :=
  tame_intercalate h fun s hs => tame_of_plain (plain s hs)

theorem tame_globGroup : Tame (globGroup texts).toList := by
  unfold globGroup
  split
  · exact tame_of_plain (plain _ (by simp))
  · simp only [String.toList_append]
    exact ((tame_marks "\x7b" (by decide)).append
      (tame_list plain (tame_marks "," (by decide)))).append (tame_marks "\x7d" (by decide))

theorem tame_regexGroup : Tame (regexGroup texts).toList := by
  unfold regexGroup
  split
  · exact tame_regexEscape (plain _ (by simp))
  · simp only [String.toList_append]
    refine .append (.append (tame_marks "(" (by decide)) ?_) (tame_marks ")" (by decide))
    exact tame_intercalate (tame_marks "|" (by decide))
      (List.forall_mem_map.2 fun s hs => tame_regexEscape (plain s hs))

theorem tame_distributedList {name : String} (named : Tame name.toList) :
    Tame (distributedList name texts).toList := by
  cases texts with
  | nil => exact .nil
  | cons text texts =>
    rw [distributedList]
    refine tame_intercalate (tame_marks "," (by decide)) (List.forall_mem_cons.2 ⟨?_, ?_⟩)
    · exact tame_of_plain (plain text (by simp))
    · refine List.forall_mem_map.2 fun s hs => ?_
      simp only [String.toList_append]
      exact (named.append (tame_marks "=" (by decide))).append
        (tame_of_plain (plain s (by simp [hs])))

end Render

/-- Whatever the format is, what it makes of a plain value is tame. -/
theorem tame_render (format : Format) {name : String} (named : Tame name.toList) {value : Value}
    (plain : ∀ s ∈ value.texts, IsPlainText s) : Tame (format.render name value).toList := by
  cases value with
  | single text =>
    have here := plain text (by simp [Value.texts])
    cases format with
    | lucene => exact tame_luceneEscape here
    | regex => exact tame_regexEscape here
    | glob | csv | pipe | raw | distributed => exact tame_of_plain here
  | multi texts =>
    cases format with
    | lucene => exact tame_luceneGroup plain
    | glob => exact tame_globGroup plain
    | csv | raw => exact tame_list plain (tame_marks "," (by decide))
    | pipe => exact tame_list plain (tame_marks "|" (by decide))
    | regex => exact tame_regexGroup plain
    | distributed => exact tame_distributedList plain named

/-! ## What is put into a text -/

/-- The values of the variables are plain. -/
def Variables.ArePlain (vars : Variables) : Prop :=
  ∀ entry ∈ vars, ∀ s ∈ entry.2.texts, IsPlainText s

instance : DecidablePred Variables.ArePlain := fun vars =>
  inferInstanceAs (Decidable (∀ entry ∈ vars, ∀ s ∈ entry.2.texts, IsPlainText s))

/-- A mark among the pieces of a text is a known reference. -/
theorem reference_of_mem_marks {known : Reference → Bool} {cs : List Char} {r : Reference}
    (h : r ∈ marks (pieces known cs)) : known r = true ∧ ∃ after, reference? after = some r := by
  induction cs using inductionOnPieces known with
  | nil => cases h
  | plain c rest none ih =>
    rw [pieces_cons none] at h
    exact ih (mem_marks.2 (by simpa using mem_marks.1 h))
  | mark s after found hs ih =>
    rw [pieces_reference found hs, mem_marks, List.mem_cons] at h
    rcases h with same | later
    · obtain rfl : r = s := by simpa using same
      exact ⟨hs, _, found⟩
    · exact ih (mem_marks.2 later)

/-- What plain values put into a text is tame. -/
theorem tame_inserted {vars : Variables} (plain : vars.ArePlain) {cs put : List Char}
    (h : put ∈ (marks (pieces vars.knows cs)).map (vars.expand none)) : Tame put := by
  obtain ⟨r, hr, rfl⟩ := List.mem_map.1 h
  obtain ⟨known, _, found⟩ := reference_of_mem_marks hr
  obtain ⟨value, hv⟩ := Option.isSome_iff_exists.1 known
  have named : Tame r.name.toList := by
    apply tame_of_plain
    intro c hc
    have word := isWord_name_of_reference? found c hc
    have ne (d : Char) (other : isWord d = false) : c ≠ d := (Text.ne_of_class other word).symm
    simp [isPlainChar, isMild, isSigil, ne '$' (by decide), ne '[' (by decide), ne '\n' (by decide),
      ne '\\' (by decide)]
  rw [Variables.expand, hv]
  exact tame_render _ named (plain _ (Entries.mem_of_get? hv))

/-- The pieces of a text make it again, each reference by its own characters. -/
theorem assemble_source (known : Reference → Bool) (cs : List Char) :
    assemble Reference.source (pieces known cs) = cs := by
  induction cs using inductionOnPieces known with
  | nil => rfl
  | plain c rest none ih => rw [pieces_cons none, assemble_plain, ih]
  | mark r after found hr ih => rw [pieces_reference found hr, assemble_mark, ih]

theorem sigils_append (cs ds : List Char) : sigils (cs ++ ds) = sigils cs + sigils ds :=
  List.countP_append

theorem sigils_cons (c : Char) (cs : List Char) : sigils (c :: cs) = sigils [c] + sigils cs :=
  sigils_append [c] cs

theorem Begins.sigils_pos {r : Reference} {cs : List Char} (h : Begins r cs) :
    1 ≤ sigils r.source := by
  apply List.countP_pos_iff.2
  rcases h.shape with ⟨tail, e, -⟩ | ⟨c, tail, e, -⟩
  · exact ⟨'$', by simp [e], by decide⟩
  · exact ⟨'[', by simp [e], by decide⟩

/-- What tame texts are put into has a beginning of a reference less for each of them. -/
theorem sigils_assemble_le (write : Reference → List Char) (ps : List (Text.Piece Reference))
    (tame : ∀ r ∈ marks ps, sigils (write r) = 0) (begins : ∀ r ∈ marks ps, 1 ≤ sigils r.source) :
    sigils (assemble write ps) + (marks ps).length ≤ sigils (assemble Reference.source ps) := by
  induction ps with
  | nil => exact le_rfl
  | cons piece ps ih =>
    cases piece with
    | plain c =>
      have later := ih tame begins
      have same : marks (.plain c :: ps) = marks ps := rfl
      rw [assemble_plain, assemble_plain, sigils_cons, sigils_cons c (assemble _ ps), same]
      omega
    | mark r =>
      have same : marks (.mark r :: ps) = r :: marks ps := rfl
      rw [same] at tame begins
      have later := ih (fun s hs => tame s (by simp [hs])) fun s hs => begins s (by simp [hs])
      have here := tame r (by simp)
      have lost := begins r (by simp)
      rw [assemble_mark, assemble_mark, sigils_append, sigils_append, same, List.length_cons]
      omega

end Template

/-! ## What is read from a string -/

namespace Json

/-- Whether references begin with what a piece stands for. -/
def pieceSigil : Piece → Bool
  | .shown c => isSigil c
  | .unit n => isSigil (Text.ofUnit n)

theorem isSigil_ofNat {n : ℕ} (h : 0x80 ≤ n) : isSigil (.ofNat n) = false := by
  by_cases valid : n.isValidChar
  · have code : (Char.ofNat n).toNat = n := by
      rw [Char.ofNat, dif_pos valid]
      rfl
    have ne (d : Char) (low : d.toNat < 0x80) : Char.ofNat n ≠ d := by
      rintro rfl
      omega
    simp [isSigil, ne '$' (by decide), ne '[' (by decide)]
  · -- A number that no character has stands for the first character.
    rw [Char.ofNat, dif_neg valid]
    rfl

theorem isSigil_ofUnit {n : ℕ} (h : 0x80 ≤ n) : isSigil (Text.ofUnit n) = false := by
  unfold Text.ofUnit
  split_ifs
  · exact isSigil_ofNat (by omega)
  · exact isSigil_ofNat h

theorem isSigil_ofPair (high low : ℕ) : isSigil (Text.ofPair high low) = false := by
  unfold Text.ofPair
  exact isSigil_ofNat (by omega)

theorem sigils_joinPieces_le (ps : List Piece) : sigils (joinPieces ps) ≤ ps.countP pieceSigil := by
  fun_induction joinPieces ps with
  | case1 high low rest _ ih =>
    rw [sigils, List.countP_cons_of_neg (by simp [isSigil_ofPair])]
    rw [List.countP_cons, List.countP_cons]
    exact ih.trans (by omega)
  | case2 high low rest _ ih =>
    rw [sigils, List.countP_cons, List.countP_cons]
    exact Nat.add_le_add_right ih _
  | case3 n rest _ ih =>
    rw [sigils, List.countP_cons, List.countP_cons]
    exact Nat.add_le_add_right ih _
  | case4 c rest ih =>
    rw [sigils, List.countP_cons, List.countP_cons]
    exact Nat.add_le_add_right ih _
  | case5 => exact le_rfl

theorem stringChar_of_isSigil {c : Char} (h : isSigil c = true) :
    stringChar true c = [c] ∧ charPieces c = [.shown c] := by
  have : c = '$' ∨ c = '[' := by simpa [isSigil] using h
  rcases this with rfl | rfl <;> decide

theorem pieceSigil_of_mem_charPieces {c : Char} (h : isSigil c = false) {p : Piece}
    (hp : p ∈ charPieces c) : pieceSigil p = false := by
  unfold charPieces escapePieces at hp
  dsimp only at hp
  split_ifs at hp with written small
  · obtain rfl := List.mem_singleton.1 hp
    rwa [pieceSigil, Text.ofUnit_codePoint]
  · rcases List.mem_pair.1 hp with rfl | rfl
    · exact isSigil_ofUnit (by omega)
    · exact isSigil_ofUnit (by omega)
  · obtain rfl := List.mem_singleton.1 hp
    exact h

theorem isSigil_of_isAlphanum {c : Char} (h : c.isAlphanum = true) : isSigil c = false := by
  have ne (d : Char) (other : d.isAlphanum = false) : c ≠ d := (Text.ne_of_class other h).symm
  simp [isSigil, ne '$' (by decide), ne '[' (by decide)]

theorem isSigil_of_shortEscape {e c : Char} (h : shortEscape? e = some c) :
    isSigil e = false ∧ isSigil c = false := by
  unfold shortEscape? at h
  split at h <;> cases h <;> decide

theorem isSigil_of_mem_stringChar {c d : Char} (h : isSigil c = false)
    (hd : d ∈ stringChar true c) : isSigil d = false := by
  rcases stringChar_cases c with ⟨e, short, written⟩ | written | ⟨-, -, written⟩
  · rw [written] at hd
    rcases List.mem_pair.1 hd with rfl | rfl
    · decide
    · exact (isSigil_of_shortEscape short).1
  · rw [written] at hd
    rcases mem_charEscape hd with rfl | hd
    · decide
    · exact isSigil_of_isAlphanum hd
  · rw [written] at hd
    exact List.mem_singleton.1 hd ▸ h

/-- A written character is read with as many beginnings of references as were written. -/
theorem countP_charPieces_le (c : Char) :
    (charPieces c).countP pieceSigil ≤ sigils (stringChar true c) := by
  cases h : isSigil c with
  | true =>
    obtain ⟨written, read⟩ := stringChar_of_isSigil h
    rw [written, read]
    exact le_rfl
  | false =>
    rw [List.countP_eq_zero.2 fun p hp => by simp [pieceSigil_of_mem_charPieces h hp]]
    exact Nat.zero_le _

theorem sigils_stringChar_le (c : Char) : sigils (stringChar true c) ≤ sigils [c] := by
  cases h : isSigil c with
  | true => rw [(stringChar_of_isSigil h).1]
  | false =>
    rw [sigils, List.countP_eq_zero.2 fun d hd => by simp [isSigil_of_mem_stringChar h hd]]
    exact Nat.zero_le _

theorem sigils_escaped_le (cs : List Char) : sigils (escaped cs) ≤ sigils cs := by
  induction cs with
  | nil => exact le_rfl
  | cons c cs ih =>
    rw [escaped_cons, sigils_append, sigils_cons c cs]
    exact Nat.add_le_add (sigils_stringChar_le c) ih

/-- A string that keeps a tame text reads no beginning of a reference from it. -/
theorem spelled_of_tame {cs : List Char} (tame : Tame cs) (kept : fate cs = .kept) :
    ∃ ps, Spelled cs ps ∧ ps.countP pieceSigil = 0 := by
  induction tame with
  | nil => exact ⟨[], .nil, rfl⟩
  | @plain c rest mild whole _ ih =>
    have quote : c ≠ '"' := by
      rintro rfl
      cases kept
    have step : fate (c :: rest) = if c.toNat < 0x20 then .broken else fate rest := by
      rw [fate.eq_def]
      split <;> simp_all
    rw [step] at kept
    split_ifs at kept with control
    obtain ⟨ps, spelled, none⟩ := ih kept
    have here : isPlain c = true := by simpa [isPlain, quote, whole] using control
    refine ⟨.shown c :: ps, (spelled_plain here).append spelled, ?_⟩
    have other : pieceSigil (.shown c) = false := by
      simp only [isMild, Bool.and_eq_true, Bool.not_eq_true'] at mild
      exact mild.1
    rw [List.countP_cons_of_neg (by simp [other]), none]
  | @escaped c rest mild letter _ ih =>
    rw [fate.eq_5 _ _ (fun _ _ _ _ _ unit _ => letter unit) letter] at kept
    split_ifs at kept with short
    obtain ⟨d, hd⟩ := Option.isSome_iff_exists.1 short
    obtain ⟨ps, spelled, none⟩ := ih kept
    refine ⟨.shown d :: ps, (spelled_short hd).append spelled, ?_⟩
    have other : pieceSigil (.shown d) = false := (isSigil_of_shortEscape hd).2
    rw [List.countP_cons_of_neg (by simp [other]), none]

theorem Reads.unique {cs : List Char} {s t : String} (h : Reads cs s) (h' : Reads cs t) :
    s = t := by
  obtain ⟨inside, rfl, read⟩ := h
  obtain ⟨inside', same, read'⟩ := h'
  obtain rfl := List.tail_eq_of_cons_eq same
  have both := (read [] []).symm.trans (read' [] [])
  exact (Prod.mk.inj (Except.ok.inj both)).1

theorem spelled_flatten (units : List (List Char))
    (each : ∀ unit ∈ units, ∃ ps, Spelled unit ps ∧ ps.countP pieceSigil ≤ sigils unit) :
    ∃ ps, Spelled units.flatten ps ∧ ps.countP pieceSigil ≤ sigils units.flatten := by
  induction units with
  | nil => exact ⟨[], .nil, le_rfl⟩
  | cons unit units ih =>
    obtain ⟨ps, first, here⟩ := each unit (by simp)
    obtain ⟨qs, others, later⟩ := ih fun u hu => each u (by simp [hu])
    refine ⟨ps ++ qs, first.append others, ?_⟩
    rw [List.countP_append, List.flatten_cons, sigils_append]
    exact Nat.add_le_add here later

/-- If a string that plain values were put into reads as the text that was written, nothing was put
into it. -/
theorem putInto_of_reads {vars : Variables} (plain : vars.ArePlain) {s : String}
    (kept : ∀ put ∈ putInto vars s, fate put = .kept) (reads : Reads (sentString vars s) s) :
    putInto vars s = [] := by
  obtain ⟨ps, e⟩ := exists_pieces_escaped vars.knows s.toList
  obtain ⟨written, same⟩ := assemble_escapedPieces vars ps
  have marked {r : Reference} (hr : r ∈ marks ps) :
      vars.expand none r ∈ putInto vars s := by
    rw [putInto, e, same]
    exact List.mem_map_of_mem hr
  have tame {r : Reference} (hr : r ∈ marks ps) : Tame (vars.expand none r) :=
    tame_inserted plain (marked hr)
  -- The text that is read has at most as many sigils as the string, and that has one less than the
  -- written text for each reference.
  obtain ⟨qs, spelled, read⟩ := spelled_flatten (ps.map (sentPiece vars)) <| by
    rw [List.forall_mem_map]
    intro piece hp
    cases piece with
    | plain c => exact ⟨_, spelled_stringChar c, countP_charPieces_le c⟩
    | mark r =>
      have hr := mem_marks.2 hp
      obtain ⟨qs, spelled, none⟩ := spelled_of_tame (tame hr) (kept _ (marked hr))
      exact ⟨qs, spelled, by rw [none]; exact Nat.zero_le _⟩
  have text : s = .ofList (joinPieces qs) := by
    refine reads.unique ?_
    rw [sentString, e, written]
    exact spelled.reads
  have begins : ∀ r ∈ marks ps, 1 ≤ sigils r.source := by
    intro r hr
    have mem : r ∈ marks (pieces vars.knows (escaped s.toList)) := by rwa [e, same]
    obtain ⟨-, _, found⟩ := reference_of_mem_marks mem
    exact (begins_of_reference? found).sigils_pos
  have lost := sigils_assemble_le (vars.expand none) (ps.flatMap escapedPiece)
    (by rw [same]; exact fun r hr => (tame hr).sigils_eq_zero) (by rwa [same])
  rw [same, written, ← e, assemble_source] at lost
  have shown : sigils s.toList ≤ qs.countP pieceSigil := by
    conv_lhs => rw [text, String.toList_ofList]
    exact sigils_joinPieces_le qs
  have whole := sigils_escaped_le s.toList
  have none : (marks ps).length = 0 := by omega
  rw [putInto, e, same, List.length_eq_zero_iff.1 none, List.map_nil]

end Json

end ElasticPanels

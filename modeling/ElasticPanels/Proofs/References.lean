import ElasticPanels.Template.Variables
import Mathlib.Data.List.TakeWhile

/-!
# References and what stands around them

A reference holds word characters and the six characters of its syntax.  Every other character is a
barrier.  What stands before a barrier, or before anything else that no reference goes on with
(`IsCut`), is read as if the text ended there (`reference?_append_of_cut`), so a text is read part
by part between its barriers (`pieces_append`).  `pieces` reads a text as `references` does, but
takes the references that are not known for plain text; by `pieces_eq` that comes to the same.
-/

namespace ElasticPanels.Template

open Text (Piece isWord)

/-! ## One reference -/

/-- Whether a character stands in no reference. -/
def isBarrier (c : Char) : Bool := !isWord c && !"$[]\x7b\x7d:".toList.contains c

theorem isBarrier_iff {c : Char} : isBarrier c = true ↔
    isWord c = false ∧ c ≠ '$' ∧ c ≠ '[' ∧ c ≠ ']' ∧ c ≠ '\x7b' ∧ c ≠ '\x7d' ∧ c ≠ ':' := by
  simp [isBarrier]

theorem wordRun_append_barrier {x : Char} (h : isWord x = false) (a b : List Char) :
    wordRun (a ++ x :: b) = ((wordRun a).1, (wordRun a).2 ++ x :: b) := by
  induction a with
  | nil => simp [wordRun, h]
  | cons c a ih =>
    have parts := Prod.ext_iff.1 ih
    by_cases hc : isWord c = true
    · simpa [wordRun, hc] using parts
    · simp [wordRun, hc]

theorem isPrefixOf_append_barrier {closing : List Char} {x : Char} (h : x ∉ closing)
    (a b : List Char) : closing.isPrefixOf (a ++ x :: b) = closing.isPrefixOf a := by
  induction closing generalizing a with
  | nil => simp
  | cons c closing ih =>
    simp only [List.mem_cons, not_or] at h
    cases a with
    | nil => simp [List.isPrefixOf, Ne.symm h.1]
    | cons d a => simp [List.isPrefixOf, ih h.2]

theorem enclosed?_append_barrier {closing : List Char} {x : Char} (word : isWord x = false)
    (colon : x ≠ ':') (h : x ∉ closing) (opening a b : List Char) :
    enclosed? opening closing (a ++ x :: b) = enclosed? opening closing a := by
  unfold enclosed?
  rw [wordRun_append_barrier word]
  obtain ⟨name, after⟩ := wordRun a
  simp only [isPrefixOf_append_barrier h]
  split_ifs
  · rfl
  · rfl
  · match after with
    | [] => simp [colon]
    | c :: after =>
      by_cases hc : c = ':'
      · subst hc
        simp only [List.cons_append, wordRun_append_barrier word, isPrefixOf_append_barrier h]
      · simp [hc]

theorem reference?_of_ne {c : Char} (dollar : c ≠ '$') (bracket : c ≠ '[') (cs : List Char) :
    reference? (c :: cs) = none := by simp [reference?, dollar, bracket]

theorem reference?_bracket {cs : List Char} (h : cs.head? ≠ some '[') :
    reference? ('[' :: cs) = none := by
  unfold reference?
  split <;> simp_all

/-- The reference of a bare dollar sign. -/
def bare? (cs : List Char) : Option Reference :=
  let name := (wordRun cs).1
  if name.isEmpty then none else some ⟨.ofList name, none, '$' :: name⟩

theorem reference?_dollar {cs : List Char} (h : cs.head? ≠ some '{') :
    reference? ('$' :: cs) = bare? cs := by
  unfold reference?
  split <;> simp_all [bare?]

theorem reference?_dollar_brace (cs : List Char) :
    reference? ('$' :: '{' :: cs) = enclosed? ['$', '{'] ['}'] cs := by
  rw [reference?]

theorem reference?_brackets (cs : List Char) :
    reference? ('[' :: '[' :: cs) = enclosed? ['[', '['] [']', ']'] cs := by
  rw [reference?]

/-- A text may be cut before `x :: b`: `x` can stand in a reference only as its first character, and
a bracket is not followed by what would be a name between brackets. -/
structure IsCut (x : Char) (b : List Char) : Prop where
  word : isWord x = false
  mark : x ∉ [':', ']', '\x7b', '\x7d']
  bracket : x = '[' → ∀ c ∈ b.head?, isWord c = false

theorem isCut_dollar (b : List Char) : IsCut '$' b := ⟨by decide, by decide, nofun⟩

theorem isCut_brackets (b : List Char) : IsCut '[' ('[' :: b) := by
  refine ⟨by decide, by decide, fun _ c hc => ?_⟩
  obtain rfl : '[' = c := by simpa using hc
  decide

theorem isCut_of_isBarrier {x : Char} (h : isBarrier x = true) (b : List Char) : IsCut x b := by
  obtain ⟨word, -, bracket, bracket', brace, brace', colon⟩ := isBarrier_iff.1 h
  exact ⟨word, by simp [colon, bracket', brace, brace'], fun e => absurd e bracket⟩

/-- A reference does not see what stands behind a cut. -/
theorem reference?_append_of_cut {x : Char} {b : List Char} (cut : IsCut x b) {a : List Char}
    (ne : a ≠ []) : reference? (a ++ x :: b) = reference? a := by
  obtain ⟨word, mark, bracket⟩ := cut
  simp only [List.mem_cons, List.not_mem_nil, or_false, not_or] at mark
  obtain ⟨colon, bracket', brace, brace'⟩ := mark
  obtain ⟨c, a, rfl⟩ := List.exists_cons_of_ne_nil ne
  rw [List.cons_append]
  by_cases hc : c = '$'
  · subst hc
    by_cases hd : a.head? = some '{'
    · obtain ⟨a, rfl⟩ := List.head?_eq_some_iff.1 hd
      rw [List.cons_append, reference?_dollar_brace, reference?_dollar_brace]
      exact enclosed?_append_barrier word colon (by simpa using brace') _ _ _
    · have hd' : (a ++ x :: b).head? ≠ some '{' := by
        cases a with
        | nil => simpa using brace
        | cons d a => exact hd
      rw [reference?_dollar hd, reference?_dollar hd', bare?, bare?, wordRun_append_barrier word]
  · by_cases hb : c = '['
    · subst hb
      by_cases hd : a.head? = some '['
      · obtain ⟨a, rfl⟩ := List.head?_eq_some_iff.1 hd
        rw [List.cons_append, reference?_brackets, reference?_brackets]
        exact enclosed?_append_barrier word colon (by simpa using bracket') _ _ _
      · rw [reference?_bracket hd]
        by_cases hx : (a ++ x :: b).head? = some '['
        · -- the bracket before the cut and the one behind it open no name
          cases a with
          | cons d a => exact absurd hx hd
          | nil =>
            obtain rfl : x = '[' := by simpa using hx
            have none : (wordRun b).1 = [] := by
              cases b with
              | nil => rfl
              | cons d b => simp [wordRun, bracket rfl d (by simp)]
            rw [List.nil_append, reference?_brackets, enclosed?]
            simp [none]
        · exact reference?_bracket hx
    · rw [reference?_of_ne hc hb, reference?_of_ne hc hb]

/-- A reference does not see what stands after a barrier. -/
theorem reference?_append {x : Char} (h : isBarrier x = true) {a : List Char} (ne : a ≠ [])
    (b : List Char) : reference? (a ++ x :: b) = reference? a :=
  reference?_append_of_cut (isCut_of_isBarrier h b) ne

/-! ### What a reference is made of -/

theorem isBarrier_eq_false_of_isWord {c : Char} (h : isWord c = true) : isBarrier c = false := by
  simp [isBarrier, h]

theorem isWord_of_mem_wordRun {c : Char} {cs : List Char} (h : c ∈ (wordRun cs).1) :
    isWord c = true := List.mem_takeWhile_imp h

theorem wordRun_eq_append (cs : List Char) : cs = (wordRun cs).1 ++ (wordRun cs).2 :=
  List.takeWhile_append_dropWhile.symm

/-- A reference between `opening` and `closing` is what was read: a name that is not empty, and
perhaps a colon and a format. -/
theorem enclosed?_eq_some {opening closing cs : List Char} {r : Reference}
    (h : enclosed? opening closing cs = some r) :
    ∃ inside after, r.source = opening ++ inside ++ closing ∧ cs = inside ++ closing ++ after ∧
      (∃ c tail, inside = c :: tail ∧ isWord c = true) ∧ r.name = .ofList (wordRun cs).1 ∧
      (∀ c ∈ inside, isWord c = true ∨ c = ':') := by
  unfold enclosed? at h
  have whole := wordRun_eq_append cs
  have word : ∀ c ∈ (wordRun cs).1, isWord c = true := fun c => isWord_of_mem_wordRun
  generalize wordRun cs = run at h whole word ⊢
  obtain ⟨name, after⟩ := run
  dsimp only at h whole word ⊢
  split_ifs at h with empty closes
  · obtain ⟨rest, rfl⟩ := List.isPrefixOf_iff_prefix.1 closes
    obtain rfl := Option.some.inj h
    obtain ⟨c, tail, rfl⟩ := List.exists_cons_of_ne_nil (by simpa using empty : name ≠ [])
    exact ⟨c :: tail, rest, rfl, by simpa using whole, ⟨c, tail, rfl, word c (by simp)⟩, rfl,
      fun c h => .inl (word c h)⟩
  · obtain ⟨c, tail, rfl⟩ := List.exists_cons_of_ne_nil (by simpa using empty : name ≠ [])
    split at h
    · rename_i rest
      have format := wordRun_eq_append rest
      have word' : ∀ c ∈ (wordRun rest).1, isWord c = true := fun c => isWord_of_mem_wordRun
      generalize wordRun rest = run at h format word'
      obtain ⟨fmt, after⟩ := run
      dsimp only at h format word'
      split_ifs at h with closes
      obtain rfl := Option.some.inj h
      obtain ⟨-, closes⟩ : _ ∧ closing.isPrefixOf after = true := by simpa using closes
      obtain ⟨rest, rfl⟩ := List.isPrefixOf_iff_prefix.1 closes
      refine ⟨c :: tail ++ ':' :: fmt, rest, by simp, by simp [whole, format],
        ⟨c, tail ++ ':' :: fmt, rfl, word c (by simp)⟩, rfl, fun d hd => ?_⟩
      rcases List.mem_append.1 hd with hd | hd
      · exact .inl (word d hd)
      · rcases List.mem_cons.1 hd with rfl | hd
        · exact .inr rfl
        · exact .inl (word' d hd)
    · cases h

/-- No reference begins at a character of this text. -/
def Inert (cs : List Char) : Prop := ∀ c ∈ cs, c ≠ '$' ∧ c ≠ '['

/-- What a reference that stands at the beginning of a text is made of. -/
structure Begins (r : Reference) (cs : List Char) : Prop where
  isPrefix : ∃ after, cs = r.source ++ after
  chars : ∀ c ∈ r.source, isBarrier c = false
  shape : (∃ tail, r.source = '$' :: tail ∧ Inert tail) ∨
    ∃ c tail, r.source = '[' :: '[' :: c :: tail ∧ Inert (c :: tail)

theorem inert_of_isWord {cs : List Char}
    (h : ∀ c ∈ cs, isWord c = true ∨ c = ':' ∨ c = ']' ∨ c = '\x7b' ∨ c = '\x7d') : Inert cs := by
  intro c hc
  rcases h c hc with word | rfl | rfl | rfl | rfl
  · exact ⟨(Text.ne_of_class (by decide) word).symm, (Text.ne_of_class (by decide) word).symm⟩
  all_goals decide

theorem begins_enclosed {opening closing cs : List Char} {r : Reference}
    (h : enclosed? opening closing cs = some r)
    (marks : (opening = ['$', '\x7b'] ∧ closing = ['\x7d']) ∨
      (opening = ['[', '['] ∧ closing = [']', ']'])) : Begins r (opening ++ cs) := by
  obtain ⟨inside, after, source, rfl, ⟨c, tail, rfl, word⟩, -, chars⟩ := enclosed?_eq_some h
  have inert : Inert (c :: tail ++ closing) := by
    apply inert_of_isWord
    intro d hd
    rcases List.mem_append.1 hd with hd | hd
    · exact (chars d hd).imp_right .inl
    · rcases marks with ⟨-, rfl⟩ | ⟨-, rfl⟩ <;> simp_all
  refine ⟨⟨after, by rw [source]; simp⟩, fun d hd => ?_, ?_⟩
  · rw [source, List.append_assoc] at hd
    have sides : ∀ d ∈ opening ++ closing, isBarrier d = false := by
      rcases marks with ⟨rfl, rfl⟩ | ⟨rfl, rfl⟩ <;> decide
    rcases List.mem_append.1 hd with hd | hd
    · exact sides d (by simp [hd])
    · rcases List.mem_append.1 hd with hd | hd
      · rcases chars d hd with hd | rfl
        · exact isBarrier_eq_false_of_isWord hd
        · decide
      · exact sides d (by simp [hd])
  · rcases marks with ⟨rfl, rfl⟩ | ⟨rfl, rfl⟩
    · refine .inl ⟨_, by rw [source]; rfl, fun d hd => ?_⟩
      rcases List.mem_cons.1 hd with rfl | hd
      · decide
      · exact inert d hd
    · exact .inr ⟨c, _, by rw [source]; rfl, inert⟩

theorem begins_bare {cs : List Char} {r : Reference} (h : bare? cs = some r) :
    Begins r ('$' :: cs) := by
  unfold bare? at h
  dsimp only at h
  split_ifs at h
  obtain rfl := Option.some.inj h
  refine ⟨⟨(wordRun cs).2, ?_⟩, fun c hc => ?_, .inl ⟨_, rfl, ?_⟩⟩
  · exact congrArg ('$' :: ·) (wordRun_eq_append cs)
  · rcases List.mem_cons.1 hc with rfl | hc
    · decide
    · exact isBarrier_eq_false_of_isWord (isWord_of_mem_wordRun hc)
  · exact inert_of_isWord fun c hc => .inl (isWord_of_mem_wordRun hc)

/-- A reference is one of three shapes. -/
theorem shape_of_reference? {cs : List Char} {r : Reference} (h : reference? cs = some r) :
    (∃ rest, cs = '$' :: '\x7b' :: rest ∧ enclosed? ['$', '\x7b'] ['\x7d'] rest = some r) ∨
      (∃ rest, cs = '[' :: '[' :: rest ∧ enclosed? ['[', '['] [']', ']'] rest = some r) ∨
      ∃ rest, cs = '$' :: rest ∧ bare? rest = some r := by
  match cs with
  | [] => cases h
  | c :: cs =>
    by_cases hc : c = '$'
    · subst hc
      by_cases hd : cs.head? = some '{'
      · obtain ⟨cs, rfl⟩ := List.head?_eq_some_iff.1 hd
        rw [reference?_dollar_brace] at h
        exact .inl ⟨cs, rfl, h⟩
      · rw [reference?_dollar hd] at h
        exact .inr (.inr ⟨cs, rfl, h⟩)
    · by_cases hb : c = '['
      · subst hb
        by_cases hd : cs.head? = some '['
        · obtain ⟨cs, rfl⟩ := List.head?_eq_some_iff.1 hd
          rw [reference?_brackets] at h
          exact .inr (.inl ⟨cs, rfl, h⟩)
        · rw [reference?_bracket hd] at h
          cases h
      · rw [reference?_of_ne hc hb] at h
        cases h

theorem begins_of_reference? {cs : List Char} {r : Reference} (h : reference? cs = some r) :
    Begins r cs := by
  rcases shape_of_reference? h with ⟨rest, rfl, found⟩ | ⟨rest, rfl, found⟩ | ⟨rest, rfl, found⟩
  · exact begins_enclosed found (.inl ⟨rfl, rfl⟩)
  · exact begins_enclosed found (.inr ⟨rfl, rfl⟩)
  · exact begins_bare found

theorem isWord_name_of_reference? {cs : List Char} {r : Reference} (h : reference? cs = some r) :
    ∀ c ∈ r.name.toList, isWord c = true := by
  have run (cs : List Char) : ∀ c ∈ (String.ofList (wordRun cs).1).toList, isWord c = true := by
    rw [String.toList_ofList]
    exact fun c => isWord_of_mem_wordRun
  rcases shape_of_reference? h with ⟨rest, -, found⟩ | ⟨rest, -, found⟩ | ⟨rest, -, found⟩
  · obtain ⟨-, -, -, -, -, name, -⟩ := enclosed?_eq_some found
    exact name ▸ run rest
  · obtain ⟨-, -, -, -, -, name, -⟩ := enclosed?_eq_some found
    exact name ▸ run rest
  · rw [bare?] at found
    split_ifs at found
    obtain rfl := Option.some.inj found
    exact run rest

theorem Begins.source_ne_nil {r : Reference} {cs : List Char} (h : Begins r cs) :
    r.source ≠ [] := by
  rcases h.shape with ⟨tail, e, -⟩ | ⟨c, tail, e, -⟩ <;> simp [e]

/-! ## The pieces of a text -/

section Pieces

variable (known : Reference → Bool)

/-- The reference that a text begins with, if it is known. -/
def known? (cs : List Char) : Option Reference := (reference? cs).filter known

/-- The known references of a text and the characters between them. -/
def pieces (cs : List Char) : List (Piece Reference) :=
  Text.scan (known? known) (·.source.length) cs

variable {known}

@[simp] theorem pieces_nil : pieces known [] = [] := rfl

theorem pieces_cons {c : Char} {rest : List Char}
    (h : known? known (c :: rest) = none) :
    pieces known (c :: rest) = .plain c :: pieces known rest :=
  Text.scan_cons_of_none _ h

theorem pieces_cons_of_ne {c : Char} (dollar : c ≠ '$') (bracket : c ≠ '[') (rest : List Char) :
    pieces known (c :: rest) = .plain c :: pieces known rest :=
  pieces_cons (by rw [known?, reference?_of_ne dollar bracket]; rfl)

theorem pieces_inert {cs : List Char} (h : Inert cs) (rest : List Char) :
    pieces known (cs ++ rest) = cs.map .plain ++ pieces known rest := by
  induction cs with
  | nil => rfl
  | cons c cs ih =>
    have here := h c (by simp)
    rw [List.cons_append, pieces_cons_of_ne here.1 here.2, ih fun d hd => h d (by simp [hd])]
    rfl

theorem pieces_reference {r : Reference} {after : List Char}
    (h : reference? (r.source ++ after) = some r) (hr : known r = true) :
    pieces known (r.source ++ after) = .mark r :: pieces known after := by
  have ne := (begins_of_reference? h).source_ne_nil
  obtain ⟨c, tail, e⟩ := List.exists_cons_of_ne_nil ne
  have found : known? known (c :: (tail ++ after)) = some r := by
    rw [known?, ← List.cons_append, ← e, h]
    simp [hr]
  have step : pieces known (c :: (tail ++ after)) =
      .mark r :: pieces known ((c :: (tail ++ after)).drop r.source.length) :=
    Text.scan_cons_of_some found (List.length_pos_iff.2 ne)
  rwa [← List.cons_append, ← e, List.drop_left] at step

/-- The text of a reference that is not known is plain. -/
theorem pieces_unknown {r : Reference} {after : List Char}
    (h : reference? (r.source ++ after) = some r) (hr : known r = false) :
    pieces known (r.source ++ after) = r.source.map .plain ++ pieces known after := by
  have first {c : Char} {tail : List Char} (e : r.source = c :: tail) :
      pieces known (r.source ++ after) = .plain c :: pieces known (tail ++ after) := by
    rw [e, List.cons_append]
    apply pieces_cons
    rw [known?, ← List.cons_append, ← e, h]
    simp [hr]
  rcases (begins_of_reference? h).shape with ⟨tail, e, inert⟩ | ⟨c, tail, e, inert⟩
  · rw [first e, pieces_inert inert, e]
    rfl
  · have second : reference? ('[' :: (c :: tail ++ after)) = none :=
      reference?_bracket (by simpa using (inert c (by simp)).2)
    rw [first e, List.cons_append, pieces_cons (by rw [known?, second]; rfl), pieces_inert inert, e]
    rfl

/-- Induction along the pieces of a text: a text is empty, begins with a plain character, or begins
with a known reference. -/
theorem inductionOnPieces (known : Reference → Bool) {P : List Char → Prop} (nil : P [])
    (plain : ∀ c rest, known? known (c :: rest) = none → P rest → P (c :: rest))
    (mark : ∀ r after, reference? (r.source ++ after) = some r → known r = true → P after →
      P (r.source ++ after)) (cs : List Char) : P cs := by
  induction hn : cs.length using Nat.strong_induction_on generalizing cs with
  | _ n ih =>
    subst hn
    match cs with
    | [] => exact nil
    | c :: rest =>
      cases h : known? known (c :: rest) with
      | none => exact plain c rest h (ih rest.length (by simp) rest rfl)
      | some r =>
        obtain ⟨found, hr⟩ := Option.filter_eq_some_iff.1 h
        have begins := begins_of_reference? found
        obtain ⟨after, e⟩ := begins.isPrefix
        have shorter : after.length < (c :: rest).length := by
          have := List.length_pos_iff.2 begins.source_ne_nil
          rw [e, List.length_append]
          omega
        have later := ih after.length shorter after rfl
        rw [e] at found ⊢
        exact mark r after found hr later

/-- A text is read part by part between its cuts. -/
theorem pieces_append_of_cut {x : Char} {b : List Char} (cut : IsCut x b) (a : List Char) :
    pieces known (a ++ x :: b) = pieces known a ++ pieces known (x :: b) := by
  induction a using inductionOnPieces known with
  | nil => rfl
  | plain c rest none ih =>
    have none' : known? known (c :: (rest ++ x :: b)) = Option.none := by
      rw [known?, ← List.cons_append, reference?_append_of_cut cut (by simp)]
      exact none
    rw [List.cons_append, pieces_cons none', ih, pieces_cons none]
    rfl
  | mark r after found hr ih =>
    have ne : r.source ++ after ≠ [] := by simp [(begins_of_reference? found).source_ne_nil]
    have found' := reference?_append_of_cut cut ne
    rw [found, List.append_assoc] at found'
    rw [List.append_assoc, pieces_reference found' hr, ih, pieces_reference found hr]
    rfl

/-- Between its barriers a text is read part by part. -/
theorem pieces_append {x : Char} (h : isBarrier x = true) (a b : List Char) :
    pieces known (a ++ x :: b) = pieces known a ++ .plain x :: pieces known b := by
  have barrier := isBarrier_iff.1 h
  rw [pieces_append_of_cut (isCut_of_isBarrier h b),
    pieces_cons_of_ne barrier.2.1 barrier.2.2.1 b]

theorem references_eq_pieces (cs : List Char) : references cs = pieces (fun _ => true) cs := by
  have all : known? (fun _ => true) = reference? := by
    funext cs
    rw [known?]
    cases reference? cs <;> rfl
  rw [pieces, all, references]

/-- Between its cuts a text is read part by part. -/
theorem references_append_of_cut {x : Char} {b : List Char} (cut : IsCut x b) (a : List Char) :
    references (a ++ x :: b) = references a ++ references (x :: b) := by
  simp only [references_eq_pieces]
  exact pieces_append_of_cut cut a

/-- The pieces are those of `references`, where references that are not known are plain text. -/
theorem pieces_eq (known : Reference → Bool) (cs : List Char) :
    pieces known cs = (references cs).flatMap fun
      | .plain c => [.plain c]
      | .mark r => if known r then [.mark r] else r.source.map .plain := by
  rw [references_eq_pieces]
  induction cs using inductionOnPieces (fun _ => true) with
  | nil => rfl
  | plain c rest none ih =>
    have none' : reference? (c :: rest) = Option.none := by
      cases h : reference? (c :: rest) with
      | none => rfl
      | some r => simp [known?, h] at none
    rw [pieces_cons none, pieces_cons (by rw [known?, none']; rfl), List.flatMap_cons, ih]
    rfl
  | mark r after found _ ih =>
    have first : pieces (fun _ => true) (r.source ++ after) =
        .mark r :: pieces (fun _ => true) after := pieces_reference found rfl
    rw [first, List.flatMap_cons, ← ih]
    cases hr : known r with
    | true => simpa [hr] using pieces_reference found hr
    | false => simpa [hr] using pieces_unknown found hr

/-! ### Marks -/

/-- The references among the pieces of a text. -/
def marks (ps : List (Piece Reference)) : List Reference :=
  ps.filterMap fun
    | .plain _ => none
    | .mark r => some r

theorem mem_marks {ps : List (Piece Reference)} {r : Reference} :
    r ∈ marks ps ↔ .mark r ∈ ps := by
  rw [marks, List.mem_filterMap]
  constructor
  · rintro ⟨_ | s, mem, h⟩
    · cases h
    · obtain rfl := Option.some.inj h
      exact mem
  · intro mem
    exact ⟨_, mem, rfl⟩

theorem marks_append (a b : List (Piece Reference)) : marks (a ++ b) = marks a ++ marks b :=
  List.filterMap_append

theorem marks_map_plain (cs : List Char) : marks (cs.map .plain) = [] := by
  rw [marks, List.filterMap_map]
  exact List.filterMap_eq_nil_iff.2 fun _ _ => rfl

/-- Of the references of a text, the pieces hold those that are known. -/
theorem marks_pieces (cs : List Char) :
    marks (pieces known cs) = (marks (references cs)).filter known := by
  rw [pieces_eq]
  induction references cs with
  | nil => rfl
  | cons piece rest ih =>
    rw [List.flatMap_cons, marks_append, ih]
    cases piece with
    | plain c => rfl
    | mark r =>
      have first : marks (.mark r :: rest) = r :: marks rest := rfl
      dsimp only
      rw [first, List.filter_cons]
      split_ifs
      · rfl
      · rw [marks_map_plain, List.nil_append]

theorem mem_of_plain_mem_pieces {cs : List Char} {c : Char} (h : .plain c ∈ pieces known cs) :
    c ∈ cs := by
  induction cs using inductionOnPieces known with
  | nil => simp at h
  | plain d rest none ih =>
    rw [pieces_cons none] at h
    rcases List.mem_cons.1 h with same | h
    · obtain rfl := Piece.plain.inj same
      simp
    · exact List.mem_cons_of_mem _ (ih h)
  | mark r after found hr ih =>
    rw [pieces_reference found hr] at h
    exact List.mem_append_right _ (ih (by simpa using h))

end Pieces

/-! ## The text of pieces -/

section Assemble

variable {α : Type} (write : α → List Char)

theorem assemble_nil : Text.assemble write [] = [] := rfl

theorem assemble_plain (c : Char) (pieces : List (Piece α)) :
    Text.assemble write (.plain c :: pieces) = c :: Text.assemble write pieces := rfl

theorem assemble_mark (a : α) (pieces : List (Piece α)) :
    Text.assemble write (.mark a :: pieces) = write a ++ Text.assemble write pieces := rfl

theorem assemble_append (a b : List (Piece α)) :
    Text.assemble write (a ++ b) = Text.assemble write a ++ Text.assemble write b :=
  List.flatMap_append

theorem assemble_map_plain (cs : List Char) : Text.assemble write (cs.map .plain) = cs := by
  rw [Text.assemble, List.flatMap_map]
  exact List.flatMap_singleton' cs

end Assemble

end ElasticPanels.Template

import ElasticPanels.Proofs.References

/-!
# What replacing means

`Refers r rest` says how a text that begins with the reference `r` and goes on with `rest` is
written, and `Reading` reads a text from the left: references to known variables are replaced,
others are copied, and so is every character that no reference begins with.  Replacing the
references of a text is this reading (`replace_eq_iff`).  A reference is replaced wherever it
stands, and what is around it is replaced as if it stood alone (`replace_around`); the two make up
`replace_exact`.
-/

namespace ElasticPanels.Template

open Text (Piece isWord)

/-! ## How references are written -/

/-- A name or a format: word characters, at least one. -/
def IsName (cs : List Char) : Prop := cs ≠ [] ∧ ∀ c ∈ cs, isWord c = true

/-- The marks that a name may stand between. -/
inductive Fence
  | brackets
  | braces

namespace Fence

/-- The marks before the name. -/
def opening : Fence → List Char
  | brackets => ['[', '[']
  | braces => ['$', '\x7b']

/-- The marks after the name. -/
def closing : Fence → List Char
  | brackets => [']', ']']
  | braces => ['\x7d']

theorem reference?_opening (f : Fence) (cs : List Char) :
    reference? (f.opening ++ cs) = enclosed? f.opening f.closing cs := by
  cases f with
  | brackets => exact reference?_brackets cs
  | braces => exact reference?_dollar_brace cs

/-- No name goes on with the marks that close it. -/
theorem isWord_closing (f : Fence) (rest : List Char) :
    ∀ c ∈ (f.closing ++ rest).head?, isWord c = false := by
  intro c hc
  cases f with
  | brackets =>
    obtain rfl : ']' = c := by simpa [closing] using hc
    decide
  | braces =>
    obtain rfl : '\x7d' = c := by simpa [closing] using hc
    decide

end Fence

/-- A text that begins with the reference `r` and goes on with `rest` refers to a variable: by a
dollar sign and all word characters that follow it, or by a name between marks, perhaps with a
format. -/
inductive Refers : Reference → List Char → Prop
  | bare {name rest : List Char} (h : IsName name)
      (whole : ∀ c ∈ rest.head?, isWord c = false) :
    Refers ⟨.ofList name, none, '$' :: name⟩ rest
  | named (f : Fence) {name : List Char} (h : IsName name) (rest : List Char) :
    Refers ⟨.ofList name, none, f.opening ++ name ++ f.closing⟩ rest
  | formatted (f : Fence) {name format : List Char} (h : IsName name) (h' : IsName format)
      (rest : List Char) :
    Refers ⟨.ofList name, some (.ofList format), f.opening ++ name ++ ':' :: format ++ f.closing⟩
      rest

/-! ### Reading what is written -/

theorem wordRun_append {name rest : List Char} (h : ∀ c ∈ name, isWord c = true)
    (whole : ∀ c ∈ rest.head?, isWord c = false) : wordRun (name ++ rest) = (name, rest) := by
  rw [wordRun, Text.takeWhile_run h whole, Text.dropWhile_run h whole]

theorem isName_wordRun {cs : List Char} (ne : (wordRun cs).1 ≠ []) : IsName (wordRun cs).1 :=
  ⟨ne, fun _ => isWord_of_mem_wordRun⟩

theorem isWord_rest_wordRun (cs : List Char) :
    ∀ c ∈ ((wordRun cs).2).head?, isWord c = false := by
  intro c hc
  have stops := List.head?_dropWhile_not isWord cs
  rwa [show (cs.dropWhile isWord).head? = some c from hc] at stops

theorem enclosed?_named (f : Fence) {name : List Char} (h : IsName name) (rest : List Char) :
    enclosed? f.opening f.closing (name ++ (f.closing ++ rest)) =
      some ⟨.ofList name, none, f.opening ++ name ++ f.closing⟩ := by
  have run := wordRun_append h.2 (f.isWord_closing rest)
  have closes : f.closing.isPrefixOf (f.closing ++ rest) = true :=
    List.isPrefixOf_iff_prefix.2 (List.prefix_append _ _)
  rw [enclosed?, run]
  simp only [List.isEmpty_iff, h.1, closes, if_true, if_false]

theorem enclosed?_formatted (f : Fence) {name format : List Char} (h : IsName name)
    (h' : IsName format) (rest : List Char) :
    enclosed? f.opening f.closing (name ++ ':' :: (format ++ (f.closing ++ rest))) =
      some ⟨.ofList name, some (.ofList format),
        f.opening ++ name ++ ':' :: format ++ f.closing⟩ := by
  have colon : ∀ c ∈ (':' :: (format ++ (f.closing ++ rest))).head?, isWord c = false := by
    intro c hc
    obtain rfl : ':' = c := by simpa using hc
    decide
  have run := wordRun_append h.2 colon
  have run' := wordRun_append h'.2 (f.isWord_closing rest)
  have open_ : f.closing.isPrefixOf (':' :: (format ++ (f.closing ++ rest))) = false := by
    cases f <;> rfl
  have closes : f.closing.isPrefixOf (f.closing ++ rest) = true :=
    List.isPrefixOf_iff_prefix.2 (List.prefix_append _ _)
  have some_ : format.isEmpty = false := by simpa using h'.1
  rw [enclosed?, run]
  simp only [List.isEmpty_iff, h.1, open_, run', closes, some_, Bool.false_eq_true, if_false,
    Bool.not_false, Bool.and_self, if_true]

theorem refers_of_enclosed? (f : Fence) {cs : List Char} {r : Reference}
    (h : enclosed? f.opening f.closing cs = some r) :
    ∃ rest, f.opening ++ cs = r.source ++ rest ∧ Refers r rest := by
  have whole := wordRun_eq_append cs
  have name := @isName_wordRun cs
  rw [enclosed?] at h
  generalize wordRun cs = run at h whole name
  obtain ⟨word, after⟩ := run
  dsimp only at h whole name
  split_ifs at h with empty closes
  · obtain ⟨rest, rfl⟩ := List.isPrefixOf_iff_prefix.1 closes
    obtain rfl := Option.some.inj h
    exact ⟨rest, by simp [whole], .named f (name (by simpa using empty)) rest⟩
  · split at h
    · rename_i tail
      have whole' := wordRun_eq_append tail
      have name' := @isName_wordRun tail
      generalize wordRun tail = run at h whole' name'
      obtain ⟨word', after⟩ := run
      dsimp only at h whole' name'
      split_ifs at h with closes
      obtain rfl := Option.some.inj h
      obtain ⟨some_, closes⟩ : word'.isEmpty = false ∧ f.closing.isPrefixOf after = true := by
        simpa using closes
      obtain ⟨rest, rfl⟩ := List.isPrefixOf_iff_prefix.1 closes
      exact ⟨rest, by simp [whole, whole'],
        .formatted f (name (by simpa using empty)) (name' (by simpa using some_)) rest⟩
    · cases h

/-- The reference that a text begins with is the one that it refers by. -/
theorem reference?_eq_some_iff {cs : List Char} {r : Reference} :
    reference? cs = some r ↔ ∃ rest, cs = r.source ++ rest ∧ Refers r rest := by
  constructor
  · intro h
    rcases shape_of_reference? h with ⟨tail, rfl, found⟩ | ⟨tail, rfl, found⟩ | ⟨tail, rfl, found⟩
    · exact refers_of_enclosed? .braces found
    · exact refers_of_enclosed? .brackets found
    · rw [bare?] at found
      split_ifs at found with empty
      obtain rfl := Option.some.inj found
      exact ⟨(wordRun tail).2, congrArg ('$' :: ·) (wordRun_eq_append tail),
        .bare (isName_wordRun (by simpa using empty)) (isWord_rest_wordRun tail)⟩
  · rintro ⟨rest, rfl, refers⟩
    cases refers with
    | named f h =>
      rw [List.append_assoc, List.append_assoc, f.reference?_opening, enclosed?_named f h]
    | formatted f h h' =>
      rw [List.append_assoc, List.append_assoc, List.append_assoc, f.reference?_opening,
        List.cons_append, enclosed?_formatted f h h']
    | bare h whole =>
      obtain ⟨c, name, rfl⟩ := List.exists_cons_of_ne_nil h.1
      have brace : ((c :: name) ++ rest).head? ≠ some '\x7b' := by
        have : c ≠ '\x7b' := (Text.ne_of_class (by decide) (h.2 c (by simp))).symm
        simpa using this
      rw [List.cons_append, reference?_dollar brace, bare?, wordRun_append h.2 whole]
      rfl

/-! ## Readings -/

/-- The format that is meant: the one that the reference asks for, else that of the text, else the
glob. -/
def meant (own default : Option String) : Format :=
  match own, default with
  | some name, _ => .ofName name
  | none, some name => .ofName name
  | none, none => .glob

/-- The text on the left becomes the one on the right.  It is read from the left, and what was put
in is not read again. -/
inductive Reading (vars : Variables) (default : Option String) : List Char → List Char → Prop
  | nil : Reading vars default [] []
  | known {r : Reference} {rest out : List Char} {value : Value} (refers : Refers r rest)
      (known : vars.get? r.name = some value) (later : Reading vars default rest out) :
    Reading vars default (r.source ++ rest)
      (((meant r.format default).render r.name value).toList ++ out)
  | unknown {r : Reference} {rest out : List Char} (refers : Refers r rest)
      (unknown : vars.get? r.name = none) (later : Reading vars default rest out) :
    Reading vars default (r.source ++ rest) (r.source ++ out)
  | plain {c : Char} {rest out : List Char}
      (none : ∀ r after, Refers r after → c :: rest ≠ r.source ++ after)
      (later : Reading vars default rest out) : Reading vars default (c :: rest) (c :: out)

namespace Variables

variable {vars : Variables} {format : Option String}

theorem expand_of_known {r : Reference} {value : Value} (known : vars.get? r.name = some value) :
    vars.expand format r = ((meant r.format format).render r.name value).toList := by
  rw [expand, known]
  rcases r.format with _ | own <;> rcases format with _ | name <;> rfl

theorem references_of_refers {r : Reference} {rest : List Char} (h : Refers r rest) :
    references (r.source ++ rest) = .mark r :: references rest := by
  rw [references_eq_pieces, references_eq_pieces]
  exact pieces_reference (reference?_eq_some_iff.2 ⟨rest, rfl, h⟩) rfl

theorem references_cons_of_plain {c : Char} {rest : List Char}
    (none : ∀ r after, Refers r after → c :: rest ≠ r.source ++ after) :
    references (c :: rest) = .plain c :: references rest := by
  refine Text.scan_cons_of_none _ (Option.eq_none_iff_forall_not_mem.2 fun r found => ?_)
  obtain ⟨after, e, refers⟩ := reference?_eq_some_iff.1 found
  exact none r after refers e

/-- Replacing the references of a text is reading it. -/
theorem replace_eq_iff {target out : String} :
    vars.replace target format = out ↔ Reading vars format target.toList out.toList := by
  -- Every reading is the replacement, and every text has a reading.
  have replaced {cs ds : List Char} (h : Reading vars format cs ds) :
      Text.assemble (vars.expand format) (references cs) = ds := by
    induction h with
    | nil => rfl
    | known refers known later ih =>
      rw [references_of_refers refers, assemble_mark, expand_of_known known, ih]
    | unknown refers unknown later ih =>
      rw [references_of_refers refers, assemble_mark, expand, unknown, ih]
    | plain none later ih =>
      rw [references_cons_of_plain none, assemble_plain, ih]
  have read (cs : List Char) :
      Reading vars format cs (Text.assemble (vars.expand format) (references cs)) := by
    induction cs using inductionOnPieces fun _ => true with
    | nil => exact .nil
    | plain c rest none ih =>
      have none' : ∀ r after, Refers r after → c :: rest ≠ r.source ++ after := by
        intro r after refers e
        rw [known?, reference?_eq_some_iff.2 ⟨after, e, refers⟩] at none
        cases none
      rw [references_cons_of_plain none', assemble_plain]
      exact .plain none' ih
    | mark r after found _ ih =>
      obtain ⟨rest, e, refers⟩ := reference?_eq_some_iff.1 found
      obtain rfl := List.append_cancel_left e
      rw [references_of_refers refers, assemble_mark]
      cases known : vars.get? r.name with
      | some value =>
        rw [expand_of_known known]
        exact .known refers known ih
      | none =>
        rw [expand, known]
        exact .unknown refers known ih
  rw [replace, ← String.toList_inj, String.toList_ofList]
  exact ⟨fun e => e ▸ read _, replaced⟩

/-! ## References in their surroundings -/

/-- No reference reaches over the beginning of another one. -/
theorem exists_cut_of_refers {r : Reference} {rest : List Char} (h : Refers r rest) :
    ∃ x b, r.source ++ rest = x :: b ∧ IsCut x b := by
  have fenced (f : Fence) (inside : List Char) :
      ∃ x b, f.opening ++ inside = x :: b ∧ IsCut x b := by
    cases f with
    | brackets => exact ⟨_, _, rfl, isCut_brackets inside⟩
    | braces => exact ⟨_, _, rfl, isCut_dollar _⟩
  cases h with
  | bare => exact ⟨_, _, rfl, isCut_dollar _⟩
  | named f =>
    rw [List.append_assoc, List.append_assoc]
    exact fenced f _
  | formatted f =>
    rw [List.append_assoc, List.append_assoc, List.append_assoc]
    exact fenced f _

/-- A reference is replaced wherever it stands, and what is around it as if it stood alone. -/
theorem replace_around {r : Reference} (p s : String) (h : Refers r s.toList) :
    vars.replace (p ++ .ofList r.source ++ s) format =
      vars.replace p format ++ .ofList (vars.expand format r) ++ vars.replace s format := by
  obtain ⟨x, b, e, cut⟩ := exists_cut_of_refers h
  have cuts : references (p.toList ++ (r.source ++ s.toList)) =
      references p.toList ++ .mark r :: references s.toList := by
    rw [e, references_append_of_cut cut, ← e, references_of_refers h]
  rw [← String.toList_inj]
  simp only [replace, String.toList_append, String.toList_ofList, List.append_assoc]
  rw [cuts, assemble_append, assemble_mark]

/-- A reference to a known variable gives way to its value. -/
theorem replace_around_known {r : Reference} {value : Value} (p s : String)
    (h : Refers r s.toList) (known : vars.get? r.name = some value) :
    vars.replace (p ++ .ofList r.source ++ s) format =
      vars.replace p format ++ (meant r.format format).render r.name value ++
        vars.replace s format := by
  rw [replace_around p s h, expand_of_known known, String.ofList_toList]

section

variable {name : String} {value : Value} (p s : String) (h : IsName name.toList)
  (known : vars.get? name = some value)
include h known

theorem replace_named (f : Fence) :
    vars.replace (p ++ .ofList f.opening ++ name ++ .ofList f.closing ++ s) format =
      vars.replace p format ++ (meant none format).render name value ++ vars.replace s format := by
  have refers : Refers ⟨name, none, f.opening ++ name.toList ++ f.closing⟩ s.toList := by
    simpa using Refers.named f h s.toList
  rw [← replace_around_known p s refers known]
  simp only [String.ofList_append, String.ofList_toList, String.append_assoc]

theorem replace_formatted (f : Fence) {asked : String} (h' : IsName asked.toList) :
    vars.replace (p ++ .ofList f.opening ++ name ++ ":" ++ asked ++ .ofList f.closing ++ s) format =
      vars.replace p format ++ (Format.ofName asked).render name value ++
        vars.replace s format := by
  have refers : Refers ⟨name, some asked,
      f.opening ++ name.toList ++ ':' :: asked.toList ++ f.closing⟩ s.toList := by
    simpa using Refers.formatted f h h' s.toList
  have colon : String.ofList (':' :: asked.toList) = ":" ++ asked := by
    rw [← String.toList_inj]
    simp
  have around := @replace_around_known vars format _ _ p s refers known
  simp only [String.ofList_append, String.ofList_toList, colon, meant] at around
  simpa only [String.append_assoc] using around

theorem replace_bare (whole : ∀ c ∈ s.toList.head?, isWord c = false) :
    vars.replace (p ++ "$" ++ name ++ s) format =
      vars.replace p format ++ (meant none format).render name value ++ vars.replace s format := by
  have refers : Refers ⟨name, none, '$' :: name.toList⟩ s.toList := by
    simpa using Refers.bare h whole
  have dollar : String.ofList ('$' :: name.toList) = "$" ++ name := by
    rw [← String.toList_inj]
    simp
  rw [← replace_around_known p s refers known, dollar]
  simp only [String.append_assoc]

end

end Variables

/-- Replacing is the reading of a text from the left, in which formats that are not recognised mean
the glob.  A known name between marks gives way to its value between any two texts, and so does one
after a dollar sign, if no word character follows it. -/
theorem replace_exact (vars : Variables) (format : Option String) :
    (∀ target out, vars.replace target format = out ↔
      Reading vars format target.toList out.toList) ∧
    (∀ asked, asked ∉ ["lucene", "csv", "pipe", "raw", "regex", "distributed"] →
      Format.ofName asked = .glob) ∧
    ∀ (p s name : String) (value : Value), IsName name.toList → vars.get? name = some value →
      let put (shown : Format) :=
        vars.replace p format ++ shown.render name value ++ vars.replace s format
      (∀ asked : String, IsName asked.toList →
        vars.replace (p ++ "$\x7b" ++ name ++ ":" ++ asked ++ "\x7d" ++ s) format =
          put (.ofName asked) ∧
        vars.replace (p ++ "[[" ++ name ++ ":" ++ asked ++ "]]" ++ s) format =
          put (.ofName asked)) ∧
      vars.replace (p ++ "$\x7b" ++ name ++ "\x7d" ++ s) format = put (meant none format) ∧
      vars.replace (p ++ "[[" ++ name ++ "]]" ++ s) format = put (meant none format) ∧
      ((∀ c ∈ s.toList.head?, isWord c = false) →
        vars.replace (p ++ "$" ++ name ++ s) format = put (meant none format)) := by
  refine ⟨fun target out => Variables.replace_eq_iff, fun asked other => ?_,
    fun p s name value h known => ⟨fun asked h' => ⟨?_, ?_⟩, ?_, ?_, fun whole => ?_⟩⟩
  · simp only [List.mem_cons, List.not_mem_nil, or_false, not_or] at other
    unfold Format.ofName
    split <;> simp_all
  · exact Variables.replace_formatted p s h known .braces h'
  · exact Variables.replace_formatted p s h known .brackets h'
  · exact Variables.replace_named p s h known .braces
  · exact Variables.replace_named p s h known .brackets
  · exact Variables.replace_bare p s h known whole

/-- Brackets around a reference between brackets stay. -/
theorem bracketed_reference_replaced :
    let vars : Variables := [("x", .multi ["a", "b"])]
    IsName "x".toList ∧ IsName "pipe".toList ∧ vars.get? "x" = some (.multi ["a", "b"]) ∧
      vars.replace "[[[x:pipe]]]" none = "[a|b]" := by
  intro vars
  have name : IsName "x".toList := ⟨by decide, by decide⟩
  have format : IsName "pipe".toList := ⟨by decide, by decide⟩
  have known : vars.get? "x" = some (.multi ["a", "b"]) := rfl
  obtain ⟨-, -, around⟩ := replace_exact vars none
  have put := ((around "[" "]" "x" _ name known).1 "pipe" format).2
  refine ⟨name, format, known, ?_⟩
  have whole : "[" ++ "[[" ++ "x" ++ ":" ++ "pipe" ++ "]]" ++ "]" = "[[[x:pipe]]]" := by decide
  have before : vars.replace "[" none = "[" := by decide
  have behind : vars.replace "]" none = "]" := by decide
  have shown : (Format.ofName "pipe").render "x" (.multi ["a", "b"]) = "a|b" := by decide
  rw [whole, before, behind] at put
  dsimp only at put
  rw [put, shown]
  decide

end ElasticPanels.Template

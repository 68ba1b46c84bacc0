import ElasticPanels.Proofs.JsonText
import ElasticPanels.Proofs.References

/-!
# References in JSON texts

A value that was written holds a reference only inside its strings: an escape is a barrier, so is a
quotation mark, and what stands between double brackets of the layout begins with a digit or is a
word such as `null` (`isBareName`).  So reading the whole text for references is reading each string
for itself (`pieces_spell`), and for an ASCII string that is reading the text which the string
writes (`pieces_escaped`).
-/

namespace ElasticPanels.Json

open Template
open Text (isWord)

/-! ## Inside a string -/

/-- The characters of a text as they stand inside a string. -/
def escaped (cs : List Char) : List Char := cs.flatMap (stringChar true)

theorem escaped_cons (c : Char) (cs : List Char) :
    escaped (c :: cs) = stringChar true c ++ escaped cs := rfl

theorem escaped_append (cs ds : List Char) : escaped (cs ++ ds) = escaped cs ++ escaped ds :=
  List.flatMap_append

theorem renderString_eq (s : String) :
    renderString true s = '"' :: (escaped s.toList ++ ['"']) := rfl

/-- Whether a character is written as itself. -/
def isShown (c : Char) : Bool := isPrintable c && c ≠ '"' && c ≠ '\\'

theorem isShown_iff {c : Char} :
    isShown c = true ↔ isPrintable c = true ∧ c ≠ '"' ∧ c ≠ '\\' := by
  simp [isShown, and_assoc]

theorem ascii_of_isShown {c : Char} (h : isShown c = true) : c.toNat < 0x80 := by
  have : 0x20 ≤ c.toNat ∧ c.toNat ≤ 0x7e := by simpa [isPrintable] using (isShown_iff.1 h).1
  omega

theorem stringChar_shown {c : Char} (h : isShown c = true) : stringChar true c = [c] := by
  obtain ⟨printable, quote, backslash⟩ := isShown_iff.1 h
  have : 0x20 ≤ c.toNat ∧ c.toNat ≤ 0x7e := by simpa [isPrintable] using printable
  have control (d : Char) (hd : d.toNat < 0x20) : c ≠ d := by
    rintro rfl
    omega
  simp [stringChar, quote, backslash, control '\n' (by decide), control '\r' (by decide),
    control '\t' (by decide), control '\x08' (by decide), control '\x0c' (by decide),
    Nat.not_lt.2 this.1, this.2]

theorem inert_of_isAlphanum {cs : List Char}
    (h : ∀ c ∈ cs, c = '\\' ∨ c.isAlphanum = true) : Inert cs := by
  intro c hc
  rcases h c hc with rfl | word
  · decide
  · constructor <;> rintro rfl <;> exact absurd word (by decide)

/-- A character that is not written as itself is written as an escape. -/
theorem stringChar_hidden {c : Char} (h : isShown c = false) :
    ∃ tail, stringChar true c = '\\' :: tail ∧ Inert tail := by
  rcases stringChar_cases c with ⟨e, short, written⟩ | written | ⟨plain, small, -⟩
  · refine ⟨[e], written, fun d hd => ?_⟩
    rw [List.mem_singleton] at hd
    subst hd
    constructor <;> rintro rfl <;> exact absurd short (by simp [shortEscape?])
  · obtain ⟨tail, e⟩ : ∃ tail, charEscape c = '\\' :: tail := by
      unfold charEscape
      dsimp only
      split_ifs <;> exact ⟨_, rfl⟩
    refine ⟨tail, written.trans e, inert_of_isAlphanum fun d hd => ?_⟩
    exact mem_charEscape (by rw [e]; exact List.mem_cons_of_mem _ hd)
  · have : (0x20 ≤ c.toNat ∧ c ≠ '"') ∧ c ≠ '\\' := by simpa [isPlain] using plain
    rw [isShown_iff.2 ⟨by simp [isPrintable, this.1.1, small], this.1.2, this.2⟩] at h
    cases h

/-- A text that is written in shown characters is made of them. -/
theorem eq_append_of_escaped {cs source tail : List Char} (h : escaped cs = source ++ tail)
    (shown : '\\' ∉ source) : ∃ ds, cs = source ++ ds ∧ tail = escaped ds := by
  induction source generalizing cs with
  | nil => exact ⟨cs, rfl, h.symm⟩
  | cons d source ih =>
    simp only [List.mem_cons, not_or] at shown
    cases cs with
    | nil => simp [escaped] at h
    | cons c cs =>
      rw [escaped_cons] at h
      cases hc : isShown c with
      | true =>
        rw [stringChar_shown hc, List.cons_append, List.cons_append, List.nil_append,
          List.cons_eq_cons] at h
        obtain ⟨rfl, h⟩ := h
        obtain ⟨ds, rfl, e⟩ := ih h shown.2
        exact ⟨ds, rfl, e⟩
      | false =>
        obtain ⟨rest, e, -⟩ := stringChar_hidden hc
        rw [e, List.cons_append, List.cons_append, List.cons_eq_cons] at h
        exact absurd h.1 shown.1

theorem isBarrier_backslash : isBarrier '\\' = true := by decide

theorem isBarrier_quote : isBarrier '"' = true := by decide

theorem isBarrier_newline : isBarrier '\n' = true := by decide

/-- A hidden ASCII character is a barrier, as its escape is. -/
theorem isBarrier_of_hidden {c : Char} (ascii : c.toNat < 0x80) (h : isShown c = false) :
    isBarrier c = true := by
  have all : ∀ n < 0x80, isShown (.ofNat n) = false → isBarrier (.ofNat n) = true := by
    decide +kernel
  exact forall_ascii (P := fun c => isShown c = false → isBarrier c = true) all ascii h

theorem escaped_shown {cs : List Char} (h : ∀ c ∈ cs, isShown c = true) : escaped cs = cs := by
  induction cs with
  | nil => rfl
  | cons c cs ih =>
    rw [escaped_cons, stringChar_shown (h c (by simp)), ih fun d hd => h d (by simp [hd])]
    rfl

/-- A reference inside an ASCII string is the one that the text begins with. -/
theorem reference?_escaped {c : Char} {cs : List Char} (ascii : ∀ d ∈ cs, d.toNat < 0x80) :
    reference? (c :: escaped cs) = reference? (c :: cs) := by
  -- The shown characters up to the first hidden one decide.
  have split := List.takeWhile_append_dropWhile (p := isShown) (l := cs)
  have shown : escaped (cs.takeWhile isShown) = cs.takeWhile isShown :=
    escaped_shown fun d hd => List.mem_takeWhile_imp hd
  generalize hq : cs.dropWhile isShown = after at split
  generalize cs.takeWhile isShown = before at split shown
  cases after with
  | nil => rw [← split, List.append_nil, shown]
  | cons d after =>
    have hidden : isShown d = false := by
      have := List.head_dropWhile_not isShown (l := cs) (by simp [hq])
      simpa [hq] using this
    have barrier := isBarrier_of_hidden (ascii d (by simp [← split])) hidden
    obtain ⟨tail, written, -⟩ := stringChar_hidden hidden
    have hidden := reference?_append isBarrier_backslash (List.cons_ne_nil c before)
      (tail ++ escaped after)
    have plain := reference?_append barrier (List.cons_ne_nil c before) after
    rw [← split, escaped_append, shown, escaped_cons, written, List.cons_append]
    exact hidden.trans plain.symm

section Pieces

variable {known : Reference → Bool}

/-- What stands for a piece of a text inside the string that writes the text. -/
def escapedPiece : Text.Piece Reference → List (Text.Piece Reference)
  | .plain c => (stringChar true c).map .plain
  | .mark r => [.mark r]

theorem pieces_stringChar {c : Char} (h : isShown c = false) (rest : List Char) :
    pieces known (stringChar true c ++ rest) =
      (stringChar true c).map .plain ++ pieces known rest := by
  obtain ⟨tail, e, inert⟩ := stringChar_hidden h
  rw [e]
  refine pieces_inert (fun d hd => ?_) rest
  rcases List.mem_cons.1 hd with rfl | hd
  · decide
  · exact inert d hd

theorem isShown_of_begins {r : Reference} {cs : List Char} (h : Begins r cs)
    (ascii : ∀ c ∈ cs, c.toNat < 0x80) : ∀ c ∈ r.source, isShown c = true := by
  obtain ⟨after, rfl⟩ := h.isPrefix
  intro c hc
  by_contra hidden
  have barrier := isBarrier_of_hidden (ascii c (by simp [hc])) (by simpa using hidden)
  rw [h.chars c hc] at barrier
  cases barrier

/-- The references inside an ASCII string are those of the text that it writes. -/
theorem pieces_escaped {cs : List Char} (ascii : ∀ c ∈ cs, c.toNat < 0x80) :
    pieces known (escaped cs) = (pieces known cs).flatMap escapedPiece := by
  induction cs using inductionOnPieces known with
  | nil => rfl
  | plain c rest none ih =>
    have asciiRest : ∀ d ∈ rest, d.toNat < 0x80 := fun d hd => ascii d (by simp [hd])
    rw [pieces_cons none, List.flatMap_cons, ← ih asciiRest, escaped_cons]
    cases hc : isShown c with
    | true =>
      have none' : known? known (c :: escaped rest) = Option.none := by
        rw [known?, reference?_escaped asciiRest]
        exact none
      rw [stringChar_shown hc, List.singleton_append, pieces_cons none', escapedPiece,
        stringChar_shown hc]
      rfl
    | false => exact pieces_stringChar hc _
  | mark r after found hr ih =>
    have begins := begins_of_reference? found
    have shown := isShown_of_begins begins ascii
    have asciiAfter : ∀ d ∈ after, d.toNat < 0x80 := fun d hd => ascii d (by simp [hd])
    obtain ⟨c, tail, e⟩ := List.exists_cons_of_ne_nil begins.source_ne_nil
    have found' : reference? (r.source ++ escaped after) = some r := by
      have asciiTail : ∀ d ∈ tail ++ after, d.toNat < 0x80 :=
        fun d hd => ascii d (by rw [e]; exact List.mem_cons_of_mem _ hd)
      have tail' : escaped tail = tail := escaped_shown fun d hd => shown d (by simp [e, hd])
      have same := reference?_escaped (c := c) asciiTail
      rw [escaped_append, tail', ← List.cons_append, ← List.cons_append, ← e] at same
      rw [same, found]
    rw [pieces_reference found hr, List.flatMap_cons, ← ih asciiAfter, escaped_append,
      escaped_shown shown, pieces_reference found' hr]
    rfl

/-- A reference that the inside of a string begins with stands for whole characters. -/
theorem exists_escaped_of_begins {r : Reference} {cs : List Char} (begins : Begins r (escaped cs)) :
    ∃ ds, ds.length < cs.length ∧ escaped cs = r.source ++ escaped ds := by
  obtain ⟨after, split⟩ := begins.isPrefix
  -- An escape begins with a backslash, which no reference holds.
  have whole : '\\' ∉ r.source := fun mem => by
    have := begins.chars _ mem
    rw [isBarrier_backslash] at this
    cases this
  obtain ⟨ds, rest, rfl⟩ := eq_append_of_escaped split whole
  have := List.length_pos_iff.2 begins.source_ne_nil
  exact ⟨ds, by rw [rest, List.length_append]; omega, split⟩

/-- Whatever the text is, a reference inside its string takes no part of an escape. -/
theorem exists_pieces_escaped (known : Reference → Bool) (cs : List Char) :
    ∃ ps : List (Text.Piece Reference), pieces known (escaped cs) = ps.flatMap escapedPiece := by
  -- A reference takes several characters at once, so the induction is on the length.
  induction hn : cs.length using Nat.strong_induction_on generalizing cs with
  | _ n ih =>
    subst hn
    match cs with
    | [] => exact ⟨[], rfl⟩
    | c :: cs =>
      obtain ⟨ps, e⟩ := ih cs.length (by simp) cs rfl
      cases hc : isShown c with
      | false =>
        refine ⟨.plain c :: ps, ?_⟩
        rw [escaped_cons, pieces_stringChar hc, e]
        rfl
      | true =>
        have first : escaped (c :: cs) = c :: escaped cs := by
          rw [escaped_cons, stringChar_shown hc, List.singleton_append]
        cases h : known? known (c :: escaped cs) with
        | none =>
          refine ⟨.plain c :: ps, ?_⟩
          rw [first, pieces_cons h, e, List.flatMap_cons, escapedPiece, stringChar_shown hc]
          rfl
        | some r =>
          obtain ⟨found, hr⟩ := Option.filter_eq_some_iff.1 h
          obtain ⟨ds, shorter, split⟩ :=
            exists_escaped_of_begins (first ▸ begins_of_reference? found)
          obtain ⟨qs, later⟩ := ih ds.length shorter ds rfl
          rw [← first, split] at found
          refine ⟨.mark r :: qs, ?_⟩
          rw [split, pieces_reference found hr, later]
          rfl

/-! ## Between the strings -/

/-- A name that may stand between the brackets of nested lists: it begins with a digit, or is a
word that stands for a value. -/
def isBareName (name : String) : Bool :=
  name.toList.head?.any Char.isDigit ||
    ["true", "false", "null", "NaN", "Infinity"].contains name

/-- The run of word characters at the beginning of a text is empty or a bare name. -/
def Quiet (cs : List Char) : Prop :=
  (wordRun cs).1 = [] ∨ isBareName (.ofList (wordRun cs).1) = true

theorem quiet_of_not_isWord {c : Char} (h : isWord c = false) (cs : List Char) :
    Quiet (c :: cs) := .inl (by simp [wordRun, h])

theorem quiet_of_isDigit {c : Char} (h : c.isDigit = true) (cs : List Char) :
    Quiet (c :: cs) := by
  have word : isWord c = true := Text.isWord_of_isAlphanum (by simp [Char.isAlphanum, h])
  refine .inr ?_
  simp [isBareName, wordRun, word, h]

theorem quiet_of_opensNumber {c : Char} (h : opensNumber c = true) (cs : List Char) :
    Quiet (c :: cs) := by
  have : c.isDigit = true ∨ c = '-' := by simpa [opensNumber] using h
  rcases this with digit | rfl
  · exact quiet_of_isDigit digit cs
  · exact quiet_of_not_isWord (by decide) cs

theorem quiet_of_word {word : List Char} (chars : ∀ c ∈ word, isWord c = true)
    (bare : isBareName (.ofList word) = true) {x : Char} (hx : isWord x = false)
    (cs : List Char) : Quiet (word ++ x :: cs) := by
  refine .inr ?_
  have run : (wordRun (word ++ x :: cs)).1 = word := by
    rw [wordRun_append_barrier hx, wordRun, List.takeWhile_eq_self_iff.2 chars]
  rw [run, bare]

theorem IsScalar.quiet {v : Json} (h : IsScalar v) (legible : Legible v) {x : Char}
    (hx : isWord x = false) (cs : List Char) : Quiet (v.render .spaced ++ x :: cs) := by
  have number {text : List Char} :
      (∃ c tail, text = c :: tail ∧ opensNumber c = true) → Quiet (text ++ x :: cs) := by
    rintro ⟨c, tail, rfl, opens⟩
    exact quiet_of_opensNumber opens _
  cases h with
  | null => exact quiet_of_word (by decide) (by decide) hx cs
  | bool b => cases b <;> exact quiet_of_word (by decide) (by decide) hx cs
  | int n => exact number (renderInt_eq_cons n)
  | float x =>
    cases legible with
    | float canonical =>
      match x with
      | .nan => exact quiet_of_word (by decide) (by decide) hx cs
      | .infinite false => exact quiet_of_word (by decide) (by decide) hx cs
      | .infinite true => exact quiet_of_not_isWord (by decide) _
      | .finite negative m q => exact number (renderFloat_eq_cons canonical)

theorem quiet_spell {v : Json} (legible : Legible v) {x : Char} (hx : isWord x = false)
    (cs : List Char) : Quiet (v.spell id (renderString true) ++ x :: cs) := by
  cases v using inductionOnShape with
  | scalar v h =>
    rw [spell_id_scalar h]
    exact h.quiet legible hx cs
  | str | arr | obj =>
    rw [spell]
    exact quiet_of_not_isWord (by decide) _

theorem quiet_spellItems {items : List Json} (legible : ∀ item ∈ items, Legible item)
    (cs : List Char) : Quiet (spellItems id (renderString true) [] items ++ ']' :: cs) := by
  match items with
  | [] => exact quiet_of_not_isWord (by decide) _
  | [item] =>
    rw [spellItems, spellItems, List.nil_append, List.append_nil]
    exact quiet_spell (legible item (by simp)) (by decide) cs
  | item :: next :: items =>
    rw [spellItems_more]
    exact quiet_spell (legible item (by simp)) (by decide) _

/-- If the items of a list begin with a bracket, what follows it is quiet: the bracket is that of
the first item. -/
theorem quiet_of_bracket {items : List Json} (legible : ∀ item ∈ items, Legible item)
    {cs inner : List Char}
    (h : spellItems id (renderString true) [] items ++ ']' :: cs = '[' :: inner) :
    Quiet inner := by
  cases items with
  | nil => simp [spellItems] at h
  | cons item items =>
    rw [spellItems, List.nil_append, List.append_assoc] at h
    have legibleItem := legible item (by simp)
    cases item using inductionOnShape with
    | scalar item hs =>
      obtain ⟨c, tail, e, opens⟩ := hs.render_eq_cons legibleItem
      rw [spell_id_scalar hs, e, List.cons_append, List.cons_eq_cons] at h
      exact absurd h.1 (Text.ne_of_class (by decide) opens).symm
    | str s =>
      rw [spell, renderString_eq, List.cons_append, List.cons_eq_cons] at h
      exact absurd h.1 (by decide)
    | arr inside =>
      cases legibleItem with
      | arr legible =>
        rw [spell_arr, List.cons_append, List.cons_eq_cons, List.append_assoc] at h
        rw [← h.2]
        exact quiet_spellItems legible _
    | obj fields =>
      rw [spell_obj, List.cons_append, List.cons_eq_cons] at h
      exact absurd h.1 (by decide)

/-- No variable with a bare name is known. -/
def Unnamed (known : Reference → Bool) : Prop :=
  ∀ r, isBareName r.name = true → known r = false

/-- A bracket of the layout begins no known reference. -/
theorem pieces_bracket (unnamed : Unnamed known) {cs : List Char}
    (quiet : ∀ inner, cs = '[' :: inner → Quiet inner) :
    pieces known ('[' :: cs) = .plain '[' :: pieces known cs := by
  apply pieces_cons
  by_cases h : cs.head? = some '['
  · obtain ⟨inner, rfl⟩ := List.head?_eq_some_iff.1 h
    rw [known?, reference?_brackets]
    cases e : enclosed? ['[', '['] [']', ']'] inner with
    | none => rfl
    | some r =>
      obtain ⟨inside, after, -, rfl, ⟨c, tail, rfl, word⟩, name, -⟩ := enclosed?_eq_some e
      have bare := (quiet _ rfl).resolve_left (by simp [wordRun, word])
      simp [unnamed r (by rw [name, bare])]
  · rw [known?, reference?_bracket h]
    rfl

/-! ## Whole values -/

theorem pieces_renderString (s : String) (rest : List Char) :
    pieces known (renderString true s ++ rest) =
      .plain '"' :: (pieces known (escaped s.toList) ++ .plain '"' :: pieces known rest) := by
  rw [renderString_eq, List.cons_append, List.append_assoc, List.singleton_append,
    pieces_cons_of_ne (by decide) (by decide), pieces_append isBarrier_quote]

/-- The pieces of a string with its marks. -/
def stringPieces (known : Reference → Bool) (s : String) : List (Text.Piece Reference) :=
  .plain '"' :: (pieces known (escaped s.toList) ++ [.plain '"'])

theorem pieces_joined {α : Type} {write : α → List Char}
    {found : α → List (Text.Piece Reference)} {parts : List α}
    (each : ∀ part ∈ parts, ∀ rest,
      pieces known (write part ++ rest) = found part ++ pieces known rest)
    {separator comma : List Char} (first : Inert separator) (other : Inert comma)
    (rest : List Char) :
    pieces known (joined separator comma (parts.map write) ++ rest) =
      joined (separator.map .plain) (comma.map .plain) (parts.map found) ++ pieces known rest := by
  induction parts generalizing separator with
  | nil => rfl
  | cons part parts ih =>
    rw [List.map_cons, List.map_cons, joined, joined, List.append_assoc, List.append_assoc,
      pieces_inert first, each part (by simp), ih (fun p hp => each p (by simp [hp])) other]
    simp only [List.append_assoc]

theorem pieces_scalar {v : Json} (h : IsScalar v) (rest : List Char) :
    pieces known (v.spell id (renderString true) ++ rest) =
      v.spell .plain (stringPieces known) ++ pieces known rest := by
  have inert : Inert (v.render .spaced) := by
    intro c hc
    have token := h.isToken c hc
    constructor <;> rintro rfl <;> exact absurd token (by decide)
  rw [spell_id_scalar h, pieces_inert inert, spell_scalar h]

theorem pieces_string (s : String) (rest : List Char) :
    pieces known (renderString true s ++ rest) = stringPieces known s ++ pieces known rest := by
  rw [pieces_renderString, stringPieces, List.cons_append, List.append_assoc,
    List.singleton_append]

/-- The references of a written value are those of its strings. -/
theorem pieces_spell (unnamed : Unnamed known) {v : Json} (legible : Legible v)
    (rest : List Char) : pieces known (v.spell id (renderString true) ++ rest) =
      v.spell .plain (stringPieces known) ++ pieces known rest := by
  induction v using inductionOnShape generalizing rest with
  | scalar v h => exact pieces_scalar h rest
  | str s => exact pieces_string s rest
  | arr items ih =>
    cases legible with
    | arr legible =>
      have parts := pieces_joined (fun item h => ih item h (legible item h))
        (by simp [Inert] : Inert []) (by simp [Inert] : Inert [',', ' '])
      -- Two opening brackets could begin a reference, but what follows them is no known name.
      have quiet (inner : List Char)
          (e : spellItems id (renderString true) [] items ++ ']' :: rest = '[' :: inner) :=
        quiet_of_bracket legible e
      rw [spell_arr, spell_arr, List.cons_append, List.append_assoc, List.singleton_append, id,
        id, pieces_bracket unnamed quiet, spellItems_eq, spellItems_eq]
      simp only [id]
      rw [parts, pieces_cons_of_ne (by decide) (by decide)]
      simp
  | obj fields ih =>
    cases legible with
    | obj legible =>
      have each : ∀ field ∈ fields, ∀ rest, pieces known (renderString true field.1 ++ [':', ' '] ++
          field.2.spell id (renderString true) ++ rest) =
            stringPieces known field.1 ++ [.plain ':', .plain ' '] ++
              field.2.spell .plain (stringPieces known) ++ pieces known rest := by
        intro field h rest
        simp only [List.append_assoc, List.cons_append, List.nil_append]
        rw [pieces_string, pieces_cons_of_ne (by decide) (by decide),
          pieces_cons_of_ne (by decide) (by decide), ih field h (legible field h)]
      have parts := pieces_joined each (by simp [Inert] : Inert [])
        (by simp [Inert] : Inert [',', ' '])
      rw [spell_obj, spell_obj, List.cons_append, List.append_assoc, List.singleton_append, id,
        id, pieces_cons_of_ne (by decide) (by decide), spellFields_eq, spellFields_eq]
      simp only [id]
      rw [parts, pieces_cons_of_ne (by decide) (by decide)]
      simp

end Pieces

end ElasticPanels.Json

import ElasticPanels.Proofs.Addresses
import ElasticPanels.Proofs.Batches

/-!
# Texts that can be written

A text can be written in UTF-8 if and only if it holds no half of a surrogate pair
(`Text.require_utf8_iff`).  A value can be written if and only if each of its texts can
(`Json.isWritable_render`), and then its plain text can be, too (`Json.isWritable_plain`).  What is
said of a text that is not JSON can always be written (`Json.ReadError.isAscii_message`).
-/

namespace ElasticPanels

namespace Text

/-- No character stands for half a surrogate pair. -/
def IsWritable (cs : List Char) : Prop := ∀ c ∈ cs, isStandIn c = false

instance : DecidablePred IsWritable := fun _ => inferInstanceAs (Decidable (∀ _ ∈ _, _))

variable {cs ds : List Char}

theorem isWritable_nil : IsWritable [] := by simp [IsWritable]

theorem isWritable_cons {c : Char} :
    IsWritable (c :: cs) ↔ isStandIn c = false ∧ IsWritable cs := List.forall_mem_cons

theorem isWritable_append : IsWritable (cs ++ ds) ↔ IsWritable cs ∧ IsWritable ds :=
  List.forall_mem_append

theorem isWritable_toList_append {s t : String} :
    IsWritable (s ++ t).toList ↔ IsWritable s.toList ∧ IsWritable t.toList := by
  rw [String.toList_append, isWritable_append]

theorem IsAscii.isWritable (h : IsAscii cs) : IsWritable cs :=
  fun c hc => Search.isStandIn_of_low (h c hc)

theorem require_utf8_iff {text : String} :
    Encoding.utf8.require text = .ok () ↔ IsWritable text.toList := by
  have gap : Encoding.utf8.gap? text.toList = none ↔ IsWritable text.toList :=
    Encoding.gap?_eq_none_iff
  rw [← gap, Encoding.require]
  cases Encoding.utf8.gap? text.toList <;> simp

/-! ## Quoted texts -/

theorem ascii_hexDigit {n : ℕ} (h : n < 16) : (hexDigit n).toNat < 128 := by
  have all : ∀ n < 16, (hexDigit n).toNat < 128 := by decide
  exact all n h

theorem isAscii_hexDigits (width n : ℕ) : IsAscii (hexDigits width n) := by
  induction width generalizing n with
  | zero => exact isAscii_nil
  | succ width ih =>
    rw [hexDigits, isAscii_append, isAscii_cons]
    exact ⟨ih _, ascii_hexDigit (Nat.mod_lt _ (by decide)), isAscii_nil⟩

theorem isAscii_hiddenEscape (c : Char) : IsAscii (hiddenEscape c) := by
  simp only [hiddenEscape]
  split_ifs <;> simp only [isAscii_cons] <;> exact ⟨by decide, by decide, isAscii_hexDigits _ _⟩

theorem isWritable_quotedChar (mark : Char) {c : Char} (h : isStandIn c = false) :
    IsWritable (quotedChar mark c) := by
  rw [quotedChar]
  split_ifs
  · simp [IsWritable, h]
    decide
  · decide
  · decide
  · decide
  · simpa [IsWritable] using h
  · exact (isAscii_hiddenEscape c).isWritable

theorem isWritable_quoted {s : String} (h : IsWritable s.toList) :
    IsWritable (quoted s).toList := by
  have mark : isStandIn (markFor s.toList) = false := by
    rw [markFor]
    split_ifs <;> decide
  simp only [quoted, String.toList_ofList, isWritable_cons, List.cons_append, isWritable_append]
  refine ⟨mark, ?_, mark, isWritable_nil⟩
  intro c hc
  obtain ⟨d, hd, mem⟩ := List.mem_flatMap.1 hc
  exact isWritable_quotedChar _ (h d hd) c mem

end Text

namespace Json

open Text

/-! ## Values -/

/-- All texts of the value can be written, its keys included. -/
def IsWritable (v : Json) : Prop := ∀ s ∈ v.texts, Text.IsWritable s.toList

theorem isWritable_str {s : String} : (str s).IsWritable ↔ Text.IsWritable s.toList := by
  simp [IsWritable, texts]

theorem isWritable_arr {items : List Json} :
    (arr items).IsWritable ↔ ∀ item ∈ items, item.IsWritable := by
  simp only [IsWritable, mem_texts_arr]
  exact ⟨fun h item mem s hs => h s ⟨item, mem, hs⟩, fun h s ⟨item, mem, hs⟩ => h item mem s hs⟩

theorem isWritable_obj {fields : List (String × Json)} : (obj fields).IsWritable ↔
    ∀ field ∈ fields, Text.IsWritable field.1.toList ∧ field.2.IsWritable := by
  simp only [IsWritable, mem_texts_obj]
  constructor
  · exact fun h field mem => ⟨h _ ⟨field, mem, .inl rfl⟩, fun s hs => h s ⟨field, mem, .inr hs⟩⟩
  · rintro h s ⟨field, mem, rfl | hs⟩
    · exact (h field mem).1
    · exact (h field mem).2 s hs

theorem isWritable_joined {separator comma : List Char} {parts : List (List Char)}
    (first : Text.IsWritable separator) (other : Text.IsWritable comma) :
    Text.IsWritable (joined separator comma parts) ↔ ∀ part ∈ parts, Text.IsWritable part :=
  ⟨fun h _ hp c hc => h c (mem_joined hp hc), forall_mem_joined first other⟩

theorem isAscii_charEscape (c : Char) : IsAscii (charEscape c) := by
  have unit (n : ℕ) : IsAscii (unitEscape n) := by
    rw [unitEscape, isAscii_cons, isAscii_cons]
    exact ⟨by decide, by decide, isAscii_hexDigits _ _⟩
  simp only [charEscape]
  split_ifs
  · exact unit _
  · exact isAscii_append.2 ⟨unit _, unit _⟩

theorem isWritable_stringChar (asciiOnly : Bool) {c : Char} (h : isStandIn c = false) :
    Text.IsWritable (stringChar asciiOnly c) := by
  rw [stringChar]
  split_ifs
  any_goals decide
  · exact (isAscii_charEscape c).isWritable
  · exact (isAscii_charEscape c).isWritable
  · simpa [Text.IsWritable] using h

/-- Half a pair stands in a string as it is. -/
theorem stringChar_of_standIn {c : Char} (h : isStandIn c = true) :
    stringChar false c = [c] := by
  have high : 0x80 ≤ c.toNat := by
    by_contra low
    rw [Search.isStandIn_of_low (by omega)] at h
    cases h
  have ne (d : Char) (low : d.toNat < 0x80) : c ≠ d := by
    rintro rfl
    omega
  rw [stringChar, if_neg (ne _ (by decide)), if_neg (ne _ (by decide)), if_neg (ne _ (by decide)),
    if_neg (ne _ (by decide)), if_neg (ne _ (by decide)), if_neg (ne _ (by decide)),
    if_neg (ne _ (by decide)), if_neg (by omega)]
  rfl

theorem isWritable_renderString {s : String} :
    Text.IsWritable (renderString false s) ↔ Text.IsWritable s.toList := by
  rw [renderString, List.cons_append, isWritable_cons, isWritable_append]
  constructor
  · rintro ⟨-, written, -⟩ c hc
    by_contra lacks
    have standIn : isStandIn c = true := by simpa using lacks
    refine lacks (written c (List.mem_flatMap.2 ⟨c, hc, ?_⟩))
    rw [stringChar_of_standIn standIn]
    exact List.mem_singleton_self c
  · intro h
    refine ⟨by decide, fun c hc => ?_, by decide⟩
    obtain ⟨d, hd, mem⟩ := List.mem_flatMap.1 hc
    exact isWritable_stringChar false (h d hd) c mem

theorem isWritable_of_isToken {cs : List Char} (h : ∀ c ∈ cs, isToken c = true) :
    Text.IsWritable cs := by
  intro c hc
  have printable := isPrintable_of_isToken (h c hc)
  simp only [isPrintable, Bool.and_eq_true, decide_eq_true_eq] at printable
  exact Search.isStandIn_of_low (by omega)

theorem renderItems_eq (layout : Layout) (separator : List Char) (items : List Json) :
    renderItems layout separator items =
      joined separator layout.comma (items.map (render layout)) := by
  induction items generalizing separator with
  | nil => rfl
  | cons item items ih =>
    rw [renderItems, ih]
    rfl

theorem renderFields_eq (layout : Layout) (separator : List Char) (fields : List (String × Json)) :
    renderFields layout separator fields =
      joined separator layout.comma (fields.map fun field =>
        renderString layout.asciiOnly field.1 ++ layout.colon ++ field.2.render layout) := by
  induction fields generalizing separator with
  | nil => rfl
  | cons field fields ih =>
    rw [renderFields, ih]
    simp [joined]

/-- A value can be written if and only if each of its texts can. -/
theorem isWritable_render {v : Json} : Text.IsWritable (v.render .compact) ↔ v.IsWritable := by
  have colon : Text.IsWritable Layout.compact.colon := by decide
  have comma : Text.IsWritable Layout.compact.comma := by decide
  induction v using inductionOnShape with
  | scalar v h =>
    have same : v.render .compact = v.render .spaced := by cases h <;> rfl
    have none : v.texts = [] := by cases h <;> rfl
    simp [IsWritable, none, same, isWritable_of_isToken h.isToken]
  | str s =>
    rw [render, isWritable_str]
    exact isWritable_renderString
  | arr items ih =>
    rw [render, renderItems_eq, List.cons_append, isWritable_cons, isWritable_append,
      isWritable_joined isWritable_nil comma, List.forall_mem_map, isWritable_arr]
    have close : Text.IsWritable [']'] := by decide
    have opened : isStandIn '[' = false := by decide
    simp only [close, opened, and_true, true_and]
    exact forall₂_congr ih
  | obj fields ih =>
    rw [render, renderFields_eq, List.cons_append, isWritable_cons, isWritable_append,
      isWritable_joined isWritable_nil comma, List.forall_mem_map, isWritable_obj]
    have close : Text.IsWritable ['}'] := by decide
    have opened : isStandIn '{' = false := by decide
    simp only [close, opened, and_true, true_and]
    refine forall₂_congr fun field mem => ?_
    rw [isWritable_append, isWritable_append]
    exact and_congr ((and_iff_left colon).trans isWritable_renderString) (ih field mem)

theorem require_compactText_iff {v : Json} :
    Encoding.utf8.require v.compactText = .ok () ↔ v.IsWritable := by
  rw [require_utf8_iff, compactText, String.toList_ofList, isWritable_render]

/-! ## Plain texts -/

theorem literalItems_eq (separator : List Char) (items : List Json) :
    literalItems separator items = joined separator [',', ' '] (items.map literal) := by
  induction items generalizing separator with
  | nil => rfl
  | cons item items ih =>
    rw [literalItems, ih]
    rfl

theorem literalFields_eq (separator : List Char) (fields : List (String × Json)) :
    literalFields separator fields = joined separator [',', ' '] (fields.map fun field =>
      (quoted field.1).toList ++ [':', ' '] ++ field.2.literal) := by
  induction fields generalizing separator with
  | nil => rfl
  | cons field fields ih =>
    rw [literalFields, ih]
    simp [joined]

theorem isWritable_text (x : Binary64) : Text.IsWritable x.text.toList := by
  match x with
  | .nan => decide
  | .infinite negative => cases negative <;> decide
  | .finite negative m q =>
    exact isWritable_of_isToken (IsScalar.float (.finite negative m q)).isToken

theorem isWritable_literal {v : Json} (h : v.IsWritable) : Text.IsWritable v.literal := by
  have comma : Text.IsWritable [',', ' '] := by decide
  induction v using inductionOnParts with
  | null => decide
  | bool b => cases b <;> decide
  | int n => exact isWritable_of_isToken (IsScalar.int n).isToken
  | float x => exact isWritable_text x
  | str s => exact isWritable_quoted (isWritable_str.1 h)
  | arr items ih =>
    rw [isWritable_arr] at h
    rw [literal, literalItems_eq, List.cons_append, isWritable_cons, isWritable_append,
      isWritable_joined isWritable_nil comma, List.forall_mem_map]
    exact ⟨by decide, fun item mem => ih item mem (h item mem), by decide⟩
  | obj fields ih =>
    rw [isWritable_obj] at h
    rw [literal, literalFields_eq, List.cons_append, isWritable_cons, isWritable_append,
      isWritable_joined isWritable_nil comma, List.forall_mem_map]
    refine ⟨by decide, fun field mem => ?_, by decide⟩
    rw [isWritable_append, isWritable_append]
    exact ⟨⟨isWritable_quoted (h field mem).1, by decide⟩, ih field mem (h field mem).2⟩

/-- The plain text of a value can be written if the value can. -/
theorem isWritable_plain {v : Json} (h : v.IsWritable) : Text.IsWritable v.plain.toList := by
  cases v with
  | str s => exact isWritable_str.1 h
  | _ => exact String.toList_ofList ▸ isWritable_literal h

end Json

/-! ## Wordings of faults -/

namespace Text

theorem IsAscii.concat {s t : String} (hs : IsAscii s.toList) (ht : IsAscii t.toList) :
    IsAscii (s ++ t).toList := isAscii_toList_append.2 ⟨hs, ht⟩

theorem isAscii_natText (n : ℕ) : IsAscii (toString n).toList := isAscii_repr n

theorem Undecodable.isAscii_message (u : Undecodable) : IsAscii u.message.toList := by
  have form : IsAscii u.form.name.toList := by
    cases u.form with
    | bytes => decide
    | pairs order => cases order <;> decide
    | quads order => cases order <;> decide
  have flaw : IsAscii u.flaw.message.toList := by cases u.flaw <;> decide
  have quote : IsAscii "'".toList := by decide
  have verb : IsAscii "' codec can't decode ".toList := by decide
  have colon : IsAscii ": ".toList := by decide
  rw [message]
  refine ((((quote.concat form).concat verb).concat ?_).concat colon).concat flaw
  split_ifs
  · exact ((IsAscii.concat (by decide) (isAscii_ofList.2 (isAscii_hexDigits _ _))).concat
      (by decide)).concat (isAscii_natText _)
  · exact ((IsAscii.concat (by decide) (isAscii_natText _)).concat (by decide)).concat
      (isAscii_natText _)

end Text

theorem Json.SyntaxError.isAscii_message (e : Json.SyntaxError) :
    Text.IsAscii e.message.toList := by
  have flaw : Text.IsAscii e.flaw.message.toList := by cases e.flaw <;> decide
  exact ((((((flaw.concat (by decide)).concat (Text.isAscii_natText _)).concat (by decide)).concat
    (Text.isAscii_natText _)).concat (by decide)).concat (Text.isAscii_natText _)).concat
      (by decide)

/-- Why a text cannot be read is told in ASCII. -/
theorem Json.ReadError.isAscii_message (e : Json.ReadError) :
    Text.IsAscii (e.fault.message?.getD "").toList := by
  cases e with
  | flawed error => exact error.isAscii_message
  | undecodable bytes => exact bytes.isAscii_message
  | tooManyDigits count =>
    exact ((((Text.IsAscii.concat (by decide) (Text.isAscii_natText _)).concat (by decide)).concat
      (Text.isAscii_natText _)).concat (by decide))

theorem isAscii_invalidMessage (record : String) (h : Text.IsAscii record.toList)
    (issues : List Issue) :
    Text.IsAscii ((Fault.invalid record issues).message?.getD "").toList := by
  refine (((Text.isAscii_natText _).concat (by decide)).concat ?_).concat (by decide) |>.concat h
  split_ifs <;> decide

end ElasticPanels

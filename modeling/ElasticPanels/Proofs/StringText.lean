import ElasticPanels.Json.Printer
import ElasticPanels.Json.Reader
import Mathlib.Tactic.IntervalCases

/-!
# Strings in JSON texts

`Spelled cs ps` says that the characters `cs` of a string are read as the pieces `ps`, whatever
follows them.  Each character is spelled as `charPieces` says (`spelled_stringChar`), and the pieces
make the text again unless a high half stands before a low half, which are read as one character
(`Text.splitsPair`).  So a string that was written is read as what `rejoin` makes of it
(`reads_renderString`), which is the string itself but for such halves (`rejoin_of_whole`).
-/

namespace ElasticPanels

namespace Text

/-- Whether a high half stands directly before a low half: together they read as one character. -/
def splitsPair : List Char → Bool
  | high :: low :: rest =>
    opensPair (codePoint high) && closesPair (codePoint low) || splitsPair (low :: rest)
  | _ => false

theorem splitsPair_of_ascii {cs : List Char} (h : ∀ c ∈ cs, c.toNat < 0x80) :
    splitsPair cs = false := by
  induction cs with
  | nil => rfl
  | cons c cs ih =>
    cases cs with
    | nil => rfl
    | cons d cs =>
      have low : codePoint c < 0xd800 := by
        have := h c (by simp)
        unfold codePoint
        split_ifs <;> omega
      have opens : opensPair (codePoint c) = false := by
        simp only [opensPair, Bool.and_eq_false_iff, decide_eq_false_iff_not]
        omega
      rw [splitsPair, opens, ih fun e he => h e (by simp [he])]
      rfl

theorem isStandIn_of_codePoint {c : Char} (h : isStandIn c = true) :
    isHalf (codePoint c) = true := by
  have : standInShift ≤ c.toNat ∧ isHalf (c.toNat - standInShift) = true := by
    simpa [isStandIn] using h
  rw [codePoint, if_pos h]
  exact this.2

/-- No character but a stand-in is half a pair. -/
theorem isStandIn_of_isHalf {c : Char} (h : isHalf (codePoint c) = true) : isStandIn c = true := by
  by_contra plain
  have e : codePoint c = c.toNat := if_neg plain
  rw [e] at h
  have := c.valid
  simp only [isHalf, Bool.and_eq_true, decide_eq_true_eq] at h
  rcases this with low | ⟨high, -⟩
  · have : c.toNat < 0xd800 := low
    omega
  · have : 0xdfff < c.toNat := high
    omega

theorem hasHalf_of_splitsPair {cs : List Char} (split : splitsPair cs = true) :
    hasHalf cs = true := by
  induction cs with
  | nil => cases split
  | cons c cs ih =>
    rw [hasHalf, List.any_cons, Bool.or_eq_true]
    cases cs with
    | nil => cases split
    | cons d cs =>
      rw [splitsPair, Bool.or_eq_true] at split
      rcases split with pair | later
      · have opens : opensPair (codePoint c) = true := (Bool.and_eq_true_iff.1 pair).1
        refine .inl (isStandIn_of_isHalf ?_)
        simp only [opensPair, isHalf, Bool.and_eq_true, decide_eq_true_eq] at opens ⊢
        omega
      · exact .inr (ih later)

theorem ofUnit_codePoint (c : Char) : ofUnit (codePoint c) = c := by
  by_cases h : isStandIn c = true
  · have ge : standInShift ≤ c.toNat := by
      have : standInShift ≤ c.toNat ∧ isHalf (c.toNat - standInShift) = true := by
        simpa [isStandIn] using h
      exact this.1
    rw [ofUnit, if_pos (isStandIn_of_codePoint h), codePoint, if_pos h, Nat.sub_add_cancel ge,
      Char.ofNat_toNat]
  · have whole : ¬ isHalf (codePoint c) = true := fun half => h (isStandIn_of_isHalf half)
    rw [ofUnit, if_neg whole, codePoint, if_neg h, Char.ofNat_toNat]

theorem ofPair_halves {c : Char} (large : 0x10000 ≤ codePoint c) :
    ofPair (0xd800 + (codePoint c - 0x10000) / 0x400) (0xdc00 + (codePoint c - 0x10000) % 0x400) =
      c := by
  have plain : ¬ isStandIn c = true := by
    intro h
    have := isStandIn_of_codePoint h
    simp only [isHalf, Bool.and_eq_true, decide_eq_true_eq] at this
    omega
  have e : codePoint c = c.toNat := if_neg plain
  rw [e] at large ⊢
  have value : 0x10000 + (0xd800 + (c.toNat - 0x10000) / 0x400 - 0xd800) * 0x400 +
      (0xdc00 + (c.toNat - 0x10000) % 0x400 - 0xdc00) = c.toNat := by omega
  rw [ofPair, value, Char.ofNat_toNat]

end Text

namespace Json

open Text

/-! ## Hexadecimal digits -/

theorem hexValue?_hexDigit {d : ℕ} (h : d < 16) : hexValue? (hexDigit d) = some d := by
  interval_cases d <;> rfl

theorem unitEscape_eq (n : ℕ) :
    unitEscape n = ['\\', 'u', hexDigit (n / 4096 % 16), hexDigit (n / 256 % 16),
      hexDigit (n / 16 % 16), hexDigit (n % 16)] := by
  simp [unitEscape, hexDigits, Nat.div_div_eq_div_mul]

theorem hexUnit?_digits {n : ℕ} (h : n < 0x10000) :
    hexUnit? (hexDigit (n / 4096 % 16)) (hexDigit (n / 256 % 16)) (hexDigit (n / 16 % 16))
      (hexDigit (n % 16)) = some n := by
  have digit (m : ℕ) : hexValue? (hexDigit (m % 16)) = some (m % 16) :=
    hexValue?_hexDigit (Nat.mod_lt m (by decide))
  simp only [hexUnit?, digit, Option.bind_eq_bind, Option.bind_some, Option.pure_def,
    Option.some_inj]
  omega

/-! ## Pieces of a written string -/

/-- The characters are read as the pieces, if anything follows them. -/
def Spelled (cs : List Char) (ps : List Piece) : Prop :=
  ∀ opening rest, rest ≠ [] → readPieces opening (cs ++ rest) =
    (readPieces opening rest).map fun (pieces, after) => (ps ++ pieces, after)

theorem Spelled.nil : Spelled [] [] := by
  intro opening rest _
  rw [List.nil_append]
  cases readPieces opening rest <;> rfl

theorem Spelled.append {cs ds : List Char} {ps qs : List Piece} (h : Spelled cs ps)
    (h' : Spelled ds qs) : Spelled (cs ++ ds) (ps ++ qs) := by
  intro opening rest ne
  rw [List.append_assoc, h opening _ (by simp [ne]), h' opening rest ne]
  cases readPieces opening rest with
  | error e => rfl
  | ok read => simp [Except.map]

theorem Spelled.flatMap {α : Type} {write : α → List Char} {pieces : α → List Piece} {as : List α}
    (h : ∀ a ∈ as, Spelled (write a) (pieces a)) :
    Spelled (as.flatMap write) (as.flatMap pieces) := by
  induction as with
  | nil => exact .nil
  | cons a as ih =>
    rw [List.flatMap_cons, List.flatMap_cons]
    exact (h a (by simp)).append (ih fun b hb => h b (by simp [hb]))

/-- Whether a character stands for itself inside a string. -/
def isPlain (c : Char) : Bool := 0x20 ≤ c.toNat && c ≠ '"' && c ≠ '\\'

theorem readPieces_plain {c : Char} (h : c ≠ '"' ∧ c ≠ '\\') (opening rest : List Char) :
    readPieces opening (c :: rest) =
      if c.toNat < 0x20 then .error (.flawed .controlCharacter (c :: rest))
      else (readPieces opening rest).map fun (pieces, after) => (.shown c :: pieces, after) := by
  rw [readPieces.eq_def]
  split <;> simp_all

theorem spelled_plain {c : Char} (h : isPlain c = true) : Spelled [c] [.shown c] := by
  have : (0x20 ≤ c.toNat ∧ c ≠ '"') ∧ c ≠ '\\' := by simpa [isPlain] using h
  intro opening rest _
  rw [List.singleton_append, readPieces_plain ⟨this.1.2, this.2⟩, if_neg (by omega)]
  rfl

theorem spelled_short {e c : Char} (h : shortEscape? e = some c) :
    Spelled ['\\', e] [.shown c] := by
  have : e ≠ 'u' := by
    rintro rfl
    cases h
  intro opening rest _
  simp only [List.cons_append, List.nil_append]
  rw [readPieces.eq_5 _ _ _ (fun _ _ _ _ _ _ h => absurd h this) this, h]

theorem spelled_hex {a b c d : Char} {n : ℕ} (h : hexUnit? a b c d = some n) :
    Spelled ['\\', 'u', a, b, c, d] [.unit n] := by
  intro opening rest ne
  obtain ⟨e, rest, rfl⟩ := List.exists_cons_of_ne_nil ne
  simp only [List.cons_append, List.nil_append]
  rw [readPieces.eq_3, h]

theorem spelled_unit {n : ℕ} (h : n < 0x10000) : Spelled (unitEscape n) [.unit n] := by
  rw [unitEscape_eq]
  exact spelled_hex (hexUnit?_digits h)

theorem ascii_of_shortEscape {e c : Char} (h : shortEscape? e = some c) : c.toNat < 0x80 := by
  unfold shortEscape? at h
  split at h <;> cases h <;> decide

/-- The pieces that the escape of a character is read as. -/
def escapePieces (c : Char) : List Piece :=
  let n := codePoint c
  if n < 0x10000 then [.unit n]
  else [.unit (0xd800 + (n - 0x10000) / 0x400), .unit (0xdc00 + (n - 0x10000) % 0x400)]

theorem codePoint_lt (c : Char) : codePoint c < 0x110000 := by
  have : c.toNat < 0x110000 := by
    rcases c.valid with low | ⟨-, high⟩
    · exact lt_trans low (by decide)
    · exact high
  unfold codePoint
  split_ifs <;> omega

theorem spelled_charEscape (c : Char) : Spelled (charEscape c) (escapePieces c) := by
  have bound := codePoint_lt c
  unfold charEscape escapePieces
  dsimp only
  split_ifs with small
  · exact spelled_unit small
  · exact (spelled_unit (by omega)).append (spelled_unit (by omega))

/-- How a character is written: by a letter, by its units or as itself. -/
theorem stringChar_cases (c : Char) :
    (∃ e, shortEscape? e = some c ∧ stringChar true c = ['\\', e]) ∨
      stringChar true c = charEscape c ∨
      (isPlain c = true ∧ c.toNat ≤ 0x7e ∧ stringChar true c = [c]) := by
  unfold stringChar
  split_ifs with quote backslash newline ret tab back feed control beyond
  · exact .inl ⟨'"', by rw [quote]; rfl, rfl⟩
  · exact .inl ⟨'\\', by rw [backslash]; rfl, rfl⟩
  · exact .inl ⟨'n', by rw [newline]; rfl, rfl⟩
  · exact .inl ⟨'r', by rw [ret]; rfl, rfl⟩
  · exact .inl ⟨'t', by rw [tab]; rfl, rfl⟩
  · exact .inl ⟨'b', by rw [back]; rfl, rfl⟩
  · exact .inl ⟨'f', by rw [feed]; rfl, rfl⟩
  · exact .inr (.inl rfl)
  · exact .inr (.inl rfl)
  · refine .inr (.inr ⟨?_, by simpa using beyond, rfl⟩)
    simp [isPlain, quote, backslash, Nat.not_lt.1 control]

/-- The pieces that a written character is read as: its units, if it is written by them. -/
def charPieces (c : Char) : List Piece :=
  if stringChar true c = charEscape c then escapePieces c else [.shown c]

theorem length_charEscape (c : Char) : 6 ≤ (charEscape c).length := by
  unfold charEscape
  dsimp only
  split_ifs <;> simp [unitEscape_eq]

theorem spelled_stringChar (c : Char) : Spelled (stringChar true c) (charPieces c) := by
  have long := length_charEscape c
  rcases stringChar_cases c with ⟨e, short, written⟩ | written | ⟨plain, -, written⟩
  · have : ['\\', e] ≠ charEscape c := by
      intro h
      rw [← h] at long
      exact absurd long (by simp)
    rw [charPieces, written, if_neg this]
    exact spelled_short short
  · rw [charPieces, if_pos written, written]
    exact spelled_charEscape c
  · have : [c] ≠ charEscape c := by
      intro h
      rw [← h] at long
      exact absurd long (by simp)
    rw [charPieces, written, if_neg this]
    exact spelled_plain plain

/-! ### Characters of a written string -/

/-- Whether a character is in the printable part of ASCII. -/
def isPrintable (c : Char) : Bool := 0x20 ≤ c.toNat && c.toNat ≤ 0x7e

/-- What can be checked of the ASCII characters one by one holds of each of them. -/
theorem forall_ascii {P : Char → Prop} (all : ∀ n < 0x80, P (.ofNat n)) {c : Char}
    (ascii : c.toNat < 0x80) : P c := by
  rw [← Char.ofNat_toNat c]
  exact all _ ascii

theorem ascii_of_isAlphanum {c : Char} (h : c.isAlphanum = true) : c.toNat < 0x80 := by
  have bound (d : Char) (le : c.val ≤ d.val) (small : d.toNat < 0x80) : c.toNat < 0x80 :=
    lt_of_le_of_lt le small
  obtain letter | digit := Bool.or_eq_true_iff.1 h
  · obtain upper | lower := Bool.or_eq_true_iff.1 letter
    · have between : 'A'.val ≤ c.val ∧ c.val ≤ 'Z'.val := of_decide_eq_true upper
      exact bound 'Z' between.2 (by decide)
    · exact bound 'z' (of_decide_eq_true (Bool.and_eq_true_iff.1 lower).2) (by decide)
  · exact bound '9' (of_decide_eq_true (Bool.and_eq_true_iff.1 digit).2) (by decide)

theorem isPrintable_of_isAlphanum {c : Char} (h : c.isAlphanum = true) :
    isPrintable c = true := by
  have all : ∀ n < 0x80, (Char.ofNat n).isAlphanum = true → isPrintable (.ofNat n) = true := by
    decide +kernel
  exact forall_ascii (P := fun c => c.isAlphanum = true → isPrintable c = true) all
    (ascii_of_isAlphanum h) h

theorem isAlphanum_hexDigit (n : ℕ) : (hexDigit (n % 16)).isAlphanum = true := by
  have : ∀ d < 16, (hexDigit d).isAlphanum = true := by decide
  exact this _ (Nat.mod_lt n (by decide))

theorem mem_unitEscape {n : ℕ} {d : Char} (h : d ∈ unitEscape n) :
    d = '\\' ∨ d.isAlphanum = true := by
  simp only [unitEscape_eq, List.mem_cons, List.not_mem_nil, or_false] at h
  rcases h with rfl | rfl | rfl | rfl | rfl | rfl
  · exact .inl rfl
  · exact .inr rfl
  all_goals exact .inr (isAlphanum_hexDigit _)

theorem mem_charEscape {c d : Char} (h : d ∈ charEscape c) : d = '\\' ∨ d.isAlphanum = true := by
  unfold charEscape at h
  dsimp only at h
  split_ifs at h
  · exact mem_unitEscape h
  · exact (List.mem_append.1 h).elim mem_unitEscape mem_unitEscape

theorem isPrintable_of_mem_stringChar {c d : Char} (h : d ∈ stringChar true c) :
    isPrintable d = true := by
  rcases stringChar_cases c with ⟨e, short, written⟩ | written | ⟨plain, small, written⟩
  · rw [written] at h
    have : e ∈ ['"', '\\', '/', 'b', 'f', 'n', 'r', 't'] := by
      unfold shortEscape? at short
      split at short <;> simp at short ⊢
    simp only [List.mem_cons, List.not_mem_nil, or_false] at h this
    rcases h with rfl | rfl
    · rfl
    · rcases this with rfl | rfl | rfl | rfl | rfl | rfl | rfl | rfl <;> rfl
  · rw [written] at h
    rcases mem_charEscape h with rfl | h
    · rfl
    · exact isPrintable_of_isAlphanum h
  · rw [written, List.mem_singleton] at h
    subst h
    have : (0x20 ≤ d.toNat ∧ d ≠ '"') ∧ d ≠ '\\' := by simpa [isPlain] using plain
    simp [isPrintable, this.1.1, small]

theorem isPrintable_renderString (s : String) :
    ∀ c ∈ renderString true s, isPrintable c = true := by
  intro c h
  rw [renderString, List.mem_append, List.mem_cons, List.mem_flatMap, List.mem_singleton] at h
  rcases h with (rfl | ⟨d, -, h⟩) | rfl
  · rfl
  · exact isPrintable_of_mem_stringChar h
  · rfl

/-! ## Joining the pieces -/

theorem joinPieces_unit {n : ℕ} {ps : List Piece}
    (apart : ∀ low rest, ps = .unit low :: rest → (opensPair n && closesPair low) = false) :
    joinPieces (.unit n :: ps) = ofUnit n :: joinPieces ps := by
  match ps with
  | [] => rfl
  | .shown c :: rest => rfl
  | .unit low :: rest =>
    rw [joinPieces, apart low rest rfl]
    rfl

theorem joinPieces_pair {high low : ℕ} (opens : opensPair high = true)
    (closes : closesPair low = true) (ps : List Piece) :
    joinPieces (.unit high :: .unit low :: ps) = ofPair high low :: joinPieces ps := by
  rw [joinPieces, opens, closes]
  rfl

/-- The pieces of a text that begin with a low half are those of a text that does. -/
theorem closesPair_of_head {cs : List Char} {low : ℕ} {rest : List Piece}
    (h : cs.flatMap charPieces = .unit low :: rest) (closes : closesPair low = true) :
    ∃ c tail, cs = c :: tail ∧ closesPair (codePoint c) = true := by
  cases cs with
  | nil => simp at h
  | cons c tail =>
    refine ⟨c, tail, rfl, ?_⟩
    rw [List.flatMap_cons, charPieces] at h
    unfold escapePieces at h
    dsimp only at h
    split_ifs at h with written small
    · obtain ⟨rfl, -⟩ : codePoint c = low ∧ _ := by simpa using h
      exact closes
    · obtain ⟨rfl, -⟩ : _ = low ∧ _ := by simpa using h
      have := codePoint_lt c
      simp only [closesPair, Bool.and_eq_true, decide_eq_true_eq] at closes
      omega
    · simp at h

theorem joinPieces_apart {c : Char} {ps : List Piece}
    (apart : ∀ low rest, ps = .unit low :: rest →
      (opensPair (codePoint c) && closesPair low) = false) :
    joinPieces (charPieces c ++ ps) = c :: joinPieces ps := by
  rw [charPieces]
  unfold escapePieces
  dsimp only
  split_ifs with written small
  · rw [List.singleton_append, joinPieces_unit apart, ofUnit_codePoint]
  · have := codePoint_lt c
    rw [List.cons_append, List.singleton_append, joinPieces_pair, ofPair_halves (by omega)]
    · simp only [opensPair, Bool.and_eq_true, decide_eq_true_eq]
      omega
    · simp only [closesPair, Bool.and_eq_true, decide_eq_true_eq]
      omega
  · rfl

/-- A half is written by its unit. -/
theorem charPieces_half {c : Char} (h : isHalf (codePoint c) = true) :
    charPieces c = [.unit (codePoint c)] := by
  have half : 0xd800 ≤ codePoint c ∧ codePoint c < 0xe000 := by simpa [isHalf] using h
  have large : 0xd800 ≤ c.toNat := by
    have := half.1
    unfold codePoint at this
    split_ifs at this <;> omega
  have written : stringChar true c = charEscape c := by
    rcases stringChar_cases c with ⟨e, short, -⟩ | written | ⟨-, small, -⟩
    · have := ascii_of_shortEscape short
      omega
    · exact written
    · omega
  rw [charPieces, if_pos written, escapePieces, if_pos (by omega)]

/-- A pair stands for a character beyond those of one unit. -/
theorem le_toNat_ofPair {high low : ℕ} (opens : opensPair high = true)
    (closes : closesPair low = true) : 0x10000 ≤ (ofPair high low).toNat := by
  simp only [opensPair, closesPair, Bool.and_eq_true, decide_eq_true_eq] at opens closes
  have valid : Nat.isValidChar (0x10000 + (high - 0xd800) * 0x400 + (low - 0xdc00)) :=
    Or.inr ⟨by omega, by omega⟩
  have written : Char.ofNat (0x10000 + (high - 0xd800) * 0x400 + (low - 0xdc00)) =
      Char.ofNatAux _ valid := dif_pos valid
  have value : (Char.ofNatAux _ valid).toNat =
      0x10000 + (high - 0xd800) * 0x400 + (low - 0xdc00) := rfl
  rw [ofPair, written, value]
  omega

/-- The first character is read for itself, unless it is a high half and a low half comes next;
the two are read as a character that is none of one unit. -/
theorem joinPieces_cons (c : Char) (cs : List Char) :
    (splitsPair (c :: cs) = splitsPair cs ∧
        joinPieces ((c :: cs).flatMap charPieces) = c :: joinPieces (cs.flatMap charPieces)) ∨
      ∃ d rest both, cs = d :: rest ∧ splitsPair (c :: cs) = true ∧ 0x10000 ≤ both.toNat ∧
        joinPieces ((c :: cs).flatMap charPieces) =
          both :: joinPieces (rest.flatMap charPieces) := by
  by_cases pair : ∃ d rest, cs = d :: rest ∧ opensPair (codePoint c) = true ∧
      closesPair (codePoint d) = true
  · obtain ⟨d, rest, rfl, opens, closes⟩ := pair
    have high : isHalf (codePoint c) = true := by
      simp only [opensPair, isHalf, Bool.and_eq_true, decide_eq_true_eq] at opens ⊢
      omega
    have low : isHalf (codePoint d) = true := by
      simp only [closesPair, isHalf, Bool.and_eq_true, decide_eq_true_eq] at closes ⊢
      omega
    refine .inr ⟨d, rest, ofPair (codePoint c) (codePoint d), rfl,
      by simp [splitsPair, opens, closes], le_toNat_ofPair opens closes, ?_⟩
    rw [List.flatMap_cons, List.flatMap_cons, charPieces_half high, charPieces_half low]
    exact joinPieces_pair opens closes _
  · refine .inl ⟨?_, joinPieces_apart fun low rest h => ?_⟩
    · cases cs with
      | nil => rfl
      | cons d rest =>
        have apart : (opensPair (codePoint c) && closesPair (codePoint d)) = false :=
          Bool.eq_false_iff.2 fun h => pair ⟨d, rest, rfl, by simpa using h⟩
        rw [splitsPair, apart, Bool.false_or]
    · by_contra split
      obtain ⟨opens, closes⟩ : opensPair (codePoint c) = true ∧ closesPair low = true := by
        simpa using split
      obtain ⟨d, tail, e, closes⟩ := closesPair_of_head h closes
      exact pair ⟨d, tail, e, opens, closes⟩

theorem length_joinPieces (cs : List Char) :
    (joinPieces (cs.flatMap charPieces)).length ≤ cs.length ∧
      (splitsPair cs = true → (joinPieces (cs.flatMap charPieces)).length < cs.length) := by
  induction hn : cs.length using Nat.strong_induction_on generalizing cs with
  | _ n ih =>
    subst hn
    match cs with
    | [] => simp [splitsPair, joinPieces]
    | c :: cs =>
      rcases joinPieces_cons c cs with ⟨same, read⟩ | ⟨d, rest, both, rfl, -, -, read⟩
      · obtain ⟨le, lt⟩ := ih cs.length (by simp) cs rfl
        rw [read, same, List.length_cons, List.length_cons]
        exact ⟨Nat.succ_le_succ le, fun h => Nat.succ_lt_succ (lt h)⟩
      · have shorter : rest.length < (c :: d :: rest).length := by
          rw [List.length_cons, List.length_cons]
          omega
        have le := (ih rest.length shorter rest rfl).1
        rw [read]
        simp only [List.length_cons]
        omega

/-- What a text becomes when it is written and read: a high half and a low half that comes next
become one character. -/
def rejoin (s : String) : String := .ofList (joinPieces (s.toList.flatMap charPieces))

theorem joinPieces_charPieces {cs : List Char} (whole : splitsPair cs = false) :
    joinPieces (cs.flatMap charPieces) = cs := by
  induction cs with
  | nil => rfl
  | cons c cs ih =>
    rcases joinPieces_cons c cs with ⟨same, read⟩ | ⟨_, _, _, -, split, -⟩
    · rw [read, ih (same ▸ whole)]
    · rw [split] at whole
      cases whole

/-- A pair of halves leaves a trace: it is read as a character that no unit stands for. -/
theorem exists_large_of_splitsPair {cs : List Char} (split : splitsPair cs = true) :
    ∃ c ∈ joinPieces (cs.flatMap charPieces), 0x10000 ≤ c.toNat := by
  induction cs with
  | nil => cases split
  | cons c cs ih =>
    rcases joinPieces_cons c cs with ⟨same, read⟩ | ⟨_, _, both, -, -, large, read⟩
    · obtain ⟨found, mem, large⟩ := ih (same ▸ split)
      exact ⟨found, read ▸ List.mem_cons_of_mem _ mem, large⟩
    · exact ⟨both, read ▸ List.mem_cons_self, large⟩

theorem rejoin_of_whole {s : String} (whole : splitsPair s.toList = false) : rejoin s = s := by
  rw [rejoin, joinPieces_charPieces whole, String.ofList_toList]

theorem length_rejoin (s : String) : (rejoin s).length ≤ s.length ∧
    (splitsPair s.toList = true → (rejoin s).length < s.length) := by
  have := length_joinPieces s.toList
  rwa [← String.length_toList, ← String.length_toList, rejoin, String.toList_ofList]

theorem rejoin_eq_iff {s : String} : rejoin s = s ↔ Text.splitsPair s.toList = false := by
  refine ⟨fun same => ?_, rejoin_of_whole⟩
  by_contra pair
  have shorter := (length_rejoin s).2 (by simpa using pair)
  rw [same] at shorter
  exact absurd shorter (lt_irrefl _)

/-- Nothing but an ASCII text itself becomes one. -/
theorem rejoin_eq_iff_of_ascii {s t : String} (ascii : ∀ c ∈ t.toList, c.toNat < 0x80) :
    rejoin s = t ↔ s = t := by
  cases split : splitsPair s.toList with
  | false => rw [rejoin_of_whole split]
  | true =>
    refine ⟨fun same => ?_, fun same => ?_⟩
    · obtain ⟨c, mem, large⟩ := exists_large_of_splitsPair split
      rw [← same, rejoin, String.toList_ofList] at ascii
      exact absurd (ascii c mem) (by omega)
    · rw [same, splitsPair_of_ascii ascii] at split
      cases split

/-! ## Strings that can be read and strings that cannot -/

/-- The characters are a string with its marks that reads as `s`. -/
def Reads (cs : List Char) (s : String) : Prop :=
  ∃ inside, cs = '"' :: inside ∧ ∀ opening rest, readString opening (inside ++ rest) = .ok (s, rest)

/-- The characters are a string with its marks that cannot be read. -/
def Refused (cs : List Char) : Prop :=
  ∃ inside, cs = '"' :: inside ∧
    ∀ opening rest, ∃ refusal, readString opening (inside ++ rest) = .error refusal

theorem Spelled.reads {cs : List Char} {ps : List Piece} (h : Spelled cs ps) :
    Reads ('"' :: cs ++ ['"']) (.ofList (joinPieces ps)) := by
  refine ⟨cs ++ ['"'], rfl, fun opening rest => ?_⟩
  rw [readString, List.append_assoc, h opening _ (by simp), List.singleton_append, readPieces.eq_2]
  simp [Except.map]

/-- A string that was written is read as what its pieces join to. -/
theorem reads_renderString (s : String) : Reads (renderString true s) (rejoin s) :=
  (Spelled.flatMap fun c _ => spelled_stringChar c).reads

end Json

end ElasticPanels

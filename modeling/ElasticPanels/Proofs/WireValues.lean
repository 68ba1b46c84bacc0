import ElasticPanels.Proofs.JsonLayout
import ElasticPanels.Proofs.Outcomes

/-!
# Values that a text gives

`Json.IsWire` says that a value is such as reading a text gives: each object has its keys once, and
a text can hold its numbers, which are short if they are whole (`IsShort`) and in canonical form if
they are not.  Whatever `Json.read` gives is such a value (`Json.isWire_read`).
-/

namespace ElasticPanels

/-! ## Values that a text gives -/

namespace Json

/-- A value such as reading a text gives. -/
structure IsWire (v : Json) : Prop where
  wellFormed : v.WellFormed
  legible : v.Legible

theorem IsWire.str (s : String) : IsWire (.str s) := ⟨.str s, .str s⟩

theorem IsWire.bool (b : Bool) : IsWire (.bool b) := ⟨.bool b, .bool b⟩

theorem IsWire.null : IsWire .null := ⟨.null, .null⟩

theorem IsWire.ofText? (text : Option String) : IsWire (.ofText? text) := by
  cases text with
  | none => exact .null
  | some s => exact .str s

theorem IsWire.int {n : ℤ} (short : (Nat.toDigits 10 n.natAbs).length ≤ Numeral.digitLimit) :
    IsWire (.int n) := ⟨.int n, .int short⟩

theorem IsWire.arr {items : List Json} (h : ∀ item ∈ items, IsWire item) : IsWire (.arr items) :=
  ⟨.arr fun item hi => (h item hi).wellFormed, .arr fun item hi => (h item hi).legible⟩

theorem IsWire.obj {fields : List (String × Json)} (keys : (fields.map Prod.fst).Nodup)
    (h : ∀ field ∈ fields, IsWire field.2) : IsWire (.obj fields) :=
  ⟨.obj keys fun field hf => (h field hf).wellFormed, .obj fun field hf => (h field hf).legible⟩

theorem IsWire.of_mem_arr {items : List Json} (h : IsWire (.arr items)) {item : Json}
    (hi : item ∈ items) : IsWire item := by
  obtain ⟨wellFormed, legible⟩ := h
  cases wellFormed with
  | arr wellFormed =>
    cases legible with
    | arr legible => exact ⟨wellFormed item hi, legible item hi⟩

theorem IsWire.of_mem_obj {fields : List (String × Json)} (h : IsWire (.obj fields))
    {field : String × Json} (hf : field ∈ fields) : IsWire field.2 := by
  obtain ⟨wellFormed, legible⟩ := h
  cases wellFormed with
  | obj _ wellFormed =>
    cases legible with
    | obj legible => exact ⟨wellFormed field hf, legible field hf⟩

theorem IsWire.of_entry {v found : Json} (h : IsWire v) {key : String}
    (e : v.entry key = .ok found) : IsWire found := by
  match v with
  | .obj fields =>
    simp only [Json.entry] at e
    split at e
    · rename_i same
      obtain rfl := Except.ok.inj e
      exact h.of_mem_obj (Entries.mem_of_get? same)
    · cases e

theorem IsWire.of_walk {v : Json} (h : IsWire v) {items : List Json} (e : v.walk = .ok items) :
    ∀ item ∈ items, IsWire item := by
  match v with
  | .arr items =>
    obtain rfl := Except.ok.inj e
    intro item hi
    exact h.of_mem_arr hi
  | .str s =>
    obtain rfl := Except.ok.inj e
    exact List.forall_mem_map.2 fun c _ => .str _
  | .obj fields =>
    obtain rfl := Except.ok.inj e
    exact List.forall_mem_map.2 fun field _ => .str _

/-- An object with a single entry. -/
theorem IsWire.entry {value : Json} (key : String) (h : IsWire value) :
    IsWire (.obj [(key, value)]) := .obj (by simp) (by simpa using h)

end Json

/-! ## Short numbers -/

/-- Whether a text can hold a whole number. -/
def IsShort (n : ℤ) : Prop := (Nat.toDigits 10 n.natAbs).length ≤ Numeral.digitLimit

instance : DecidablePred IsShort := fun _ => inferInstanceAs (Decidable (_ ≤ _))

theorem isShort_iff {n : ℤ} : IsShort n ↔ n.natAbs < 10 ^ Numeral.digitLimit :=
  Nat.length_toDigits_le_iff (by decide) (by decide)

theorem isShort_of_lt {n : ℤ} {digits : ℕ} (h : n.natAbs < 10 ^ digits)
    (le : digits ≤ Numeral.digitLimit) : IsShort n :=
  isShort_iff.2 (lt_of_lt_of_le h (Nat.pow_le_pow_right (by decide) le))

theorem Numeral.value_lt {ds : List ℕ} (h : ∀ d ∈ ds, d < 10) :
    Numeral.value ds < 10 ^ ds.length := by
  have all (n : ℕ) : ds.foldl (fun n d => 10 * n + d) n < (n + 1) * 10 ^ ds.length := by
    induction ds generalizing n with
    | nil => simp
    | cons d ds ih =>
      have first := h d (by simp)
      calc (d :: ds).foldl (fun n d => 10 * n + d) n
          < (10 * n + d + 1) * 10 ^ ds.length := ih (fun e he => h e (by simp [he])) (10 * n + d)
        _ ≤ (10 * (n + 1)) * 10 ^ ds.length := Nat.mul_le_mul_right _ (by omega)
        _ = (n + 1) * 10 ^ (d :: ds).length := by rw [List.length_cons, pow_succ]; ring
  simpa [Numeral.value] using all 0

theorem Text.digitValue?_lt {c : Char} {d : ℕ} (h : Text.digitValue? c = some d) : d < 10 := by
  unfold Text.digitValue? at h
  split at h
  · rename_i e ascii
    obtain rfl : e = d := Option.some.inj h
    unfold Text.asciiDigit? at ascii
    split_ifs at ascii with digit
    have bounds : c.toNat ≤ 57 := by
      simp only [Char.isDigit, Bool.and_eq_true, decide_eq_true_eq] at digit
      exact digit.2
    obtain rfl : c.toNat - '0'.toNat = e := by simpa using ascii
    have : '0'.toNat = 48 := rfl
    omega
  · obtain ⟨z, hz, rfl⟩ := Option.map_eq_some_iff.1 h
    have := List.find?_some hz
    simp at this
    omega

theorem Numeral.moreDigits_lt {digit? : Char → Option ℕ} (h : ∀ c d, digit? c = some d → d < 10)
    (cs : List Char) : ∀ d ∈ (Numeral.moreDigits digit? cs).1, d < 10 := by
  fun_induction Numeral.moreDigits digit? cs with
  | case1 => simp
  | case2 c rest d found ds after e ih =>
    rw [e] at ih
    exact List.forall_mem_cons.2 ⟨h c d found, ih⟩
  | case3 => simp
  | case4 c rest _ d found ds after e ih =>
    rw [e] at ih
    exact List.forall_mem_cons.2 ⟨h c d found, ih⟩
  | case5 => simp

theorem Numeral.digitRun_lt {digit? : Char → Option ℕ} (h : ∀ c d, digit? c = some d → d < 10)
    (cs : List Char) : ∀ d ∈ (Numeral.digitRun digit? cs).1, d < 10 := by
  unfold Numeral.digitRun
  split
  · simp
  · rename_i c rest
    split
    · rename_i d found
      exact List.forall_mem_cons.2 ⟨h c d found, Numeral.moreDigits_lt h rest⟩
    · simp

theorem isShort_signed (negative : Bool) {ds : List ℕ} (h : ∀ d ∈ ds, d < 10)
    (short : ds.length ≤ Numeral.digitLimit) : IsShort (Numeral.signed negative ds) := by
  refine isShort_of_lt ?_ short
  rw [Numeral.signed]
  split_ifs
  · simpa using Numeral.value_lt h
  · simpa using Numeral.value_lt h

theorem isShort_readWhole {s : String} {n : ℤ} (h : Numeral.readWhole s = .ok n) : IsShort n := by
  unfold Numeral.readWhole at h
  dsimp only at h
  split_ifs at h with _ long _
  obtain rfl := Except.ok.inj h
  exact isShort_signed _ (Numeral.digitRun_lt (fun c d => Text.digitValue?_lt) _)
    (Nat.not_lt.1 long)

theorem scaled_lt {m k n : ℕ} (hm : m < Binary64.twoTo 53) (hk : k ≤ n) :
    m * Binary64.twoTo k < 10 ^ (53 + n) := by
  calc m * Binary64.twoTo k < 2 ^ 53 * 2 ^ n :=
        Nat.mul_lt_mul_of_lt_of_le hm (Nat.pow_le_pow_right (by decide) hk) (by positivity)
    _ = 2 ^ (53 + n) := (pow_add 2 53 n).symm
    _ ≤ 10 ^ (53 + n) := Nat.pow_le_pow_left (by decide) _

/-- A text can hold the whole part of a floating-point number. -/
theorem isShort_truncate {x : Binary64} (canonical : x.Canonical) {n : ℤ}
    (h : x.truncate? = some n) : IsShort n := by
  match x with
  | .finite negative m q =>
    obtain ⟨hm, -, hq, -⟩ := canonical
    have size := lt_of_le_of_lt (Nat.div_le_self _ (Binary64.twoTo (-q).toNat))
      (scaled_lt hm (by omega : q.toNat ≤ 971))
    obtain rfl := Option.some.inj h
    refine isShort_of_lt ?_ (by decide : 53 + 971 ≤ Numeral.digitLimit)
    split_ifs
    · rwa [Int.natAbs_neg, Int.natAbs_natCast]
    · rwa [Int.natAbs_natCast]

/-- A setting that stands for a whole number stands for one that a text can hold. -/
theorem isShort_wholeNumber {v : Json} (legible : v.Legible) {n : ℤ}
    (h : v.wholeNumber = .ok n) : IsShort n := by
  unfold Json.wholeNumber at h
  split at h
  · obtain rfl := Except.ok.inj h
    cases legible with
    | int short => exact short
  · obtain rfl := Except.ok.inj h
    split_ifs <;> exact isShort_of_lt (by decide : _ < 10 ^ 1) (by decide)
  · cases h
  · cases legible with
    | float canonical =>
      split at h
      · rename_i e
        obtain rfl := Except.ok.inj h
        exact isShort_truncate canonical e
      · cases h
  · split at h
    · rename_i e
      obtain rfl := Except.ok.inj h
      exact isShort_readWhole e
    all_goals cases h
  · cases h

/-! ## What the reader gives -/

namespace Json

theorem IsWire.float {x : Binary64} (canonical : x.Canonical) : IsWire (.float x) :=
  ⟨.float x, .float canonical⟩

theorem digitsValue_lt {ds : List Char} (digits : ∀ c ∈ ds, c.isDigit = true) :
    digitsValue ds < 10 ^ ds.length := by
  have value : digitsValue ds = Numeral.value (ds.map fun c => c.toNat - '0'.toNat) := by
    rw [Numeral.value, List.foldl_map]
    rfl
  rw [value, ← List.length_map (fun c : Char => c.toNat - '0'.toNat)]
  apply Numeral.value_lt
  rw [List.forall_mem_map]
  intro c hc
  have bound : c.toNat ≤ 57 := by
    have := digits c hc
    simp only [Char.isDigit, Bool.and_eq_true, decide_eq_true_eq] at this
    exact this.2
  have : '0'.toNat = 48 := rfl
  omega

theorem isDigit_of_mem_readWholePart {cs : List Char} :
    ∀ c ∈ (readWholePart cs).1, c.isDigit = true := by
  unfold readWholePart
  split
  · simp
  · exact fun c hc => List.mem_takeWhile_imp hc

theorem isWire_readMagnitude {start cs rest : List Char} {negative : Bool} {v : Json}
    (h : readMagnitude start negative cs = .ok (v, rest)) : IsWire v := by
  unfold readMagnitude at h
  dsimp only at h
  have size : digitsValue (readWholePart cs).1 < 10 ^ (readWholePart cs).1.length :=
    digitsValue_lt isDigit_of_mem_readWholePart
  split_ifs at h with _ whole long sign
  · obtain ⟨rfl, -⟩ := Prod.mk.inj (Except.ok.inj h)
    apply IsWire.int (isShort_of_lt _ (not_lt.1 long))
    rwa [Int.natAbs_neg, Int.natAbs_natCast]
  · obtain ⟨rfl, -⟩ := Prod.mk.inj (Except.ok.inj h)
    apply IsWire.int (isShort_of_lt _ (not_lt.1 long))
    rwa [Int.natAbs_natCast]
  · obtain ⟨rfl, -⟩ := Prod.mk.inj (Except.ok.inj h)
    exact .float (Binary64.canonical_ofDecimal _ _ _)

theorem isWire_readScalar {cs rest : List Char} {v : Json}
    (h : readScalar cs = .ok (v, rest)) : IsWire v := by
  unfold readScalar at h
  split at h
  · rename_i word value found
    obtain ⟨rfl, -⟩ := Prod.mk.inj (Except.ok.inj h)
    have all : ∀ word ∈ wordValues, IsWire word.2 := by
      simp only [wordValues, List.forall_mem_cons]
      exact ⟨.null, .bool true, .bool false, .float trivial, .float trivial, .float trivial,
        by simp⟩
    exact all _ (List.mem_of_find?_eq_some found)
  · split at h
    · exact isWire_readMagnitude h
    · exact isWire_readMagnitude h

section Parts

variable {fuel : ℕ}

theorem isWire_readValue
    (items : ∀ cs is rest, readItems Entries.ofPairs fuel cs = .ok (is, rest) →
      ∀ item ∈ is, IsWire item)
    (fields : ∀ cs fs rest, readFields Entries.ofPairs fuel cs = .ok (fs, rest) →
      ∀ field ∈ fs, IsWire field.2)
    {cs rest : List Char} {v : Json}
    (h : readValue Entries.ofPairs (fuel + 1) cs = .ok (v, rest)) : IsWire v := by
  unfold readValue at h
  split at h
  · obtain ⟨⟨s, after⟩, -, same⟩ := Outcome.map_eq_ok.1 h
    obtain ⟨rfl, -⟩ := Prod.mk.inj same
    exact .str s
  · split at h
    · obtain ⟨rfl, -⟩ := Prod.mk.inj (Except.ok.inj h)
      exact .arr (by simp)
    · obtain ⟨⟨is, after⟩, read, same⟩ := Outcome.map_eq_ok.1 h
      obtain ⟨rfl, -⟩ := Prod.mk.inj same
      exact .arr (items _ _ _ read)
  · split at h
    · obtain ⟨rfl, -⟩ := Prod.mk.inj (Except.ok.inj h)
      exact .obj (by simp) (by simp)
    · obtain ⟨⟨fs, after⟩, read, same⟩ := Outcome.map_eq_ok.1 h
      obtain ⟨rfl, -⟩ := Prod.mk.inj same
      obtain ⟨keys, mem⟩ := Entries.ofPairs_spec fs
      exact .obj keys fun field hf => fields _ _ _ read field (mem field hf)
  · exact isWire_readScalar h

theorem isWire_readItems
    (value : ∀ cs v rest, readValue Entries.ofPairs fuel cs = .ok (v, rest) → IsWire v)
    (items : ∀ cs is rest, readItems Entries.ofPairs fuel cs = .ok (is, rest) →
      ∀ item ∈ is, IsWire item)
    {cs rest : List Char} {is : List Json}
    (h : readItems Entries.ofPairs (fuel + 1) cs = .ok (is, rest)) : ∀ item ∈ is, IsWire item := by
  unfold readItems at h
  obtain ⟨⟨item, after⟩, read, h⟩ := Outcome.bind_eq_ok.1 h
  have first := value _ _ _ read
  dsimp only at h
  split at h
  · obtain ⟨rfl, -⟩ := Prod.mk.inj (Outcome.pure_eq_ok.1 h)
    simpa using first
  · obtain ⟨⟨others, after⟩, read, h⟩ := Outcome.bind_eq_ok.1 h
    obtain ⟨rfl, -⟩ := Prod.mk.inj (Outcome.pure_eq_ok.1 h)
    exact List.forall_mem_cons.2 ⟨first, items _ _ _ read⟩
  · cases h

theorem isWire_readFields
    (value : ∀ cs v rest, readValue Entries.ofPairs fuel cs = .ok (v, rest) → IsWire v)
    (fields : ∀ cs fs rest, readFields Entries.ofPairs fuel cs = .ok (fs, rest) →
      ∀ field ∈ fs, IsWire field.2)
    {cs rest : List Char} {fs : List (String × Json)}
    (h : readFields Entries.ofPairs (fuel + 1) cs = .ok (fs, rest)) :
    ∀ field ∈ fs, IsWire field.2 := by
  unfold readFields at h
  split at h
  · obtain ⟨⟨key, after⟩, -, h⟩ := Outcome.bind_eq_ok.1 h
    dsimp only at h
    split at h
    · obtain ⟨⟨v, after⟩, read, h⟩ := Outcome.bind_eq_ok.1 h
      have first := value _ _ _ read
      dsimp only at h
      split at h
      · obtain ⟨rfl, -⟩ := Prod.mk.inj (Outcome.pure_eq_ok.1 h)
        simpa using first
      · obtain ⟨⟨others, after⟩, read, h⟩ := Outcome.bind_eq_ok.1 h
        obtain ⟨rfl, -⟩ := Prod.mk.inj (Outcome.pure_eq_ok.1 h)
        exact List.forall_mem_cons.2 ⟨first, fields _ _ _ read⟩
      · cases h
    · cases h
  · cases h

end Parts

/-- The readers of values, items and entries call each other with less fuel. -/
theorem isWire_readParts (fuel : ℕ) :
    (∀ cs v rest, readValue Entries.ofPairs fuel cs = .ok (v, rest) → IsWire v) ∧
      (∀ cs is rest, readItems Entries.ofPairs fuel cs = .ok (is, rest) →
        ∀ item ∈ is, IsWire item) ∧
      ∀ cs fs rest, readFields Entries.ofPairs fuel cs = .ok (fs, rest) →
        ∀ field ∈ fs, IsWire field.2 := by
  induction fuel with
  | zero => refine ⟨?_, ?_, ?_⟩ <;> intro _ _ _ h <;> cases h
  | succ fuel ih =>
    obtain ⟨value, items, fields⟩ := ih
    exact ⟨fun _ _ _ => isWire_readValue items fields, fun _ _ _ => isWire_readItems value items,
      fun _ _ _ => isWire_readFields value fields⟩

theorem isWire_readDocument {cs : List Char} {v : Json}
    (h : readDocument Entries.ofPairs cs = .ok v) : IsWire v := by
  unfold readDocument at h
  dsimp only at h
  cases read : readValue Entries.ofPairs (2 * cs.length + 1) (skipGaps cs) with
  | error refusal =>
    rw [read] at h
    cases h
  | ok found =>
    have wire := (isWire_readParts _).1 _ _ _ read
    rw [read] at h
    simp only [bind, Except.bind] at h
    split at h
    · obtain rfl := Except.ok.inj h
      exact wire
    · cases h

/-- What is read from a text is such a value. -/
theorem isWire_read {s : String} {v : Json} (h : read s = .ok v) : IsWire v := by
  unfold read readText at h
  split at h
  · cases h
  · exact isWire_readDocument h

theorem isWire_readBody {s : String} {v : Json} (h : readBody s = .ok v) : IsWire v := by
  unfold readBody at h
  split at h
  · exact isWire_readDocument h
  · cases h

end Json

end ElasticPanels

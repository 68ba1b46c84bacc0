import ElasticPanels.Proofs.JsonLayout

/-!
# Values in JSON texts

If each text of a value is written so that it reads as another one, the whole is read as the value
with its texts replaced (`readText_spell`); if one of them cannot be read, neither can the whole
(`readText_refused`).  So a value that was written with spaces is read back unless one of its texts
is not (`read_spacedText_iff`), and with its objects as lists of entries too
(`readPairs_spacedText`).  The readers of items and entries call the reader of values, so the
statements about them take that of the parts as a premise (`IsRead`, `IsRefused`), and the induction
is on the value.
-/

namespace ElasticPanels.Json

/-! ## How a value begins -/

theorem skipGaps_cons {c : Char} (h : isGap c = false) (cs : List Char) :
    skipGaps (c :: cs) = c :: cs := by simp [skipGaps, h]

theorem skipGaps_space (cs : List Char) : skipGaps (' ' :: cs) = skipGaps cs := by
  simp [skipGaps, isGap]

/-- A text that begins with no gap, no closing mark and no byte order mark. -/
def Opens (cs : List Char) : Prop :=
  ∃ c tail, cs = c :: tail ∧ isGap c = false ∧ c ≠ ']' ∧ c ≠ '\x7d' ∧ c ≠ '\ufeff'

theorem Opens.append {cs : List Char} (h : Opens cs) (rest : List Char) : Opens (cs ++ rest) := by
  obtain ⟨c, tail, rfl, facts⟩ := h
  exact ⟨c, tail ++ rest, rfl, facts⟩

theorem Opens.skipGaps {cs : List Char} (h : Opens cs) : skipGaps cs = cs := by
  obtain ⟨c, tail, rfl, gap, -⟩ := h
  exact skipGaps_cons gap tail

/-- Whether a character may begin a word or a number. -/
def opensScalar (c : Char) : Bool := opensNumber c || "ntfNI".toList.contains c

theorem opens_of_opensScalar {c : Char} (h : opensScalar c = true) (tail : List Char) :
    Opens (c :: tail) := by
  have ne (d : Char) (other : opensScalar d = false) : c ≠ d := (Text.ne_of_class other h).symm
  refine ⟨c, tail, rfl, ?_, ne _ rfl, ne _ rfl, ne _ rfl⟩
  simp [isGap, ne ' ' rfl, ne '\t' rfl, ne '\n' rfl, ne '\r' rfl]

theorem IsScalar.render_eq_cons {v : Json} (h : IsScalar v) (legible : Legible v) :
    ∃ c tail, v.render .spaced = c :: tail ∧ opensScalar c = true := by
  have number {cs : List Char} :
      (∃ c tail, cs = c :: tail ∧ opensNumber c = true) →
        ∃ c tail, cs = c :: tail ∧ opensScalar c = true :=
    fun ⟨c, tail, e, opens⟩ => ⟨c, tail, e, by simp [opensScalar, opens]⟩
  cases h with
  | null => exact ⟨'n', _, rfl, rfl⟩
  | bool b => cases b <;> exact ⟨_, _, rfl, rfl⟩
  | int n => exact number (renderInt_eq_cons n)
  | float x =>
    cases legible with
    | float canonical =>
      match x with
      | .nan => exact ⟨'N', _, rfl, rfl⟩
      | .infinite false => exact ⟨'I', _, rfl, rfl⟩
      | .infinite true => exact ⟨'-', _, rfl, rfl⟩
      | .finite negative m q => exact number (renderFloat_eq_cons canonical)

theorem IsScalar.readScalar {v : Json} (h : IsScalar v) (legible : Legible v) {rest : List Char}
    (ends : EndsNumeral rest) : readScalar (v.render .spaced ++ rest) = .ok (v, rest) := by
  cases h with
  | null => simp [Json.readScalar, wordValues, render]
  | bool b => cases b <;> simp [Json.readScalar, wordValues, render]
  | int n =>
    cases legible with
    | int short => exact readScalar_renderInt ends short
  | float x =>
    cases legible with
    | float canonical => exact readScalar_renderFloat ends canonical

/-! ## Steps of the readers -/

section Steps

variable {gather : Gather} {fuel : ℕ} {cs inside next rest : List Char} {key : String}
  {value : Json} {refusal : Refusal}

theorem readValue_scalar {c : Char} (h : opensScalar c = true) (tail : List Char) :
    readValue gather (fuel + 1) (c :: tail) = readScalar (c :: tail) := by
  have ne (d : Char) (other : opensScalar d = false) : c ≠ d := (Text.ne_of_class other h).symm
  have := ne '"' rfl
  have := ne '[' rfl
  have := ne '{' rfl
  rw [readValue.eq_def]
  simp only
  split <;> simp_all

theorem readValue_items (opens : Opens cs) :
    readValue gather (fuel + 1) ('[' :: cs) =
      (readItems gather fuel cs).map fun (items, after) => (.arr items, after) := by
  obtain ⟨c, tail, rfl, gap, close, -⟩ := opens
  simp [readValue, skipGaps_cons gap, close]

theorem readValue_fields (opens : Opens cs) :
    readValue gather (fuel + 1) ('{' :: cs) =
      (readFields gather fuel cs).map fun (fields, after) => (.obj (gather fields), after) := by
  obtain ⟨c, tail, rfl, gap, -, close, -⟩ := opens
  simp [readValue, skipGaps_cons gap, close]

theorem readItems_error (h : readValue gather fuel cs = .error refusal) :
    readItems gather (fuel + 1) cs = .error refusal := by
  simp [readItems, h, bind, Except.bind]

theorem readItems_last (h : readValue gather fuel cs = .ok (value, ']' :: rest)) :
    readItems gather (fuel + 1) cs = .ok ([value], rest) := by
  simp [readItems, h, bind, Except.bind, pure, Except.pure, skipGaps, isGap]

theorem readItems_more (h : readValue gather fuel cs = .ok (value, ',' :: ' ' :: next))
    (opens : Opens next) :
    readItems gather (fuel + 1) cs =
      (readItems gather fuel next).map fun (items, after) => (value :: items, after) := by
  have skip : skipGaps (' ' :: next) = next := by rw [skipGaps_space, opens.skipGaps]
  simp only [readItems, h, bind, Except.bind, skipGaps_cons (c := ',') rfl, skip]
  cases readItems gather fuel next <;> rfl

theorem readFields_key_error (h : readString ('"' :: inside) inside = .error refusal) :
    readFields gather (fuel + 1) ('"' :: inside) = .error refusal := by
  simp [readFields, h, bind, Except.bind]

variable (named : readString ('"' :: inside) inside = .ok (key, ':' :: ' ' :: cs))
  (opens : Opens cs)
include named opens

theorem readFields_value_error (h : readValue gather fuel cs = .error refusal) :
    readFields gather (fuel + 1) ('"' :: inside) = .error refusal := by
  have skip : skipGaps (' ' :: cs) = cs := by rw [skipGaps_space, opens.skipGaps]
  simp [readFields, named, bind, Except.bind, skipGaps_cons (c := ':') rfl, skip, h]

theorem readFields_last (h : readValue gather fuel cs = .ok (value, '\x7d' :: rest)) :
    readFields gather (fuel + 1) ('"' :: inside) = .ok ([(key, value)], rest) := by
  have skip : skipGaps (' ' :: cs) = cs := by rw [skipGaps_space, opens.skipGaps]
  simp [readFields, named, bind, Except.bind, pure, Except.pure, skipGaps_cons (c := ':') rfl,
    skipGaps_cons (c := '\x7d') rfl, skip, h]

theorem readFields_more (h : readValue gather fuel cs = .ok (value, ',' :: ' ' :: next))
    (opens' : Opens next) :
    readFields gather (fuel + 1) ('"' :: inside) =
      (readFields gather fuel next).map fun (fields, after) => ((key, value) :: fields, after) := by
  have skip : skipGaps (' ' :: cs) = cs := by rw [skipGaps_space, opens.skipGaps]
  have skip' : skipGaps (' ' :: next) = next := by rw [skipGaps_space, opens'.skipGaps]
  simp only [readFields, named, bind, Except.bind, skipGaps_cons (c := ':') rfl, skip, h,
    skipGaps_cons (c := ',') rfl, skip']
  cases readFields gather fuel next <;> rfl

end Steps

/-! ## Values that can be read -/

section Read

variable {gather : Gather} {write : String → List Char} {dec : String → String}

/-- Each text of the value is written with its marks. -/
def Marked (write : String → List Char) (v : Json) : Prop :=
  ∀ s ∈ v.texts, ∃ inside, write s = '"' :: inside

theorem opens_spell {v : Json} (legible : Legible v) (marked : Marked write v) :
    Opens (v.spell id write) := by
  cases v using inductionOnShape with
  | scalar v h =>
    obtain ⟨c, tail, e, opens⟩ := h.render_eq_cons legible
    rw [spell_id_scalar h, e]
    exact opens_of_opensScalar opens tail
  | str s =>
    obtain ⟨inside, e⟩ := marked s (by simp [texts])
    exact ⟨'"', inside, by rw [spell, e], rfl, by decide⟩
  | arr items => exact ⟨'[', _, by rw [spell]; rfl, rfl, by decide⟩
  | obj fields => exact ⟨'{', _, by rw [spell]; rfl, rfl, by decide⟩

theorem endsNumeral_mark {c : Char} (h : c = ',' ∨ c = ']' ∨ c = '\x7d') (cs : List Char) :
    EndsNumeral (c :: cs) := by
  rcases h with rfl | rfl | rfl <;> exact ⟨rfl, by decide⟩

theorem spellItems_more (write : String → List Char) (item next : Json) (items : List Json)
    (rest : List Char) :
    spellItems id write [] (item :: next :: items) ++ rest =
      item.spell id write ++ ',' :: ' ' :: (spellItems id write [] (next :: items) ++ rest) := by
  simp [spellItems]

theorem spellFields_last (write : String → List Char) (key : String) (value : Json)
    (rest : List Char) :
    spellFields id write [] [(key, value)] ++ rest =
      write key ++ ':' :: ' ' :: (value.spell id write ++ rest) := by
  simp [spellFields]

theorem spellFields_more (write : String → List Char) (key : String) (value : Json)
    (next : String × Json) (fields : List (String × Json)) (rest : List Char) :
    spellFields id write [] ((key, value) :: next :: fields) ++ rest =
      write key ++ ':' :: ' ' :: (value.spell id write ++
        ',' :: ' ' :: (spellFields id write [] (next :: fields) ++ rest)) := by
  simp [spellFields]

theorem opens_spellItems {item : Json} (opens : Opens (item.spell id write)) (items : List Json)
    (rest : List Char) : Opens (spellItems id write [] (item :: items) ++ rest) := by
  rw [spellItems, List.nil_append, List.append_assoc]
  exact opens.append _

theorem opens_spellFields {field : String × Json} (marked : ∃ inside, write field.1 = '"' :: inside)
    (fields : List (String × Json)) (rest : List Char) :
    Opens (spellFields id write [] (field :: fields) ++ rest) := by
  obtain ⟨inside, e⟩ := marked
  rw [spellFields, e]
  exact ⟨'"', _, rfl, rfl, by decide⟩

/-- The value that a laid out value is read as. -/
def readBack (gather : Gather) (dec : String → String) (v : Json) : Json :=
  (v.mapText dec).gathered gather

/-- A laid out value is read, with its texts as `dec` gives them. -/
def IsRead (gather : Gather) (write : String → List Char) (dec : String → String)
    (v : Json) : Prop :=
  ∀ fuel rest, EndsNumeral rest → (v.spell id write).length ≤ fuel →
    readValue gather fuel (v.spell id write ++ rest) = .ok (v.readBack gather dec, rest)

/-- After the first of several items the reader goes on with the next. -/
theorem readItems_step {item next : Json} (items : List Json)
    (read : IsRead gather write dec item) (opens : Opens (next.spell id write)) {fuel : ℕ}
    (enough : (spellItems id write [] (item :: next :: items)).length ≤ fuel) (rest : List Char) :
    (spellItems id write [] (next :: items)).length + 1 ≤ fuel ∧
      readItems gather (fuel + 1) (spellItems id write [] (item :: next :: items) ++ ']' :: rest) =
        (readItems gather fuel (spellItems id write [] (next :: items) ++ ']' :: rest)).map
          fun (found, after) => (item.readBack gather dec :: found, after) := by
  have length := congrArg List.length (spellItems_more write item next items [])
  simp only [List.append_nil, List.length_append, List.length_cons] at length
  refine ⟨by omega, ?_⟩
  rw [spellItems_more]
  exact readItems_more (read fuel _ (endsNumeral_mark (by simp) _) (by omega))
    (opens_spellItems opens items _)

/-- The items of a list are read one after the other, if each of them can be. -/
theorem readItems_spell {items : List Json} (ne : items ≠ [])
    (opens : ∀ item ∈ items, Opens (item.spell id write))
    (each : ∀ item ∈ items, IsRead gather write dec item)
    {fuel : ℕ} (enough : (spellItems id write [] items).length + 1 ≤ fuel) (rest : List Char) :
    readItems gather fuel (spellItems id write [] items ++ ']' :: rest) =
      .ok (items.map (readBack gather dec), rest) := by
  induction items generalizing fuel with
  | nil => exact absurd rfl ne
  | cons item items ih =>
    obtain ⟨fuel, rfl⟩ : ∃ n, fuel = n + 1 := ⟨fuel - 1, by omega⟩
    have first := each item (by simp) fuel
    cases items with
    | nil =>
      rw [spellItems, spellItems, List.append_nil, List.nil_append] at enough ⊢
      exact readItems_last (first _ (endsNumeral_mark (by simp) _) (by omega))
    | cons next items =>
      obtain ⟨less, step⟩ := readItems_step items (each item (by simp)) (opens next (by simp))
        (Nat.le_of_succ_le_succ enough) rest
      rw [step, ih (by simp) (fun i h => opens i (by simp [h])) (fun i h => each i (by simp [h]))
        less]
      rfl

theorem Reads.marked {cs : List Char} {s : String} (h : Reads cs s) :
    ∃ inside, cs = '"' :: inside := by
  obtain ⟨inside, written, -⟩ := h
  exact ⟨inside, written⟩

theorem Refused.marked {cs : List Char} (h : Refused cs) : ∃ inside, cs = '"' :: inside := by
  obtain ⟨inside, written, -⟩ := h
  exact ⟨inside, written⟩

/-- After the first of several entries the reader goes on with the next. -/
theorem readFields_step {key : String} {value : Json} {next : String × Json}
    (fields : List (String × Json)) (named : Reads (write key) (dec key))
    (opens : Opens (value.spell id write)) (read : IsRead gather write dec value)
    (marked : ∃ inside, write next.1 = '"' :: inside) {fuel : ℕ}
    (enough : (spellFields id write [] ((key, value) :: next :: fields)).length ≤ fuel)
    (rest : List Char) :
    (spellFields id write [] (next :: fields)).length + 1 ≤ fuel ∧
      readFields gather (fuel + 1)
          (spellFields id write [] ((key, value) :: next :: fields) ++ '\x7d' :: rest) =
        (readFields gather fuel (spellFields id write [] (next :: fields) ++ '\x7d' :: rest)).map
          fun (found, after) => ((dec key, value.readBack gather dec) :: found, after) := by
  have length := congrArg List.length (spellFields_more write key value next fields [])
  simp only [List.append_nil, List.length_append, List.length_cons] at length
  refine ⟨by omega, ?_⟩
  obtain ⟨inside, written, readKey⟩ := named
  rw [spellFields_more, written, List.cons_append]
  exact readFields_more (readKey _ _) (opens.append _)
    (read fuel _ (endsNumeral_mark (by simp) _) (by omega)) (opens_spellFields marked fields _)

/-- The entries of an object are read one after the other, if each of them can be. -/
theorem readFields_spell {fields : List (String × Json)} (ne : fields ≠ [])
    (opens : ∀ field ∈ fields, Opens (field.2.spell id write))
    (named : ∀ field ∈ fields, Reads (write field.1) (dec field.1))
    (each : ∀ field ∈ fields, IsRead gather write dec field.2)
    {fuel : ℕ} (enough : (spellFields id write [] fields).length + 1 ≤ fuel) (rest : List Char) :
    readFields gather fuel (spellFields id write [] fields ++ '\x7d' :: rest) =
      .ok (fields.map fun field => (dec field.1, field.2.readBack gather dec), rest) := by
  induction fields generalizing fuel with
  | nil => exact absurd rfl ne
  | cons field fields ih =>
    obtain ⟨fuel, rfl⟩ : ∃ n, fuel = n + 1 := ⟨fuel - 1, by omega⟩
    obtain ⟨key, value⟩ := field
    have opensValue : Opens (value.spell id write) := opens (key, value) (by simp)
    have readKey : Reads (write key) (dec key) := named (key, value) (by simp)
    have readValue : IsRead gather write dec value := each (key, value) (by simp)
    cases fields with
    | nil =>
      have length := congrArg List.length (spellFields_last write key value [])
      simp only [List.append_nil, List.length_append, List.length_cons] at length
      obtain ⟨inside, written, readKey⟩ := readKey
      rw [spellFields_last, written, List.cons_append]
      exact readFields_last (readKey _ _) (opensValue.append _)
        (readValue fuel _ (endsNumeral_mark (by simp) _) (by omega))
    | cons next fields =>
      obtain ⟨less, step⟩ := readFields_step fields readKey opensValue readValue
        (named next (by simp)).marked (Nat.le_of_succ_le_succ enough) rest
      rw [step, ih (by simp) (fun i h => opens i (by simp [h])) (fun i h => named i (by simp [h]))
        (fun i h => each i (by simp [h])) less]
      rfl

theorem readBack_arr (gather : Gather) (dec : String → String) (items : List Json) :
    (arr items).readBack gather dec = arr (items.map (readBack gather dec)) := by
  simp [readBack, mapText, mapTextItems_eq, gathered, gatheredItems_eq]

theorem readBack_obj (gather : Gather) (dec : String → String) (fields : List (String × Json)) :
    (obj fields).readBack gather dec =
      obj (gather (fields.map fun field => (dec field.1, field.2.readBack gather dec))) := by
  simp [readBack, mapText, mapTextFields_eq, gathered, gatheredFields_eq, Function.comp_def]

theorem readBack_scalar {v : Json} (h : IsScalar v) : v.readBack gather dec = v := by
  cases h <;> rfl

theorem isRead_scalar {v : Json} (h : IsScalar v) (legible : Legible v) :
    IsRead gather write dec v := by
  intro fuel rest ends enough
  have read := h.readScalar legible ends
  obtain ⟨c, tail, e, opens⟩ := h.render_eq_cons legible
  rw [spell_id_scalar h, e, List.length_cons] at enough
  obtain ⟨fuel, rfl⟩ : ∃ n, fuel = n + 1 := ⟨fuel - 1, by omega⟩
  rw [e] at read
  rw [spell_id_scalar h, e, readBack_scalar h]
  exact (readValue_scalar opens _).trans read

theorem isRead_str {s : String} (reads : Reads (write s) (dec s)) :
    IsRead gather write dec (.str s) := by
  intro fuel rest _ enough
  obtain ⟨inside, written, read⟩ := reads
  rw [spell, written] at enough ⊢
  obtain ⟨fuel, rfl⟩ : ∃ n, fuel = n + 1 := ⟨fuel - 1, by simp at enough; omega⟩
  rw [List.cons_append, readValue, read]
  rfl

theorem isRead_arr {items : List Json} (opens : ∀ item ∈ items, Opens (item.spell id write))
    (each : ∀ item ∈ items, IsRead gather write dec item) :
    IsRead gather write dec (.arr items) := by
  intro fuel rest _ enough
  rw [spell, List.length_append, List.length_cons, List.length_singleton] at enough
  obtain ⟨fuel, rfl⟩ : ∃ n, fuel = n + 1 := ⟨fuel - 1, by omega⟩
  rw [spell, readBack_arr, List.append_assoc, List.cons_append, List.singleton_append]
  cases items with
  | nil => simp [spellItems, readValue, skipGaps, isGap]
  | cons item items =>
    rw [id, id, readValue_items (opens_spellItems (opens item (by simp)) items _),
      readItems_spell (by simp) opens each (by omega)]
    rfl

theorem isRead_obj (none : gather [] = []) {fields : List (String × Json)}
    (opens : ∀ field ∈ fields, Opens (field.2.spell id write))
    (named : ∀ field ∈ fields, Reads (write field.1) (dec field.1))
    (each : ∀ field ∈ fields, IsRead gather write dec field.2) :
    IsRead gather write dec (.obj fields) := by
  intro fuel rest _ enough
  rw [spell, List.length_append, List.length_cons, List.length_singleton] at enough
  obtain ⟨fuel, rfl⟩ : ∃ n, fuel = n + 1 := ⟨fuel - 1, by omega⟩
  rw [spell, readBack_obj, List.append_assoc, List.cons_append, List.singleton_append]
  cases fields with
  | nil => simp [spellFields, readValue, skipGaps, isGap, none]
  | cons field fields =>
    rw [id, id, readValue_fields (opens_spellFields (named field (by simp)).marked fields _),
      readFields_spell (by simp) opens named each (by omega)]
    rfl

/-- If each text of a value is written so that it reads as another one, the whole is read. -/
theorem isRead_of_reads (none : gather [] = []) {v : Json} (legible : Legible v)
    (reads : ∀ s ∈ v.texts, Reads (write s) (dec s)) : IsRead gather write dec v := by
  induction v using inductionOnShape with
  | scalar v h => exact isRead_scalar h legible
  | str s => exact isRead_str (reads s (by simp [texts]))
  | arr items ih =>
    cases legible with
    | arr legible =>
      have reads' : ∀ item ∈ items, ∀ s ∈ item.texts, Reads (write s) (dec s) :=
        fun item h s hs => reads s (mem_texts_arr.2 ⟨item, h, hs⟩)
      apply isRead_arr
      · intro item h
        exact opens_spell (legible item h) fun s hs => (reads' item h s hs).marked
      · intro item h
        exact ih item h (legible item h) (reads' item h)
  | obj fields ih =>
    cases legible with
    | obj legible =>
      have reads' : ∀ field ∈ fields, ∀ s ∈ field.2.texts, Reads (write s) (dec s) :=
        fun field h s hs => reads s (mem_texts_obj.2 ⟨field, h, .inr hs⟩)
      apply isRead_obj none
      · intro field h
        exact opens_spell (legible field h) fun s hs => (reads' field h s hs).marked
      · intro field h
        exact reads field.1 (mem_texts_obj.2 ⟨field, h, .inl rfl⟩)
      · intro field h
        exact ih field h (legible field h) (reads' field h)

/-! ## Values that cannot be read -/

/-- A laid out value cannot be read. -/
def IsRefused (gather : Gather) (write : String → List Char) (v : Json) : Prop :=
  ∀ fuel rest, EndsNumeral rest → (v.spell id write).length ≤ fuel →
    ∃ refusal, readValue gather fuel (v.spell id write ++ rest) = .error refusal

/-- A list cannot be read if its first item cannot. -/
theorem readItems_refused_first {item : Json} (items : List Json)
    (refused : IsRefused gather write item) {fuel : ℕ}
    (enough : (item.spell id write).length ≤ fuel) (rest : List Char) :
    ∃ refusal, readItems gather (fuel + 1)
      (spellItems id write [] (item :: items) ++ ']' :: rest) = .error refusal := by
  cases items with
  | nil =>
    obtain ⟨refusal, e⟩ := refused fuel (']' :: rest) (endsNumeral_mark (by simp) _) enough
    exact ⟨refusal, by simpa [spellItems] using readItems_error e⟩
  | cons next items =>
    obtain ⟨refusal, e⟩ := refused fuel _ (endsNumeral_mark (c := ',') (by simp) _) enough
    exact ⟨refusal, by rw [spellItems_more]; exact readItems_error e⟩

theorem readItems_refused {items : List Json}
    (opens : ∀ item ∈ items, Opens (item.spell id write))
    (each : ∀ item ∈ items, IsRead gather write dec item ∨ IsRefused gather write item)
    (bad : ∃ item ∈ items, IsRefused gather write item)
    {fuel : ℕ} (enough : (spellItems id write [] items).length + 1 ≤ fuel) (rest : List Char) :
    ∃ refusal, readItems gather fuel (spellItems id write [] items ++ ']' :: rest) =
      .error refusal := by
  induction items generalizing fuel with
  | nil => simp at bad
  | cons item items ih =>
    obtain ⟨fuel, rfl⟩ : ∃ n, fuel = n + 1 := ⟨fuel - 1, by omega⟩
    have length : (item.spell id write).length ≤ fuel := by
      rw [spellItems, List.nil_append, List.length_append] at enough
      omega
    rcases each item (by simp) with read | refused
    · obtain ⟨other, mem, refused⟩ := bad
      rcases List.mem_cons.1 mem with rfl | mem
      · exact readItems_refused_first items refused length rest
      · cases items with
        | nil => simp at mem
        | cons next items =>
          obtain ⟨less, step⟩ := readItems_step items read (opens next (by simp))
            (Nat.le_of_succ_le_succ enough) rest
          obtain ⟨refusal, e⟩ := ih (fun i h => opens i (by simp [h]))
            (fun i h => each i (by simp [h])) ⟨other, mem, refused⟩ less
          exact ⟨refusal, by rw [step, e]; rfl⟩
    · exact readItems_refused_first items refused length rest

/-- An object cannot be read if its first entry cannot: its key, or the value under it. -/
theorem readFields_refused_first {key : String} {value : Json} (fields : List (String × Json))
    (opens : Opens (value.spell id write))
    (bad : Refused (write key) ∨ Reads (write key) (dec key) ∧ IsRefused gather write value)
    {fuel : ℕ} (enough : (value.spell id write).length ≤ fuel) (rest : List Char) :
    ∃ refusal, readFields gather (fuel + 1)
      (spellFields id write [] ((key, value) :: fields) ++ '\x7d' :: rest) = .error refusal := by
  obtain ⟨after, ends, written⟩ : ∃ after, EndsNumeral after ∧
      spellFields id write [] ((key, value) :: fields) ++ '\x7d' :: rest =
        write key ++ ':' :: ' ' :: (value.spell id write ++ after) := by
    cases fields with
    | nil => exact ⟨_, endsNumeral_mark (by simp) rest, spellFields_last write key value _⟩
    | cons next fields =>
      exact ⟨_, endsNumeral_mark (by simp) _, spellFields_more write key value next fields _⟩
  rw [written]
  rcases bad with ⟨inside, marks, refused⟩ | ⟨⟨inside, marks, read⟩, refused⟩
  · obtain ⟨refusal, e⟩ := refused _ (':' :: ' ' :: (value.spell id write ++ after))
    rw [marks, List.cons_append]
    exact ⟨refusal, readFields_key_error e⟩
  · obtain ⟨refusal, e⟩ := refused fuel after ends enough
    rw [marks, List.cons_append]
    exact ⟨refusal, readFields_value_error (read _ _) (opens.append _) e⟩

theorem readFields_refused {fields : List (String × Json)}
    (opens : ∀ field ∈ fields, Opens (field.2.spell id write))
    (named : ∀ field ∈ fields, Reads (write field.1) (dec field.1) ∨ Refused (write field.1))
    (each : ∀ field ∈ fields, IsRead gather write dec field.2 ∨ IsRefused gather write field.2)
    (bad : ∃ field ∈ fields, Refused (write field.1) ∨ IsRefused gather write field.2)
    {fuel : ℕ} (enough : (spellFields id write [] fields).length + 1 ≤ fuel) (rest : List Char) :
    ∃ refusal, readFields gather fuel (spellFields id write [] fields ++ '\x7d' :: rest) =
      .error refusal := by
  induction fields generalizing fuel with
  | nil => simp at bad
  | cons field fields ih =>
    obtain ⟨fuel, rfl⟩ : ∃ n, fuel = n + 1 := ⟨fuel - 1, by omega⟩
    obtain ⟨key, value⟩ := field
    have opensValue : Opens (value.spell id write) := opens (key, value) (by simp)
    have length : (value.spell id write).length ≤ fuel := by
      rw [spellFields] at enough
      simp only [List.length_append, List.length_cons] at enough
      omega
    have first (bad : Refused (write key) ∨
        Reads (write key) (dec key) ∧ IsRefused gather write value) :=
      readFields_refused_first fields opensValue bad length rest
    -- An entry that is read leaves the outcome to the next one, any other settles it.
    rcases named (key, value) (by simp) with read | refused
    · rcases each (key, value) (by simp) with readValue | refused
      · obtain ⟨other, mem, refused⟩ := bad
        rcases List.mem_cons.1 mem with rfl | mem
        · exact first (refused.imp_right fun refused => ⟨read, refused⟩)
        · cases fields with
          | nil => simp at mem
          | cons next fields =>
            have marked := (named next (by simp)).elim Reads.marked Refused.marked
            obtain ⟨less, step⟩ := readFields_step fields read opensValue readValue marked
              (Nat.le_of_succ_le_succ enough) rest
            obtain ⟨refusal, e⟩ := ih (fun f h => opens f (by simp [h]))
              (fun f h => named f (by simp [h])) (fun f h => each f (by simp [h]))
              ⟨other, mem, refused⟩ less
            exact ⟨refusal, by rw [step, e]; rfl⟩
      · exact first (.inr ⟨read, refused⟩)
    · exact first (.inl refused)

theorem isRefused_str {s : String} (refused : Refused (write s)) :
    IsRefused gather write (.str s) := by
  intro fuel rest _ enough
  obtain ⟨inside, written, refused⟩ := refused
  rw [spell, written] at enough ⊢
  obtain ⟨fuel, rfl⟩ : ∃ n, fuel = n + 1 := ⟨fuel - 1, by simp at enough; omega⟩
  obtain ⟨refusal, e⟩ := refused ('"' :: (inside ++ rest)) rest
  exact ⟨refusal, by rw [List.cons_append, readValue, e]; rfl⟩

theorem isRefused_arr {items : List Json} (opens : ∀ item ∈ items, Opens (item.spell id write))
    (each : ∀ item ∈ items, IsRead gather write dec item ∨ IsRefused gather write item)
    (bad : ∃ item ∈ items, IsRefused gather write item) :
    IsRefused gather write (.arr items) := by
  intro fuel rest _ enough
  rw [spell, List.length_append, List.length_cons, List.length_singleton] at enough
  obtain ⟨fuel, rfl⟩ : ∃ n, fuel = n + 1 := ⟨fuel - 1, by omega⟩
  obtain ⟨refusal, e⟩ := readItems_refused opens each bad
    (by omega : (spellItems id write [] items).length + 1 ≤ fuel) rest
  refine ⟨refusal, ?_⟩
  rw [spell, List.append_assoc, List.cons_append, List.singleton_append, id, id]
  cases items with
  | nil => simp at bad
  | cons first items =>
    rw [readValue_items (opens_spellItems (opens first (by simp)) items _), e]
    rfl

theorem isRefused_obj {fields : List (String × Json)}
    (opens : ∀ field ∈ fields, Opens (field.2.spell id write))
    (named : ∀ field ∈ fields, Reads (write field.1) (dec field.1) ∨ Refused (write field.1))
    (each : ∀ field ∈ fields, IsRead gather write dec field.2 ∨ IsRefused gather write field.2)
    (bad : ∃ field ∈ fields, Refused (write field.1) ∨ IsRefused gather write field.2) :
    IsRefused gather write (.obj fields) := by
  intro fuel rest _ enough
  rw [spell, List.length_append, List.length_cons, List.length_singleton] at enough
  obtain ⟨fuel, rfl⟩ : ∃ n, fuel = n + 1 := ⟨fuel - 1, by omega⟩
  obtain ⟨refusal, e⟩ := readFields_refused opens named each bad
    (by omega : (spellFields id write [] fields).length + 1 ≤ fuel) rest
  refine ⟨refusal, ?_⟩
  rw [spell, List.append_assoc, List.cons_append, List.singleton_append, id, id]
  cases fields with
  | nil => simp at bad
  | cons first fields =>
    have marked := (named first (by simp)).elim Reads.marked Refused.marked
    rw [readValue_fields (opens_spellFields marked fields _), e]
    rfl

/-- If each text is written so that it reads as another one or cannot be read, it is one or the
other for the value, provided that a text that cannot be read spoils the value. -/
theorem isRead_or_isRefused (none : gather [] = []) {v : Json} (legible : Legible v)
    (each : ∀ s ∈ v.texts, Reads (write s) (dec s) ∨ Refused (write s))
    (spoils : (∃ s ∈ v.texts, Refused (write s)) → IsRefused gather write v) :
    IsRead gather write dec v ∨ IsRefused gather write v := by
  by_cases h : ∃ s ∈ v.texts, Refused (write s)
  · exact .inr (spoils h)
  · refine .inl (isRead_of_reads none legible fun s hs => ?_)
    exact (each s hs).resolve_right fun refused => h ⟨s, hs, refused⟩

/-- If a text of a value is written so that it cannot be read, neither can the whole. -/
theorem isRefused_of_refused (none : gather [] = []) {v : Json} (legible : Legible v)
    (each : ∀ s ∈ v.texts, Reads (write s) (dec s) ∨ Refused (write s))
    (bad : ∃ s ∈ v.texts, Refused (write s)) : IsRefused gather write v := by
  induction v using inductionOnParts with
  | null | bool | int | float => simp [texts] at bad
  | str s => exact isRefused_str (by simpa [texts] using bad)
  | arr items ih =>
    cases legible with
    | arr legible =>
      have each' : ∀ i ∈ items, ∀ s ∈ i.texts, Reads (write s) (dec s) ∨ Refused (write s) :=
        fun i h s hs => each s (mem_texts_arr.2 ⟨i, h, hs⟩)
      apply isRefused_arr
      · intro i h
        exact opens_spell (legible i h) fun s hs =>
          (each' i h s hs).elim Reads.marked Refused.marked
      · intro i h
        exact isRead_or_isRefused none (legible i h) (each' i h) (ih i h (legible i h) (each' i h))
      · obtain ⟨s, mem, refused⟩ := bad
        obtain ⟨item, hi, hs⟩ := mem_texts_arr.1 mem
        exact ⟨item, hi, ih item hi (legible item hi) (each' item hi) ⟨s, hs, refused⟩⟩
  | obj fields ih =>
    cases legible with
    | obj legible =>
      have each' : ∀ f ∈ fields, ∀ s ∈ f.2.texts, Reads (write s) (dec s) ∨ Refused (write s) :=
        fun f h s hs => each s (mem_texts_obj.2 ⟨f, h, .inr hs⟩)
      apply isRefused_obj
      · intro f h
        exact opens_spell (legible f h) fun s hs =>
          (each' f h s hs).elim Reads.marked Refused.marked
      · intro f h
        exact each _ (mem_texts_obj.2 ⟨f, h, .inl rfl⟩)
      · intro f h
        exact isRead_or_isRefused none (legible f h) (each' f h) (ih f h (legible f h) (each' f h))
      · obtain ⟨s, mem, refused⟩ := bad
        obtain ⟨field, hf, hs⟩ := mem_texts_obj.1 mem
        refine ⟨field, hf, ?_⟩
        rcases hs with rfl | hs
        · exact .inl refused
        · exact .inr (ih field hf (legible field hf) (each' field hf) ⟨s, hs, refused⟩)

end Read

/-! ## Texts -/

/-- A laid out value stands in a text as it is. -/
theorem readText_ofList {cs : List Char} (opens : Opens cs) (gather : Gather) :
    readText gather (.ofList cs) = readDocument gather cs := by
  obtain ⟨c, tail, rfl, -, -, -, mark⟩ := opens
  rw [readText, String.toList_ofList]
  split <;> simp_all

section Text

variable {gather : Gather} {write : String → List Char} {dec : String → String}
  (none : gather [] = []) {v : Json} (legible : Legible v)
include none legible

/-- A laid out value as a whole text is read as the value that it reads back as. -/
theorem readText_spell (reads : ∀ s ∈ v.texts, Reads (write s) (dec s)) :
    readText gather (.ofList (v.spell id write)) = .ok (v.readBack gather dec) := by
  have opens := opens_spell legible fun s hs => (reads s hs).marked
  have read := isRead_of_reads none legible reads (2 * (v.spell id write).length + 1) [] trivial
    (by omega)
  rw [List.append_nil] at read
  rw [readText_ofList opens, readDocument, opens.skipGaps, read]
  rfl

/-- A text in which a value is laid out is refused, if a text of the value is. -/
theorem readText_refused (each : ∀ s ∈ v.texts, Reads (write s) (dec s) ∨ Refused (write s))
    (bad : ∃ s ∈ v.texts, Refused (write s)) :
    ∃ error, readText gather (.ofList (v.spell id write)) = .error error := by
  have opens := opens_spell legible fun s hs => (each s hs).elim Reads.marked Refused.marked
  obtain ⟨refusal, e⟩ := isRefused_of_refused none legible each bad
    (2 * (v.spell id write).length + 1) [] trivial (by omega)
  rw [List.append_nil] at e
  refine ⟨refusal.locate (v.spell id write), ?_⟩
  rw [readText_ofList opens, readDocument, opens.skipGaps, e]
  rfl

end Text

/-- A value that was written with spaces is read, with its texts as `rejoin` makes them. -/
theorem readText_spacedText {gather : Gather} (none : gather [] = []) {v : Json}
    (legible : Legible v) : readText gather v.spacedText = .ok (v.readBack gather rejoin) := by
  rw [spacedText, render_spaced]
  exact readText_spell none legible fun s _ => reads_renderString s

/-- It is read from the body of a message too, if the bytes of its text show their encoding. -/
theorem readBody_spacedText {v : Json} (legible : Legible v)
    (decoded : Text.decodeBody (Text.Utf8.encode v.spacedText.toList) = .ok v.spacedText.toList) :
    readBody v.spacedText = .ok (v.readBack Entries.ofPairs rejoin) := by
  have read : readText Entries.ofPairs v.spacedText = .ok (v.readBack Entries.ofPairs rejoin) :=
    readText_spacedText rfl legible
  rw [readText] at read
  rw [readBody, decoded]
  split at read
  · cases read
  · exact read

theorem mapText_of_same {dec : String → String} {v : Json} (same : ∀ s ∈ v.texts, dec s = s) :
    v.mapText dec = v := by
  induction v using inductionOnParts with
  | null | bool | int | float => rfl
  | str s => exact congrArg str (same s (by simp [texts]))
  | arr items ih =>
    have parts : ∀ item ∈ items, item.mapText dec = id item := fun item h =>
      ih item h fun s hs => same s (mem_texts_arr.2 ⟨item, h, hs⟩)
    rw [mapText, mapTextItems_eq, List.map_congr_left parts, List.map_id]
  | obj fields ih =>
    have parts : ∀ field ∈ fields, (dec field.1, field.2.mapText dec) = id field :=
        fun field h => by
      rw [same _ (mem_texts_obj.2 ⟨field, h, .inl rfl⟩),
        ih field h fun s hs => same s (mem_texts_obj.2 ⟨field, h, .inr hs⟩), id]
    rw [mapText, mapTextFields_eq, List.map_congr_left parts, List.map_id]

theorem readBack_of_whole {gather : Gather} {v : Json}
    (whole : ∀ s ∈ v.texts, Text.splitsPair s.toList = false) :
    v.readBack gather rejoin = v.gathered gather := by
  rw [readBack, mapText_of_same fun s hs => rejoin_of_whole (whole s hs)]

/-- A value that was written with spaces is read back, object by object with its entries. -/
theorem readPairs_spacedText {v : Json} (legible : Legible v)
    (whole : ∀ s ∈ v.texts, Text.splitsPair s.toList = false) :
    readPairs v.spacedText = .ok v := by
  rw [readPairs, readText_spacedText rfl legible, readBack_of_whole whole, gathered_id]

/-! ### What is lost

Reading never makes the texts of a value longer, and it makes them shorter where a pair of halves
becomes one character.  So a value with such a pair is not read back. -/

/-- The length of all texts of a value together. -/
def textLength (v : Json) : ℕ := (v.texts.map String.length).sum

theorem sum_put_le {α : Type} (size : String × α → ℕ) (entries : Entries α) (key : String)
    (value : α) :
    ((entries.put key value).map size).sum ≤ (entries.map size).sum + size (key, value) := by
  induction entries with
  | nil => simp [Entries.put]
  | cons entry rest ih =>
    obtain ⟨k, v⟩ := entry
    rw [Entries.put]
    split_ifs with same
    · subst same
      simp only [List.map_cons, List.sum_cons]
      omega
    · simp only [List.map_cons, List.sum_cons]
      omega

theorem sum_ofPairs_le {α : Type} (size : String × α → ℕ) (pairs : List (String × α)) :
    ((Entries.ofPairs pairs).map size).sum ≤ (pairs.map size).sum := by
  have all (entries : Entries α) :
      ((entries.putAll pairs).map size).sum ≤ (entries.map size).sum + (pairs.map size).sum := by
    induction pairs generalizing entries with
    | nil => simp [Entries.putAll]
    | cons pair pairs ih =>
      have later := ih (entries.put pair.1 pair.2)
      have first : ((entries.put pair.1 pair.2).map size).sum ≤
          (entries.map size).sum + size pair := sum_put_le size entries pair.1 pair.2
      rw [List.map_cons, List.sum_cons]
      exact later.trans (by omega)
  exact (all []).trans (by simp)

theorem textLength_arr (items : List Json) :
    (arr items).textLength = (items.map textLength).sum := by
  unfold textLength
  rw [texts, textsOfItems_eq]
  induction items with
  | nil => rfl
  | cons item rest ih => simp [ih]

theorem textLength_obj (fields : List (String × Json)) :
    (obj fields).textLength =
      (fields.map fun field => field.1.length + field.2.textLength).sum := by
  unfold textLength
  rw [texts, textsOfFields_eq]
  induction fields with
  | nil => rfl
  | cons field rest ih =>
    rw [List.flatMap_cons, List.map_append, List.sum_append, ih]
    simp

theorem textLength_gathered_le (v : Json) :
    (v.gathered Entries.ofPairs).textLength ≤ v.textLength := by
  induction v using inductionOnParts with
  | null | bool | int | float | str => exact le_rfl
  | arr items ih =>
    rw [gathered, gatheredItems_eq, textLength_arr, textLength_arr, List.map_map]
    exact List.sum_le_sum ih
  | obj fields ih =>
    rw [gathered, gatheredFields_eq, textLength_obj, textLength_obj]
    apply (sum_ofPairs_le _ _).trans
    rw [List.map_map]
    exact List.sum_le_sum fun field h => Nat.add_le_add_left (ih field h) _

theorem textLength_mapText_lt {f : String → String} (le : ∀ s, (f s).length ≤ s.length) {v : Json}
    {s : String} (hs : s ∈ v.texts) (lt : (f s).length < s.length) :
    (v.mapText f).textLength < v.textLength := by
  rw [textLength, textLength, texts_mapText, List.map_map]
  exact List.sum_lt_sum _ _ (fun t _ => le t) ⟨s, hs, lt⟩

theorem textLength_readBack_lt {v : Json} {s : String} (hs : s ∈ v.texts)
    (split : Text.splitsPair s.toList = true) :
    (v.readBack Entries.ofPairs rejoin).textLength < v.textLength := by
  have kept := textLength_mapText_lt (fun t => (length_rejoin t).1) hs ((length_rejoin s).2 split)
  exact lt_of_le_of_lt (textLength_gathered_le _) kept

/-- A value that has each key once reads back as itself if and only if no text of it has a high half
before a low half. -/
theorem readBack_eq_iff {v : Json} (wellFormed : WellFormed v) :
    v.readBack Entries.ofPairs rejoin = v ↔ ∀ s ∈ v.texts, Text.splitsPair s.toList = false := by
  constructor
  · intro same s hs
    by_contra split
    have shorter := textLength_readBack_lt hs (by simpa using split)
    rw [same] at shorter
    exact lt_irrefl _ shorter
  · intro whole
    rw [readBack_of_whole whole, wellFormed.gathered]

/-- A value that has each key once and was written with spaces is read back if and only if no text
of it has a high half before a low half. -/
theorem read_spacedText_iff {v : Json} (wellFormed : WellFormed v) (legible : Legible v) :
    read v.spacedText = .ok v ↔ ∀ s ∈ v.texts, Text.splitsPair s.toList = false := by
  rw [read, readText_spacedText rfl legible, Except.ok.injEq, readBack_eq_iff wellFormed]

end ElasticPanels.Json

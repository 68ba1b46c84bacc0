import ElasticPanels.Proofs.NumberText
import ElasticPanels.Proofs.StringText

/-!
# The layout of values

`Json.spell` lays a value out as `Json.render` does with spaces, with a free choice of what stands
for each character of the layout and for each text of the value, so that the same layout serves for
characters and for the pieces of a scanned text.  `Json.texts` lists the texts of a value, keys
included.  Of the numbers of a value we ask that a text can hold them (`Json.Legible`).  Reading
gathers the entries of objects (`Json.gathered`), which changes nothing if each key stands once.
-/

namespace ElasticPanels.Json

/-! ## Induction over values -/

theorem sizeOf_field_lt {field : String × Json} {fields : List (String × Json)}
    (h : field ∈ fields) : sizeOf field.2 < sizeOf fields := by
  have := List.sizeOf_lt_of_mem h
  obtain ⟨key, value⟩ := field
  simp only [Prod.mk.sizeOf_spec] at this ⊢
  omega

/-- What holds of a value if it holds of its parts holds of every value. -/
theorem inductionOnParts {P : Json → Prop} (null : P null) (bool : ∀ b, P (bool b))
    (int : ∀ n, P (int n)) (float : ∀ x, P (float x)) (str : ∀ s, P (str s))
    (arr : ∀ items, (∀ item ∈ items, P item) → P (arr items))
    (obj : ∀ fields : List (String × Json), (∀ field ∈ fields, P field.2) → P (obj fields)) :
    ∀ v, P v
  | .null => null
  | .bool b => bool b
  | .int n => int n
  | .float x => float x
  | .str s => str s
  | .arr items => arr items fun item h =>
    have := List.sizeOf_lt_of_mem h
    inductionOnParts null bool int float str arr obj item
  | .obj fields => obj fields fun field h =>
    have := sizeOf_field_lt h
    inductionOnParts null bool int float str arr obj field.2
termination_by v => sizeOf v
decreasing_by all_goals simp only [Json.arr.sizeOf_spec, Json.obj.sizeOf_spec]; omega

/-! ## The texts and the numbers of a value -/

mutual

/-- The texts of a value, keys included. -/
def texts : Json → List String
  | str s => [s]
  | arr items => textsOfItems items
  | obj fields => textsOfFields fields
  | _ => []

/-- The texts of the items of a list. -/
def textsOfItems : List Json → List String
  | [] => []
  | item :: rest => texts item ++ textsOfItems rest

/-- The texts of the entries of an object, each after its key. -/
def textsOfFields : List (String × Json) → List String
  | [] => []
  | (key, value) :: rest => key :: texts value ++ textsOfFields rest

end

theorem textsOfItems_eq (items : List Json) : textsOfItems items = items.flatMap texts := by
  induction items with
  | nil => rfl
  | cons item rest ih => simp [textsOfItems, ih]

theorem textsOfFields_eq (fields : List (String × Json)) :
    textsOfFields fields = fields.flatMap fun field => field.1 :: texts field.2 := by
  induction fields with
  | nil => rfl
  | cons field rest ih => simp [textsOfFields, ih]

theorem mem_texts_arr {items : List Json} {s : String} :
    s ∈ (arr items).texts ↔ ∃ item ∈ items, s ∈ item.texts := by
  rw [texts, textsOfItems_eq, List.mem_flatMap]

theorem mem_texts_obj {fields : List (String × Json)} {s : String} :
    s ∈ (obj fields).texts ↔ ∃ field ∈ fields, s = field.1 ∨ s ∈ field.2.texts := by
  simp [texts, textsOfFields_eq]

/-- The numbers of a value are such as reading a text gives. -/
inductive Legible : Json → Prop
  | null : Legible null
  | bool (b : Bool) : Legible (bool b)
  | int {n : Int} (h : (Nat.toDigits 10 n.natAbs).length ≤ Numeral.digitLimit) : Legible (int n)
  | float {x : Binary64} (h : x.Canonical) : Legible (float x)
  | str (s : String) : Legible (str s)
  | arr {items : List Json} (h : ∀ item ∈ items, Legible item) : Legible (arr items)
  | obj {fields : List (String × Json)} (h : ∀ field ∈ fields, Legible field.2) :
      Legible (obj fields)

mutual

/-- The value with the entries of each of its objects gathered, from the inside out. -/
def gathered (gather : Gather) : Json → Json
  | arr items => arr (gatheredItems gather items)
  | obj fields => obj (gather (gatheredFields gather fields))
  | other => other

/-- `gathered` for each item of a list. -/
def gatheredItems (gather : Gather) : List Json → List Json
  | [] => []
  | item :: rest => gathered gather item :: gatheredItems gather rest

/-- `gathered` for each entry of an object. -/
def gatheredFields (gather : Gather) : List (String × Json) → List (String × Json)
  | [] => []
  | (key, value) :: rest => (key, gathered gather value) :: gatheredFields gather rest

end

theorem gatheredItems_eq (gather : Gather) (items : List Json) :
    gatheredItems gather items = items.map (gathered gather) := by
  induction items with
  | nil => rfl
  | cons item rest ih => simp [gatheredItems, ih]

theorem gatheredFields_eq (gather : Gather) (fields : List (String × Json)) :
    gatheredFields gather fields = fields.map fun field => (field.1, gathered gather field.2) := by
  induction fields with
  | nil => rfl
  | cons field rest ih => simp [gatheredFields, ih]

theorem gathered_id (v : Json) : v.gathered id = v := by
  induction v using inductionOnParts with
  | null | bool | int | float | str => rfl
  | arr items ih => rw [gathered, gatheredItems_eq, List.map_congr_left (g := id) ih, List.map_id]
  | obj fields ih =>
    have same : ∀ field ∈ fields, (field.1, field.2.gathered id) = id field :=
      fun field h => by rw [ih field h, id]
    rw [gathered, gatheredFields_eq, List.map_congr_left same, List.map_id, id]

/-- Gathering leaves a value whose objects have each key once as it is. -/
theorem WellFormed.gathered {v : Json} (h : WellFormed v) : v.gathered Entries.ofPairs = v := by
  induction h with
  | null | bool | int | float | str => rfl
  | arr _ ih =>
    rw [Json.gathered, gatheredItems_eq, List.map_congr_left (g := id) ih, List.map_id]
  | @obj fields keys _ ih =>
    have same : ∀ field ∈ fields, (field.1, field.2.gathered Entries.ofPairs) = id field :=
      fun field h => by rw [ih field h, id]
    have put : Entries.ofPairs fields = fields := Entries.ofPairs_of_nodup keys
    rw [Json.gathered, gatheredFields_eq, List.map_congr_left same, List.map_id, put]

/-! ## Layout -/

section Spell

variable {α : Type} (symbol : Char → α) (write : String → List α)

mutual

/-- The value laid out with spaces: its texts by `write`, all other characters by `symbol`. -/
def spell : Json → List α
  | str s => write s
  | arr items => symbol '[' :: spellItems [] items ++ [symbol ']']
  | obj fields => symbol '{' :: spellFields [] fields ++ [symbol '}']
  | scalar => (scalar.render .spaced).map symbol

/-- The items of a list, the first after `separator`, the others after a comma. -/
def spellItems (separator : List α) : List Json → List α
  | [] => []
  | item :: rest => separator ++ spell item ++ spellItems [symbol ',', symbol ' '] rest

/-- The entries of an object, the first after `separator`, the others after a comma. -/
def spellFields (separator : List α) : List (String × Json) → List α
  | [] => []
  | (key, value) :: rest =>
    separator ++ write key ++ [symbol ':', symbol ' '] ++ spell value ++
      spellFields [symbol ',', symbol ' '] rest

end

end Spell

/-- The parts, the first after `separator`, the others after `comma`. -/
def joined {α : Type} (separator comma : List α) : List (List α) → List α
  | [] => []
  | part :: rest => separator ++ part ++ joined comma comma rest

theorem spellItems_eq {α : Type} (symbol : Char → α) (write : String → List α)
    (separator : List α) (items : List Json) : spellItems symbol write separator items =
      joined separator [symbol ',', symbol ' '] (items.map (spell symbol write)) := by
  induction items generalizing separator with
  | nil => rfl
  | cons item items ih => rw [spellItems, ih]; rfl

theorem spellFields_eq {α : Type} (symbol : Char → α) (write : String → List α)
    (separator : List α) (fields : List (String × Json)) :
    spellFields symbol write separator fields =
      joined separator [symbol ',', symbol ' '] (fields.map fun field =>
        write field.1 ++ [symbol ':', symbol ' '] ++ field.2.spell symbol write) := by
  induction fields generalizing separator with
  | nil => rfl
  | cons field fields ih =>
    rw [spellFields, ih]
    simp [joined]

section Joined

variable {α β : Type} {separator comma : List α} {parts : List (List α)}

theorem forall_mem_joined {P : α → Prop} (first : ∀ a ∈ separator, P a) (other : ∀ a ∈ comma, P a)
    (each : ∀ part ∈ parts, ∀ a ∈ part, P a) : ∀ a ∈ joined separator comma parts, P a := by
  induction parts generalizing separator with
  | nil => simp [joined]
  | cons part parts ih =>
    rw [joined, List.forall_mem_append, List.forall_mem_append]
    exact ⟨⟨first, each part (by simp)⟩, ih other fun p hp => each p (by simp [hp])⟩

theorem mem_joined {part : List α} (h : part ∈ parts) {a : α} (ha : a ∈ part) :
    a ∈ joined separator comma parts := by
  induction parts generalizing separator with
  | nil => simp at h
  | cons first parts ih =>
    rw [joined, List.mem_append, List.mem_append]
    rcases List.mem_cons.1 h with rfl | h
    · exact .inl (.inr ha)
    · exact .inr (ih h)

theorem flatMap_joined (f : α → List β) (separator comma : List α) (parts : List (List α)) :
    (joined separator comma parts).flatMap f =
      joined (separator.flatMap f) (comma.flatMap f) (parts.map fun part => part.flatMap f) := by
  induction parts generalizing separator with
  | nil => rfl
  | cons part parts ih => simp [joined, ih]

end Joined

theorem spell_arr {α : Type} (symbol : Char → α) (write : String → List α) (items : List Json) :
    (arr items).spell symbol write =
      symbol '[' :: (spellItems symbol write [] items ++ [symbol ']']) := by
  rw [spell, List.cons_append]

theorem spell_obj {α : Type} (symbol : Char → α) (write : String → List α)
    (fields : List (String × Json)) : (obj fields).spell symbol write =
      symbol '\x7b' :: (spellFields symbol write [] fields ++ [symbol '\x7d']) := by
  rw [spell, List.cons_append]

/-- The values without parts. -/
inductive IsScalar : Json → Prop
  | null : IsScalar null
  | bool (b : Bool) : IsScalar (bool b)
  | int (n : Int) : IsScalar (int n)
  | float (x : Binary64) : IsScalar (float x)

/-- Induction over values that treats those without parts alike. -/
theorem inductionOnShape {P : Json → Prop} (scalar : ∀ v, IsScalar v → P v) (str : ∀ s, P (str s))
    (arr : ∀ items, (∀ item ∈ items, P item) → P (arr items))
    (obj : ∀ fields : List (String × Json), (∀ field ∈ fields, P field.2) → P (obj fields))
    (v : Json) : P v :=
  inductionOnParts (scalar _ .null) (fun b => scalar _ (.bool b)) (fun n => scalar _ (.int n))
    (fun x => scalar _ (.float x)) str arr obj v

theorem spell_scalar {α : Type} {symbol : Char → α} {write : String → List α} {v : Json}
    (h : IsScalar v) : v.spell symbol write = (v.render .spaced).map symbol := by
  cases h <;> rfl

theorem spell_id_scalar {write : String → List Char} {v : Json} (h : IsScalar v) :
    v.spell id write = v.render .spaced := by rw [spell_scalar h, List.map_id]

/-- Writing with spaces is a layout by the characters themselves. -/
theorem render_spaced (v : Json) : v.render .spaced = v.spell id (renderString true) := by
  induction v using inductionOnParts with
  | null | bool | int | float | str => simp [spell, render, Layout.spaced]
  | arr items ih =>
    have parts (separator : List Char) : renderItems .spaced separator items =
        spellItems id (renderString true) separator items := by
      induction items generalizing separator with
      | nil => rfl
      | cons item rest rec =>
        rw [renderItems, spellItems, ih item (by simp),
          ← rec (fun other h => ih other (by simp [h]))]
        rfl
    rw [render, spell, parts]
    rfl
  | obj fields ih =>
    have parts (separator : List Char) : renderFields .spaced separator fields =
        spellFields id (renderString true) separator fields := by
      induction fields generalizing separator with
      | nil => rfl
      | cons field rest rec =>
        rw [renderFields, spellFields, ih field (by simp),
          ← rec (fun other h => ih other (by simp [h]))]
        rfl
    rw [render, spell, parts]
    rfl

/-! ## What a layout is made of -/

/-- Whether a character may stand in a word or a number. -/
def isToken (c : Char) : Bool := c.isAlphanum || c = '+' || c = '-' || c = '.'

theorem isToken_of_isNumeric {c : Char} (h : isNumeric c = true) : isToken c = true := by
  by_cases digit : c.isDigit = true
  · simp [isToken, Char.isAlphanum, digit]
  · have : c ∈ "+-.eNaInfity".toList := by simpa [isNumeric, digit] using h
    have all : ∀ d ∈ "+-.eNaInfity".toList, isToken d = true := by decide
    exact all c this

theorem isPrintable_of_isToken {c : Char} (h : isToken c = true) : isPrintable c = true := by
  have : ((c.isAlphanum = true ∨ c = '+') ∨ c = '-') ∨ c = '.' := by simpa [isToken] using h
  rcases this with ((h | rfl) | rfl) | rfl
  · exact isPrintable_of_isAlphanum h
  all_goals rfl

theorem IsScalar.isToken {v : Json} (h : IsScalar v) :
    ∀ c ∈ v.render .spaced, isToken c = true := by
  cases h with
  | null => decide
  | bool b => cases b <;> decide
  | int n => exact fun c hc => isToken_of_isNumeric (isNumeric_renderInt n c hc)
  | float x => exact fun c hc => isToken_of_isNumeric (isNumeric_renderFloat x c hc)

section Members

variable {α β : Type} {symbol : Char → α} {write : String → List α}

/-- What holds of the layout and of the written texts holds of the whole. -/
theorem forall_mem_spell {P : α → Prop} (marks : ∀ c ∈ "[]\x7b\x7d:, ".toList, P (symbol c))
    (tokens : ∀ c, Json.isToken c = true → P (symbol c)) {v : Json}
    (written : ∀ s ∈ v.texts, ∀ a ∈ write s, P a) : ∀ a ∈ v.spell symbol write, P a := by
  have mark (c : Char) (h : c ∈ "[]\x7b\x7d:, ".toList) : ∀ a ∈ [symbol c], P a := by
    simpa using marks c h
  have comma : ∀ a ∈ [symbol ',', symbol ' '], P a :=
    List.forall_mem_cons.2 ⟨marks ',' (by simp), mark ' ' (by simp)⟩
  have colon : ∀ a ∈ [symbol ':', symbol ' '], P a :=
    List.forall_mem_cons.2 ⟨marks ':' (by simp), mark ' ' (by simp)⟩
  induction v using inductionOnShape with
  | scalar v h =>
    rw [spell_scalar h, List.forall_mem_map]
    exact fun c hc => tokens c (h.isToken c hc)
  | str s => exact written s (by simp [texts])
  | arr items ih =>
    have parts := forall_mem_joined (by simp : ∀ a ∈ [], P a) comma <| List.forall_mem_map.2
      fun item h => ih item h fun s hs => written s (mem_texts_arr.2 ⟨item, h, hs⟩)
    rw [spell_arr, spellItems_eq, List.forall_mem_cons, List.forall_mem_append]
    exact ⟨marks _ (by simp), parts, mark ']' (by simp)⟩
  | obj fields ih =>
    have parts := forall_mem_joined (by simp : ∀ a ∈ [], P a) comma <| List.forall_mem_map.2
      fun field h => List.forall_mem_append.2 ⟨List.forall_mem_append.2
        ⟨written _ (mem_texts_obj.2 ⟨field, h, .inl rfl⟩), colon⟩,
        ih field h fun s hs => written s (mem_texts_obj.2 ⟨field, h, .inr hs⟩)⟩
    rw [spell_obj, spellFields_eq, List.forall_mem_cons, List.forall_mem_append]
    exact ⟨marks _ (by simp), parts, mark '\x7d' (by simp)⟩

/-- A written text is part of the whole. -/
theorem mem_spell {v : Json} {s : String} (hs : s ∈ v.texts) {a : α} (ha : a ∈ write s) :
    a ∈ v.spell symbol write := by
  induction v using inductionOnParts with
  | null | bool | int | float => simp [texts] at hs
  | str t =>
    obtain rfl : s = t := by simpa [texts] using hs
    exact ha
  | arr items ih =>
    obtain ⟨item, hi, inside⟩ := mem_texts_arr.1 hs
    rw [spell_arr, spellItems_eq]
    exact List.mem_cons_of_mem _ <| List.mem_append_left _ <|
      mem_joined (List.mem_map_of_mem hi) (ih item hi inside)
  | obj fields ih =>
    obtain ⟨field, hf, inside⟩ := mem_texts_obj.1 hs
    rw [spell_obj, spellFields_eq]
    refine List.mem_cons_of_mem _ <| List.mem_append_left _ <|
      mem_joined (List.mem_map_of_mem hf) ?_
    rcases inside with rfl | inside
    · exact List.mem_append_left _ (List.mem_append_left _ ha)
    · exact List.mem_append_right _ (ih field hf inside)

/-- Writing out the layout and the texts writes out the whole. -/
theorem flatMap_spell {f : α → List β} {symbol' : Char → β}
    (symbols : ∀ c, f (symbol c) = [symbol' c]) (v : Json) :
    (v.spell symbol write).flatMap f = v.spell symbol' fun s => (write s).flatMap f := by
  induction v using inductionOnShape with
  | scalar v h =>
    rw [spell_scalar h, spell_scalar h, List.flatMap_map]
    induction v.render .spaced with
    | nil => rfl
    | cons c cs ih => rw [List.flatMap_cons, symbols, ih]; rfl
  | str s => rfl
  | arr items ih =>
    simp only [spell_arr, spellItems_eq, List.flatMap_cons, List.flatMap_append, flatMap_joined,
      symbols, List.map_map, List.flatMap_nil, List.append_nil, List.singleton_append]
    have parts : items.map ((fun part => part.flatMap f) ∘ spell symbol write) =
        items.map (spell symbol' fun s => (write s).flatMap f) := List.map_congr_left ih
    rw [parts]
  | obj fields ih =>
    simp only [spell_obj, spellFields_eq, List.flatMap_cons, List.flatMap_append, flatMap_joined,
      symbols, List.map_map, List.flatMap_nil, List.append_nil, List.singleton_append]
    congr 3
    apply List.map_congr_left
    intro field h
    simp [symbols, ih field h]

/-- The layout of a value depends on what is written for its texts only. -/
theorem spell_congr {write' : String → List α} {v : Json}
    (same : ∀ s ∈ v.texts, write s = write' s) : v.spell symbol write = v.spell symbol write' := by
  induction v using inductionOnParts with
  | null | bool | int | float => rfl
  | str s => exact same s (by simp [texts])
  | arr items ih =>
    rw [spell_arr, spell_arr, spellItems_eq, spellItems_eq, List.map_congr_left fun item h =>
      ih item h fun s hs => same s (mem_texts_arr.2 ⟨item, h, hs⟩)]
  | obj fields ih =>
    rw [spell_obj, spell_obj, spellFields_eq, spellFields_eq, List.map_congr_left fun field h => by
      rw [ih field h fun s hs => same s (mem_texts_obj.2 ⟨field, h, .inr hs⟩),
        same _ (mem_texts_obj.2 ⟨field, h, .inl rfl⟩)]]

/-- The layout of a value with other texts. -/
theorem spell_mapText (dec : String → String) (v : Json) :
    (v.mapText dec).spell symbol write = v.spell symbol fun s => write (dec s) := by
  induction v using inductionOnParts with
  | null | bool | int | float | str => rfl
  | arr items ih =>
    have parts : items.map (spell symbol write ∘ mapText dec) =
        items.map (spell symbol fun s => write (dec s)) := List.map_congr_left ih
    rw [mapText, mapTextItems_eq, spell_arr, spell_arr, spellItems_eq, spellItems_eq,
      List.map_map, parts]
  | obj fields ih =>
    rw [mapText, mapTextFields_eq, spell_obj, spell_obj, spellFields_eq, spellFields_eq,
      List.map_map, List.map_congr_left fun field h => by rw [Function.comp, ih field h]]

/-- The texts of a value with other texts. -/
theorem texts_mapText (dec : String → String) (v : Json) :
    (v.mapText dec).texts = v.texts.map dec := by
  induction v using inductionOnParts with
  | null | bool | int | float | str => rfl
  | arr items ih =>
    rw [mapText, mapTextItems_eq, texts, texts, textsOfItems_eq, textsOfItems_eq,
      List.flatMap_map, List.map_flatMap]
    exact List.flatMap_congr ih
  | obj fields ih =>
    rw [mapText, mapTextFields_eq, texts, texts, textsOfFields_eq, textsOfFields_eq,
      List.flatMap_map, List.map_flatMap]
    exact List.flatMap_congr fun field h => by simp [ih field h]

theorem Legible.mapText {v : Json} (h : Legible v) (dec : String → String) :
    Legible (v.mapText dec) := by
  induction h with
  | null => exact .null
  | bool b => exact .bool b
  | int short => exact .int short
  | float canonical => exact .float canonical
  | str s => exact .str _
  | arr _ ih =>
    rw [Json.mapText, mapTextItems_eq]
    exact .arr (List.forall_mem_map.2 ih)
  | obj _ ih =>
    rw [Json.mapText, mapTextFields_eq]
    exact .obj (List.forall_mem_map.2 ih)

end Members

/-- A value that was written is printable ASCII. -/
theorem isPrintable_spacedText (v : Json) : ∀ c ∈ v.spacedText.toList, isPrintable c = true := by
  rw [spacedText, String.toList_ofList, render_spaced]
  exact forall_mem_spell (by decide) (fun c => isPrintable_of_isToken)
    fun s _ => isPrintable_renderString s

end ElasticPanels.Json

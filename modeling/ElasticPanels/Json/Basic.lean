import ElasticPanels.Entries
import ElasticPanels.Number.Binary64

/-!
# JSON values

`Json` keeps what the wire format distinguishes: the order of an object's entries, and whole
numbers of any size apart from floating-point ones.  An object read from a text has each key once;
`Json.WellFormed` says so, and is not built into the type, because a body under construction may
name two filters whose labels are written alike.  `Json.mapText` changes every text of a value, keys
included, and nothing else.
-/

namespace ElasticPanels

/-- A JSON value. -/
inductive Json
  | null
  | bool (b : Bool)
  | int (n : Int)
  | float (x : Binary64)
  | str (s : String)
  | arr (items : List Json)
  | obj (fields : List (String × Json))
  deriving Repr, Inhabited, BEq

namespace Json

/-- Whether a value counts as present: not null, false, zero or empty. -/
def truthy : Json → Bool
  | null => false
  | bool b => b
  | int n => n ≠ 0
  | float x => !x.isZero
  | str s => !s.isEmpty
  | arr items => !items.isEmpty
  | obj fields => !fields.isEmpty

/-- The text, or null. -/
def ofText? : Option String → Json
  | some s => str s
  | none => null

/-- The whole number, or null. -/
def ofInt? : Option Int → Json
  | some n => int n
  | none => null

mutual

/-- The value with `f` applied to each of its texts, keys included. -/
def mapText (f : String → String) : Json → Json
  | str s => str (f s)
  | arr items => arr (mapTextItems f items)
  | obj fields => obj (mapTextFields f fields)
  | other => other

/-- `mapText` on each item of a list. -/
def mapTextItems (f : String → String) : List Json → List Json
  | [] => []
  | item :: rest => mapText f item :: mapTextItems f rest

/-- `mapText` on each entry of an object, and `f` on its key. -/
def mapTextFields (f : String → String) : List (String × Json) → List (String × Json)
  | [] => []
  | (key, value) :: rest => (f key, mapText f value) :: mapTextFields f rest

end

mutual

/-- Whether every floating-point number of a value is finite. -/
def isFinite : Json → Bool
  | float x => x.isFinite
  | arr items => areFinite items
  | obj fields => areFiniteFields fields
  | _ => true

/-- `isFinite` for all items of a list. -/
def areFinite : List Json → Bool
  | [] => true
  | item :: rest => isFinite item && areFinite rest

/-- `isFinite` for all entries of an object. -/
def areFiniteFields : List (String × Json) → Bool
  | [] => true
  | (_, value) :: rest => isFinite value && areFiniteFields rest

end

mutual

/-- The value with null in place of each number that is not finite. -/
def finitePart : Json → Json
  | float x => if x.isFinite then float x else null
  | arr items => arr (finiteParts items)
  | obj fields => obj (finiteFields fields)
  | other => other

/-- `finitePart` of each item of a list. -/
def finiteParts : List Json → List Json
  | [] => []
  | item :: rest => finitePart item :: finiteParts rest

/-- `finitePart` of each entry of an object. -/
def finiteFields : List (String × Json) → List (String × Json)
  | [] => []
  | (key, value) :: rest => (key, finitePart value) :: finiteFields rest

end

/-- Every object of the value has each of its keys once. -/
inductive WellFormed : Json → Prop
  | null : WellFormed null
  | bool (b : Bool) : WellFormed (bool b)
  | int (n : Int) : WellFormed (int n)
  | float (x : Binary64) : WellFormed (float x)
  | str (s : String) : WellFormed (str s)
  | arr {items : List Json} (h : ∀ item ∈ items, WellFormed item) : WellFormed (arr items)
  | obj {fields : List (String × Json)} (keys : (fields.map Prod.fst).Nodup)
      (h : ∀ field ∈ fields, WellFormed field.2) : WellFormed (obj fields)

/-! ### Lists as lists -/

theorem mapTextItems_eq (f : String → String) (items : List Json) :
    mapTextItems f items = items.map (mapText f) := by
  induction items with
  | nil => rfl
  | cons item rest ih => simp [mapTextItems, ih]

theorem mapTextFields_eq (f : String → String) (fields : List (String × Json)) :
    mapTextFields f fields = fields.map fun field => (f field.1, mapText f field.2) := by
  induction fields with
  | nil => rfl
  | cons field rest ih => simp [mapTextFields, ih]

theorem areFinite_eq (items : List Json) : areFinite items = items.all isFinite := by
  induction items with
  | nil => rfl
  | cons item rest ih => simp [areFinite, ih]

theorem areFiniteFields_eq (fields : List (String × Json)) :
    areFiniteFields fields = fields.all fun field => isFinite field.2 := by
  induction fields with
  | nil => rfl
  | cons field rest ih => simp [areFiniteFields, ih]

theorem finiteParts_eq (items : List Json) : finiteParts items = items.map finitePart := by
  induction items with
  | nil => rfl
  | cons item rest ih => simp [finiteParts, ih]

theorem finiteFields_eq (fields : List (String × Json)) :
    finiteFields fields = fields.map fun field => (field.1, finitePart field.2) := by
  induction fields with
  | nil => rfl
  | cons field rest ih => simp [finiteFields, ih]

end Json

end ElasticPanels

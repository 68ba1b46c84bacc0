import ElasticPanels.Json.Basic
import ElasticPanels.Number.Numeral
import ElasticPanels.Text.Surrogate
import ElasticPanels.Validation.Issue

/-!
# Checked values

A `Checked α` is a value that passed its checks or the list of all its issues.  Combining two
checked values (`<*>`) collects the issues of both, unlike a chain of steps, which would stop at
the first.  The second half gives the checks of single values, all of them lenient: a whole number
may come as a text or as a float without fraction, a truth value as one of a few words.
-/

namespace ElasticPanels

/-- A value, or everything that is wrong with it. -/
inductive Checked (α : Type)
  | ok (value : α)
  | bad (issues : List Issue)
  deriving Repr

namespace Checked

variable {α β : Type}

/-- All issues of a checked value. -/
def issues : Checked α → List Issue
  | ok _ => []
  | bad found => found

/-- Applies a function to a value that passed. -/
def map (f : α → β) : Checked α → Checked β
  | ok a => ok (f a)
  | bad found => bad found

/-- Applies a checked function to a checked value; the issues of both are kept. -/
def ap : Checked (α → β) → Checked α → Checked β
  | ok f, ok a => ok (f a)
  | ok _, bad found => bad found
  | bad found, a => bad (found ++ a.issues)

instance : Applicative Checked where
  pure := ok
  map := map
  seq f a := ap f (a ())

/-- A single issue with the value itself. -/
def fail (flaw : Flaw) : Checked α := bad [⟨[], flaw⟩]

/-- Places the issues below one step. -/
def under (step : Step) : Checked α → Checked α
  | ok a => ok a
  | bad found => bad (found.map (Issue.under step))

/-- A further condition on a value that passed. -/
def filter (p : α → Bool) (flaw : Flaw) : Checked α → Checked α
  | ok a => if p a then ok a else fail flaw
  | bad found => bad found

/-- Checks the items of a list, each below its index, which for the first is `start`. -/
def items (check : β → Checked α) (start : Nat) : List β → Checked (List α)
  | [] => ok []
  | item :: rest => List.cons <$> under (.index start) (check item) <*> items check (start + 1) rest

/-- Checks the entries of an object, each below its key. -/
def entries (check : Json → Checked α) : List (String × Json) → Checked (Entries α)
  | [] => ok []
  | (key, item) :: rest =>
    (fun a others => (key, a) :: others) <$> under (.name key) (check item) <*> entries check rest

end Checked

/-- A check of one JSON value. -/
abbrev Check (α : Type) := Json → Checked α

namespace Check

variable {α : Type}

/-! ## Single values -/

/-- Any value. -/
def any : Check Json := .ok

/-- A text. -/
def text : Check String
  | .str s => .ok s
  | _ => .fail .notText

/-- Null, or what `check` takes. -/
def nullable (check : Check α) : Check (Option α)
  | .null => .ok none
  | value => (check value).map some

/-- Reads a text that holds no half of a surrogate pair. -/
def plainText (s : String) (read : String → Checked α) : Checked α :=
  if Text.hasHalf s.toList then .fail .notUnicode else read s

/-- One of the members of an enumeration, by its name. -/
def member (all : List α) (name : α → String) : Check α :=
  let wrong : Flaw := .notMember (all.map fun a => "'" ++ name a ++ "'")
  fun
  | .str s => plainText s fun s => match all.find? fun a => name a = s with
    | some a => .ok a
    | none => .fail wrong
  | _ => .fail wrong

/-- The words for a truth value, in small letters. -/
def boolOfWord? (word : String) : Option Bool :=
  if ["1", "true", "t", "yes", "y", "on"].contains word then some true
  else if ["0", "false", "f", "no", "n", "off"].contains word then some false
  else none

/-- Whether a whole number fits into a machine word of 64 bits. -/
def fitsWord (n : Int) : Bool := -9223372036854775808 ≤ n && n < 9223372036854775808

/-- The truth value of a whole number. -/
def boolOfInt (n : Int) : Checked Bool :=
  if n = 0 then .ok false
  else if n = 1 then .ok true
  else .fail .unreadableBool

/-- The whole number of a float: it must be finite, without fraction, and fit into a word, of which
the least is not taken. -/
def intOfFloat (x : Binary64) : Checked Int :=
  match x.truncate? with
  | none => .fail .notFinite
  | some n =>
    if !x.isWhole then .fail .intFromFraction
    else if fitsWord n && n ≠ -9223372036854775808 then .ok n
    else .fail .intTooLong

/-- A truth value, or a word or number that stands for one. -/
def bool : Check Bool
  | .bool b => .ok b
  | .str s => plainText s fun s => match boolOfWord? (Text.lowerAscii s) with
    | some b => .ok b
    | none => .fail .unreadableBool
  | .int n => if fitsWord n then boolOfInt n else .fail .notBool
  | .float x => match intOfFloat x with
    | .ok n => boolOfInt n
    | .bad _ => .fail .notBool
  | _ => .fail .notBool

/-- A whole number, or a value that writes one. -/
def int : Check Int
  | .int n => .ok n
  | .bool b => .ok (if b then 1 else 0)
  | .float x => intOfFloat x
  | .str s => plainText s fun s => match Numeral.readLaxWhole s with
    | .ok n => .ok n
    | .error (.tooManyDigits _) => .fail .intTooLong
    | .error .unreadable => .fail .unreadableInt
  | _ => .fail .notInt

/-- A whole number that is not below `least`. -/
def intFrom (least : Int) : Check Int := fun value =>
  (int value).filter (least ≤ ·) (.tooSmall least)

/-- A float, or a value that writes one; whole numbers are rounded to the nearest. -/
def float : Check Binary64
  | .float x => .ok x
  | .int n =>
    let x := Binary64.ofInt n
    if x.isFinite then .ok x else .fail .notFloat
  | .bool b => .ok (.ofInt (if b then 1 else 0))
  | .str s => plainText s fun s => match Numeral.readLaxFloat? s with
    | some x => .ok x
    | none => .fail .unreadableFloat
  | _ => .fail .notFloat

/-- A list of what `check` takes. -/
def list (check : Check α) : Check (List α)
  | .arr items => Checked.items check 0 items
  | _ => .fail .notList

/-- An object with arbitrary values. -/
def object : Check (Entries Json)
  | .obj fields => .ok fields
  | _ => .fail .notObject

/-- An object whose values `check` takes. -/
def objectOf (check : Check α) : Check (Entries α)
  | .obj fields => Checked.entries check fields
  | _ => .fail .notObject

/-! ## Records -/

/-- A record: `read` is given the entries of an object, and `wrong` is the flaw of anything else. -/
def record (wrong : Flaw) (read : Entries Json → Checked α) : Check α
  | .obj fields => read fields
  | _ => .fail wrong

/-- A field that must be there. -/
def required (fields : Entries Json) (name : String) (check : Check α) : Checked α :=
  Checked.under (.name name) <| match fields.get? name with
    | some value => check value
    | none => .fail .missing

/-- A field with a default. -/
def withDefault (fields : Entries Json) (name : String) (default : α) (check : Check α) :
    Checked α :=
  match fields.get? name with
  | some value => Checked.under (.name name) (check value)
  | none => .ok default

end Check

/-! ### Collecting issues -/

namespace Checked

variable {α β : Type}

theorem issues_seq (f : Checked (α → β)) (a : Checked α) :
    (f <*> a).issues = f.issues ++ a.issues := by
  cases f <;> cases a <;> simp [Seq.seq, ap, issues]

theorem issues_map (f : α → β) (a : Checked α) : (f <$> a).issues = a.issues := by
  cases a <;> rfl

theorem issues_under (step : Step) (a : Checked α) :
    (under step a).issues = a.issues.map (Issue.under step) := by
  cases a <;> rfl

end Checked

end ElasticPanels

import ElasticPanels.Text.Quoted

/-!
# Encodings and what they lack

`Encoding.gap?` finds the first run of characters of a text that an encoding has no bytes for: UTF-8
lacks the halves of surrogate pairs, and ASCII everything beyond its 128 characters.
-/

namespace ElasticPanels.Text

/-- The encodings that texts are sent in. -/
inductive Encoding
  | utf8
  | ascii
  deriving DecidableEq, Repr

namespace Encoding

/-- The name of an encoding. -/
def name : Encoding → String
  | utf8 => "utf-8"
  | ascii => "ascii"

/-- Whether an encoding has no bytes for a character. -/
def lacks : Encoding → Char → Bool
  | utf8, c => isStandIn c
  | ascii, c => 127 < c.toNat

/-- Why an encoding has no bytes for the characters that it lacks. -/
def reason : Encoding → String
  | utf8 => "surrogates not allowed"
  | ascii => "ordinal not in range(128)"

end Encoding

/-- A run of characters that an encoding lacks, by its first character, the index of that one, and
its length. -/
structure Gap where
  encoding : Encoding
  first : Char
  start : Nat
  length : Nat
  deriving DecidableEq, Repr

/-- The first run of characters that the encoding lacks. -/
def Encoding.gap? (e : Encoding) (cs : List Char) : Option Gap :=
  let start := (cs.takeWhile (!e.lacks ·)).length
  let run := (cs.drop start).takeWhile e.lacks
  run.head?.map fun first => ⟨e, first, start, run.length⟩

/-- The wording of a gap. -/
def Gap.message (g : Gap) : String :=
  let place :=
    if g.length = 1 then
      "character '" ++ .ofList (hiddenEscape g.first) ++ "' in position " ++ toString g.start
    else
      "characters in position " ++ toString g.start ++ "-" ++ toString (g.start + g.length - 1)
  "'" ++ g.encoding.name ++ "' codec can't encode " ++ place ++ ": " ++ g.encoding.reason

theorem Encoding.gap?_eq_none_iff {e : Encoding} {cs : List Char} :
    e.gap? cs = none ↔ ∀ c ∈ cs, e.lacks c = false := by
  induction cs with
  | nil => simp [gap?]
  | cons c rest ih =>
    by_cases h : e.lacks c = true
    · simp [gap?, h]
    · simp only [Bool.not_eq_true] at h
      have step : e.gap? (c :: rest) = none ↔ e.gap? rest = none := by
        simp [gap?, h]
      simp [step, ih, h]

end ElasticPanels.Text

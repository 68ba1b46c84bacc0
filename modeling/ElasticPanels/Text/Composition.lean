import ElasticPanels.Text.Compositions

/-!
# Canonical composition

`recomposed` takes the code points of a text apart, puts the marks of each letter into canonical
order and composes them again.  A text is in normal form if nothing changes thereby.
-/

namespace ElasticPanels.Text

/-- The combining class of a code point, zero for letters. -/
def combiningClass (n : Nat) : Nat :=
  ((combiningClasses.find? fun entry => entry.1 ≤ n && n ≤ entry.2.1).map (·.2.2)).getD 0

/-- The code point that stands for two others. -/
def composite? (a b : Nat) : Option Nat :=
  (compositions.find? fun entry => entry.2.1 = a && entry.2.2 = b).map Prod.fst

/-- The code points that a code point stands for.  The first of two parts may have parts itself, to
the given depth. -/
def parts : Nat → Nat → List Nat
  | 0, n => [n]
  | depth + 1, n =>
    match compositions.lookup n with
    | some (a, b) => parts depth a ++ [b]
    | none => [n]

/-- No code point has parts at a greater depth. -/
def partsDepth : Nat := 4

/-- Places a code point behind the others, which stand in reverse; a mark goes before the marks of
higher classes. -/
def placeMark (n : Nat) : List Nat → List Nat
  | [] => [n]
  | m :: before =>
    if combiningClass n ≠ 0 ∧ combiningClass n < combiningClass m then m :: placeMark n before
    else n :: m :: before

/-- The code points with their marks in canonical order. -/
def ordered (ns : List Nat) : List Nat := (ns.foldl (fun done n => placeMark n done) []).reverse

/-- Composes a letter with the marks that follow it; `marks` are those that stay apart, in reverse.
A mark is out of reach behind one of its class or a higher one. -/
def composeFrom (letter : Nat) (marks : List Nat) : List Nat → List Nat
  | [] => letter :: marks.reverse
  | n :: rest =>
    let inReach := marks.head?.all (combiningClass · < combiningClass n)
    match if inReach then composite? letter n else none with
    | some composed => composeFrom composed marks rest
    | none =>
      if combiningClass n = 0 then letter :: marks.reverse ++ composeFrom n [] rest
      else composeFrom letter (n :: marks) rest

/-- The code points composed. -/
def composed : List Nat → List Nat
  | [] => []
  | n :: rest => composeFrom n [] rest

/-- The code points taken apart and composed again. -/
def recomposed (ns : List Nat) : List Nat := composed (ordered (ns.flatMap (parts partsDepth)))

end ElasticPanels.Text

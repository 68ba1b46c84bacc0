/-!
# Patterns

A `Pattern` tells in which ways a text can begin, the preferred way first, with what is left of it
in each.  Patterns are put one after the other by `do`; `whole?` finds the first way that takes the
text to its end.
-/

namespace ElasticPanels.Text

/-- The ways in which a text can begin. -/
structure Pattern (α : Type) where
  ways : List Char → List (α × List Char)

namespace Pattern

variable {α β : Type}

instance : Monad Pattern where
  pure a := ⟨fun cs => [(a, cs)]⟩
  bind p f := ⟨fun cs => (p.ways cs).flatMap fun (a, rest) => (f a).ways rest⟩

/-- A run of characters of a class, as long as can be, within bounds. -/
def run (p : Char → Bool) (least most : Nat) : Pattern (List Char) where
  ways cs :=
    let size := ((cs.takeWhile p).take most).length
    (List.range (size + 1 - least)).map fun i => (cs.take (size - i), cs.drop (size - i))

/-- A run of characters of a class, as long as can be. -/
def many (p : Char → Bool) (least : Nat) : Pattern (List Char) where
  ways cs := (run p least cs.length).ways cs

/-- One character of a class. -/
def one (p : Char → Bool) : Pattern Char where
  ways
    | c :: rest => if p c then [(c, rest)] else []
    | [] => []

/-- The first pattern or, failing that, the second. -/
def either (p q : Pattern α) : Pattern α := ⟨fun cs => p.ways cs ++ q.ways cs⟩

/-- A pattern or nothing. -/
def perhaps (p : Pattern α) : Pattern (Option α) := either (some <$> p) (pure none)

/-- A condition on the text that is left. -/
def ahead (p : List Char → Bool) : Pattern Unit := ⟨fun cs => if p cs then [((), cs)] else []⟩

/-- The first way that takes a text to its end. -/
def whole? (p : Pattern α) (cs : List Char) : Option α :=
  ((p.ways cs).find? fun way => way.2.isEmpty).map Prod.fst

end Pattern

end ElasticPanels.Text

/-!
# Cutting texts

`splitAt` cuts a text at every separator, `upTo` at the first of some stops, and `cut?` at the first
separator, which is dropped.
-/

namespace ElasticPanels.Text

/-- The text split at each `separator`. -/
def splitAt (separator : Char) : List Char → List (List Char)
  | [] => [[]]
  | c :: rest =>
    if c = separator then [] :: splitAt separator rest
    else
      match splitAt separator rest with
      | piece :: pieces => (c :: piece) :: pieces
      | [] => [[c]]

/-- The leading characters up to a stop, and what follows them. -/
def upTo (stops : List Char) (cs : List Char) : List Char × List Char :=
  (cs.takeWhile (!stops.contains ·), cs.dropWhile (!stops.contains ·))

/-- What stands before the first `separator` and after it, if there is one. -/
def cut? (separator : Char) (cs : List Char) : Option (List Char × List Char) :=
  match upTo [separator] cs with
  | (before, _ :: after) => some (before, after)
  | _ => none

theorem upTo_append (stops cs : List Char) : (upTo stops cs).1 ++ (upTo stops cs).2 = cs := by
  simp [upTo]

theorem splitAt_ne_nil (separator : Char) (cs : List Char) : splitAt separator cs ≠ [] := by
  cases cs with
  | nil => simp [splitAt]
  | cons c rest =>
    simp only [splitAt]
    split
    · simp
    · split <;> simp

end ElasticPanels.Text

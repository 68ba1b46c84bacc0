import ElasticPanels.Entries
import ElasticPanels.Text.Classes
import ElasticPanels.Text.Scan

/-!
# Alias patterns

An alias names a series by a text with patterns in double braces.  A pattern holds a name, which is
a run of word characters and points, and perhaps an argument, which may also hold `@` and `-`.
`Alias.render` puts the name of the metric, its field or one of the labels of the series in place of
each pattern; a pattern that stands for nothing stays as it is, and what was put in is not read
again.
-/

namespace ElasticPanels.Alias

/-- A pattern: its name, its argument, which may be empty, and its own text. -/
structure Pattern where
  name : String
  argument : String
  source : List Char
  deriving DecidableEq, Repr

/-- The characters of a name. -/
def isNameChar (c : Char) : Bool := Text.isWord c || c == '.'

/-- The characters of an argument. -/
def isArgumentChar (c : Char) : Bool := isNameChar c || c == '@' || c == '-'

/-- The pattern that a text begins with. -/
def pattern? (cs : List Char) : Option Pattern :=
  match cs with
  | '{' :: '{' :: rest =>
    let rest := rest.dropWhile Text.isBlank
    let name := rest.takeWhile isNameChar
    let rest := (rest.dropWhile isNameChar).dropWhile Text.isBlank
    let argument := rest.takeWhile isArgumentChar
    match (rest.dropWhile isArgumentChar).dropWhile Text.isBlank with
    | '}' :: '}' :: after =>
      if name.isEmpty then none
      else some ⟨.ofList name, .ofList argument, cs.take (cs.length - after.length)⟩
    | _ => none
  | _ => none

/-- The patterns of an alias and the characters between them. -/
def patterns (cs : List Char) : List (Text.Piece Pattern) :=
  Text.scan pattern? (·.source.length) cs

/-- What a pattern stands for, in a series with the given labels. -/
def expand (labels : Entries String) (metricName : String) (field : Option String) (p : Pattern) :
    List Char :=
  let labelled (key : String) : List Char := ((labels.get? key).map String.toList).getD p.source
  -- Without an argument `term` is the name of a label like any other.
  if p.name = "term" ∧ p.argument ≠ "" then labelled p.argument
  else if p.name = "metric" then metricName.toList
  else if p.name = "field" then (field.getD "").toList
  else labelled p.name

/-- The name that an alias gives to a series. -/
def render (labels : Entries String) (metricName : String) (field : Option String)
    (text : String) : String :=
  .ofList (Text.assemble (expand labels metricName field) (patterns text.toList))

end ElasticPanels.Alias

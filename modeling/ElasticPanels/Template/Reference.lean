import ElasticPanels.Text.Classes
import ElasticPanels.Text.Scan

/-!
# References in a text

A text refers to a variable as `$name`, `[[name]]`, `[[name:format]]`, or with a dollar sign and
braces in place of the double brackets.  Names and formats are runs of word characters; the run
after a bare dollar sign is as long as possible.  `references` reads a text from the left into
references and the characters between them.
-/

namespace ElasticPanels.Template

/-- A reference: the name, the format it asks for, and its own text. -/
structure Reference where
  name : String
  format : Option String
  source : List Char
  deriving DecidableEq, Repr

/-- The leading run of word characters, and what follows it. -/
def wordRun (cs : List Char) : List Char × List Char :=
  (cs.takeWhile Text.isWord, cs.dropWhile Text.isWord)

/-- Reads a name, perhaps a colon and a format, and the closing characters. -/
def enclosed? (opening closing cs : List Char) : Option Reference :=
  let (name, after) := wordRun cs
  if name.isEmpty then none
  else if closing.isPrefixOf after then
    some ⟨.ofList name, none, opening ++ name ++ closing⟩
  else
    match after with
    | ':' :: rest =>
      let (format, after) := wordRun rest
      if !format.isEmpty && closing.isPrefixOf after then
        some ⟨.ofList name, some (.ofList format), opening ++ name ++ ':' :: format ++ closing⟩
      else none
    | _ => none

/-- The reference that a text begins with. -/
def reference? : List Char → Option Reference
  | '$' :: '{' :: rest => enclosed? ['$', '{'] ['}'] rest
  | '[' :: '[' :: rest => enclosed? ['[', '['] [']', ']'] rest
  -- No name begins with a brace, so a text that the first case refuses gets nothing here either.
  | '$' :: rest =>
    let name := (wordRun rest).1
    if name.isEmpty then none else some ⟨.ofList name, none, '$' :: name⟩
  | _ => none

/-- The references of a text and the characters between them. -/
def references (cs : List Char) : List (Text.Piece Reference) :=
  Text.scan reference? (·.source.length) cs

end ElasticPanels.Template

import ElasticPanels.Json.Printer

/-!
# Plain text of a value

`Json.plain` is how a value stands inside a message or a query: a text is itself, and everything
else is in the literal notation of `Json.literal`, where texts are quoted and the three words are
`None`, `True` and `False`.
-/

namespace ElasticPanels.Json

mutual

/-- The value in literal notation. -/
def literal : Json → List Char
  | null => "None".toList
  | bool b => if b then "True".toList else "False".toList
  | int n => renderInt n
  | float x => x.text.toList
  | str s => (Text.quoted s).toList
  | arr items => '[' :: literalItems [] items ++ [']']
  | obj fields => '{' :: literalFields [] fields ++ ['}']

/-- The items of a list, each but the first after a comma. -/
def literalItems (separator : List Char) : List Json → List Char
  | [] => []
  | item :: rest => separator ++ literal item ++ literalItems [',', ' '] rest

/-- The entries of an object, each but the first after a comma. -/
def literalFields (separator : List Char) : List (String × Json) → List Char
  | [] => []
  | (key, value) :: rest =>
    separator ++ (Text.quoted key).toList ++ [':', ' '] ++ literal value ++
      literalFields [',', ' '] rest

end

/-- The value in literal notation, as text. -/
def literalText (value : Json) : String := .ofList value.literal

/-- The plain text of a value. -/
def plain : Json → String
  | str s => s
  | value => value.literalText

end ElasticPanels.Json

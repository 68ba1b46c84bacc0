import ElasticPanels.Json.Printer
import ElasticPanels.Validation.Issue

/-!
# Reports

A report lists the issues of a record in the order of their written places.  `Issue.inFull` is all
that can be said about one issue, with the value that it was found in.
-/

namespace ElasticPanels

/-- The innermost value on a way into a value, as far as the way leads. -/
def Json.reached (value : Json) : List Step → Json
  | [] => value
  | step :: rest =>
    let next : Option Json := match value, step with
      | .obj fields, .name key => Entries.get? fields key
      | .arr items, .index i => if i < 0 then none else items[i.toNat]?
      | _, .branch _ => some value
      | _, _ => none
    match next with
    | some found => found.reached rest
    | none => value

/-- What belongs to a flaw besides its wording. -/
def Flaw.context : Flaw → Entries Json
  | notMember members => [("expected", .str (alternatives members))]
  | notConstant constant => [("expected", .str constant)]
  | tooSmall least => [("ge", .int least)]
  | tupleTooLong most length =>
    [("field_type", .str "Tuple"), ("max_length", .int most), ("actual_length", .int length)]
  | textTooShort least => [("min_length", .int least)]
  | badJson reason => [("error", .str reason)]
  | _ => []

namespace Issue

/-- The wire form of a step. -/
def stepJson : Step → Json
  | .name field => .str field
  | .index i => .int i
  | .branch reading => .str reading

/-- The wire form of the way to a value. -/
def placeJson (issue : Issue) : Json := .arr (issue.path.map stepJson)

/-- The full form of an issue of the given source. -/
def inFull (source : Json) (issue : Issue) : Json :=
  let context := issue.flaw.context
  .obj ([("type", .str issue.flaw.code), ("loc", issue.placeJson),
    ("msg", .str issue.flaw.message), ("input", source.reached issue.path)] ++
    if context.isEmpty then [] else [("ctx", .obj context)])

/-- The text that issues are ordered by: the place and then the flaw. -/
def orderKey (issue : Issue) : String :=
  (Json.arr [issue.placeJson, .str issue.flaw.code]).spacedText

/-- The issues in the order of a report. -/
def sorted (issues : List Issue) : List Issue :=
  issues.mergeSort fun a b => a.orderKey ≤ b.orderKey

/-- The wire form of a list of issues. -/
def reportJson (issues : List Issue) : Json :=
  .arr ((sorted issues).map fun issue =>
    .obj [("type", .str issue.flaw.code), ("loc", issue.placeJson)])

end Issue

end ElasticPanels

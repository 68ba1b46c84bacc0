import ElasticPanels.Entries
import ElasticPanels.Template.Format
import ElasticPanels.Template.Reference

/-!
# Substituting variables

`Variables.replace` puts the value of every known variable in place of its references.  References
to unknown names stay as they are, and what was put in is not read again.
-/

namespace ElasticPanels.Template

/-- The values of the variables of one query cycle. -/
abbrev Variables := Entries Value

namespace Variables

/-- What stands for a reference in the result: the value in the reference's own format, else in
`format`, else as a glob. -/
def expand (vars : Variables) (format : Option String) (r : Reference) : List Char :=
  match vars.get? r.name with
  | some value =>
    let asked := (r.format.orElse fun _ => format).getD "glob"
    ((Format.ofName asked).render r.name value).toList
  | none => r.source

/-- The text with every reference to a known variable expanded. -/
def replace (vars : Variables) (target : String) (format : Option String) : String :=
  .ofList (Text.assemble (vars.expand format) (references target.toList))

end Variables

end ElasticPanels.Template

import ElasticPanels.Json.Basic
import ElasticPanels.Text.Encoding

/-!
# What keeps a value from being written

A value may be nested too deeply, or hold a text that UTF-8 lacks characters for.
`Json.obstacle? levels` finds the first such place of a value that may have the given number of
levels.
-/

namespace ElasticPanels.Json

/-- Why a value cannot be written. -/
inductive Obstacle
  | depth
  | gap (gap : Text.Gap)
  deriving DecidableEq, Repr

/-- What keeps a text from being written. -/
def textObstacle? (s : String) : Option Obstacle := (Text.Encoding.utf8.gap? s.toList).map .gap

mutual

/-- The first obstacle of a value. -/
def obstacle? : Nat → Json → Option Obstacle
  | 0, _ => some .depth
  | _ + 1, str s => textObstacle? s
  | levels + 1, arr items => itemObstacle? levels items
  | levels + 1, obj fields => fieldObstacle? levels fields
  | _ + 1, _ => none

/-- The first obstacle of some items. -/
def itemObstacle? (levels : Nat) : List Json → Option Obstacle
  | [] => none
  | item :: rest => (obstacle? levels item).orElse fun _ => itemObstacle? levels rest

/-- The first obstacle of some entries. -/
def fieldObstacle? (levels : Nat) : List (String × Json) → Option Obstacle
  | [] => none
  | (key, value) :: rest =>
    ((textObstacle? key).orElse fun _ => obstacle? levels value).orElse fun _ =>
      fieldObstacle? levels rest

end

end ElasticPanels.Json

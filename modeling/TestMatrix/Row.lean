import TestMatrix.Json.Value
import TestMatrix.Selector

/-!
# Rows

A `Row` is one complete configuration: a name for people and a setting for every axis, in the order
of the axes. `Row.toObject` is its flat form, in which the name and the axes share one dictionary.
-/

namespace TestMatrix

/-- The titles that are not empty, separated by commas. -/
def joinTitles (titles : List String) : String :=
  ", ".intercalate (titles.filter fun title => !title.isEmpty)

/-- The setting of one axis. -/
structure Cell where
  /-- The name of the axis. -/
  axis : String
  /-- Its setting. -/
  setting : Setting
deriving Inhabited

/-- A complete configuration. -/
structure Row where
  /-- The name that job lists show. -/
  name : String
  /-- The settings of the axes, in the order of the axes. -/
  cells : List Cell
deriving Inhabited

namespace Row

/-- The setting of an axis. -/
def setting? (r : Row) (axis : String) : Option Setting :=
  (r.cells.find? (·.axis == axis)).map (·.setting)

/-- The assignment that a row is. -/
def assignment (r : Row) : Assignment := r.setting?

/-- The token of an axis; empty for an axis that the row does not have. -/
def tokenOf (r : Row) (axis : String) : String :=
  match r.setting? axis with
  | some s => s.token
  | none => ""

/-- The tokens of all axes. -/
def tokens (r : Row) : List String := r.cells.map (·.setting.token)

/-- The flat form of a row: a field for the name, and then one for every axis. -/
def toObject (r : Row) : Json.Object :=
  r.cells.foldl (fun o cell => o.put cell.axis (.text cell.setting.token))
    (Dictionary.put "name" (.text r.name) [])

end Row

end TestMatrix

import TestMatrix.Constraint
import TestMatrix.Random.Stream

/-!
# Plans

A `Plan` is a matrix in the making: its axes and constraints, the rows that it has so far, and the
stream that the next row is drawn from. This module holds what is laid down before rows are made:
`insertAxis`, `constrain` and `nameBy` give the plan that they leave, and whether they did what was
asked or why they refused it. The plan is passed on through all checks and updates in their order,
so that nothing but the order keeps a refused operation from leaving a plan that is half changed.
-/

namespace TestMatrix

/-- How much a plan may search for one row. -/
structure Budget where
  /-- How many searches are started; at least one is. -/
  maxAttempts : Nat := 32
  /-- How many backtrack steps one search may take. -/
  maxBacktracks : Nat := 4096
deriving DecidableEq, Repr, Inhabited

/-- A row of a plan. -/
structure Plan.Entry where
  /-- For every axis the index of its setting. -/
  picks : List Nat
  /-- The row itself. -/
  row : Row
deriving Inhabited

/-- A matrix in the making. -/
structure Plan where
  /-- The axes in the order in which they were added. -/
  axes : List Axis := []
  /-- The position of every axis, by its name. -/
  positions : Dictionary Nat := []
  /-- The constraints in the order in which they were added. -/
  constraints : List Constraint := []
  /-- The positions of the axes whose titles make up the name of a row; all axes if not set. -/
  namePattern : Option (List Nat) := none
  /-- The rows so far. -/
  entries : List Plan.Entry := []
  /-- The set of the picks that there are rows for. -/
  seen : List (List Nat) := []
  /-- Whether it is an error if a row that is asked for cannot be had. -/
  strict : Bool := false
  /-- How much may be searched for one row. -/
  budget : Budget := {}
  /-- The stream that rows are drawn from. -/
  stream : RandomStream
deriving Inhabited

namespace Plan

/-- An empty plan whose rows are drawn from the stream of `seed`. -/
def ofSeed (seed : UInt64) : Plan := { stream := .ofSeed seed }

/-- The rows so far. -/
def rows (p : Plan) : List Row := p.entries.map (·.row)

/-- The position of the axis with the given name. -/
def axisIndex? (p : Plan) (name : String) : Option Nat := p.positions.valueOf? name

/-- The axis with the given name. -/
def axis? (p : Plan) (name : String) : Option Axis := (p.axisIndex? name).bind (p.axes[·]?)

/-- The tokens of the axis with the given name; none if there is no such axis. -/
def tokens (p : Plan) (name : String) : List String :=
  match p.axis? name with
  | some a => a.tokens
  | none => []

/-! ## Axes -/

/-- Adds an axis. The axis itself must be sound, its name must be new, and there must be no rows. -/
def insertAxis (p : Plan) (a : Axis) : Plan × Except ConfigError Unit :=
  match a.check with
  | .error e => (p, .error e)
  | .ok () =>
    if (p.axisIndex? a.name).isSome then (p, .error (.repeatedAxis a.name))
    else if !p.entries.isEmpty then (p, .error (.lateAxis a.name))
    else
      -- The axis gets the position that it is about to have.
      let p := { p with positions := p.positions.put a.name p.axes.length }
      let p := { p with axes := p.axes ++ [a] }
      (p, .ok ())

/-! ## Constraints -/

/-- Refuses a selector that names an axis which the plan does not have; the first such axis decides.
Unknown tokens are no fault, because a setting may be left out for a while. -/
def requireAxes (p : Plan) (context : String) (s : Selector) : Except ConfigError Unit :=
  match s.entries.find? fun entry => (p.axisIndex? entry.1).isNone with
  | some entry => .error (.unknownAxis entry.1 context)
  | none => .ok ()

/-- Refuses an exclusion that names no axis, because it would leave no rows. -/
def requireScope : Constraint → Except ConfigError Unit
  | .exclude s => if s.isEmpty then .error (.emptySelector (Constraint.exclude s).text) else .ok ()
  | _ => .ok ()

/-- Adds a constraint. All axes that it names must be there. -/
def constrain (p : Plan) (c : Constraint) : Plan × Except ConfigError Unit :=
  match requireScope c with
  | .error e => (p, .error e)
  | .ok () =>
    match c.selectors.forM (p.requireAxes c.text) with
    | .error e => (p, .error e)
    | .ok () => ({ p with constraints := p.constraints ++ [c] }, .ok ())

/-! ## Names -/

/-- The position of an axis that the name pattern refers to. -/
def patternIndex (p : Plan) (name : String) : Except ConfigError Nat :=
  match p.axisIndex? name with
  | some i => .ok i
  | none => .error (.unknownAxis name "name pattern")

/-- Sets the axes whose titles make up the names of the rows to come. -/
def nameBy (p : Plan) (names : List String) : Plan × Except ConfigError Unit :=
  match names.mapM p.patternIndex with
  | .error e => (p, .error e)
  | .ok pattern => ({ p with namePattern := some pattern }, .ok ())

end Plan

end TestMatrix

import TestMatrix.Plan.Basic
import TestMatrix.Search

/-!
# Making rows

A row is found by a search that picks a setting for one axis after the other. While it goes on,
settings are left out that a pinned selector does not accept or that bound the picks so far to break
a constraint; a complete row must keep all constraints and be new. `force` makes one row that
matches a selector, unless there is one already, and `fill` makes any number of further rows.

The operations are those of the matrix builder: `force` is `generate_row`, `fill` is
`generate_rows`, `result` is `finish`; `row` and `enter` are its `build_row` and `push_row`, and
`branches` is its `candidates`. Where their form differs, this is why:

* Picks are the list of what has been drawn for the first axes. The builder has an array with a
  place for every axis instead, of which the later ones are open, and tries a further setting by
  reading one place of it differently; here the picks are extended by the index that is tried.
* What `search` does with a complete tuple is `leaf`, and the rest of it is the search of
  `TestMatrix.Search` in the space `problem`.
* Both ways of making rows start searches up to a number of attempts, `generate_row` with flags for
  what the searches have come to. `search` does that once for both, and its outcome has the flags:
  `proven` is the ending `exhausted`, and `saw_duplicate` is `Tally.sawRepeat`, which `fill`
  ignores.
-/

namespace TestMatrix

/-- The setting with the given index. -/
def Axis.settingAt (a : Axis) (index : Nat) : Setting := a.settings.getD index default

/-- Why no row matches a selector. -/
inductive Shortfall where
  /-- The whole space was searched. -/
  | noCombination
  /-- No search ended within the budget. -/
  | budgetSpent
deriving DecidableEq, Repr, Inhabited

/-- The wording of the reason. -/
def Shortfall.message : Shortfall → String
  | .noCombination => "no combination satisfies the registered constraints"
  | .budgetSpent => "search budget exhausted"

/-- What can go wrong with a plan. -/
inductive PlanError where
  /-- Something that it is given is refused. -/
  | config (e : ConfigError)
  /-- A row that is asked for cannot be had. -/
  | unsatisfiable (selector : Selector) (reason : Shortfall)
  /-- There are no rows. -/
  | noRows

/-- The wording of the error. -/
def PlanError.message : PlanError → String
  | .config e => e.message
  | .unsatisfiable selector reason => "no row satisfies " ++ selector.text ++ ": " ++ reason.message
  | .noRows => "matrix generation produced no rows"

namespace Plan

/-! ## Picks -/

/-- The assignment that picks for the first axes are. -/
def assignment (p : Plan) (picks : List Nat) : Assignment := fun name => do
  let i ← p.axisIndex? name
  let a ← p.axes[i]?
  let index ← picks[i]?
  return a.settingAt index

/-- The cells of the row that the picks describe. -/
def cells (p : Plan) (picks : List Nat) : List Cell :=
  p.axes.zipWith (fun a index => ⟨a.name, a.settingAt index⟩) picks

/-- The title of one axis under the picks. -/
def titleAt (p : Plan) (picks : List Nat) (i : Nat) : String :=
  match p.axes[i]?, picks[i]? with
  | some a, some index => a.titleFor (a.settingAt index)
  | _, _ => ""

/-- The name of the row that the picks describe: the titles of the axes in the name pattern. -/
def rowName (p : Plan) (picks : List Nat) : String :=
  let pattern := p.namePattern.getD (List.range p.axes.length)
  joinTitles (pattern.map (p.titleAt picks))

/-- The row that the picks describe. -/
def row (p : Plan) (picks : List Nat) : Row := ⟨p.rowName picks, p.cells picks⟩

/-! ## The search -/

/-- Whether the picks are bound to break a constraint. -/
def isDoomed (p : Plan) (picks : List Nat) : Bool :=
  let assigned := p.assignment picks
  p.constraints.any (·.isBroken assigned)

/-- Whether the pinned selector lets an axis have a setting. -/
def isPinned (pinned : Selector) (a : Axis) (index : Nat) : Bool :=
  match pinned.matcher? a.name with
  | some m => m.accepts (a.settingAt index)
  | none => true

/-- The settings of the next axis that go with the picks so far. -/
def branches (p : Plan) (pinned : Selector) (picks : List Nat) : List Nat :=
  match p.axes[picks.length]? with
  | some a =>
    (List.range a.settings.length).filter fun index =>
      isPinned pinned a index && !p.isDoomed (picks ++ [index])
  | none => []

/-- Whether there is a row with these picks. -/
def isSeen (p : Plan) (picks : List Nat) : Bool := p.seen.contains picks

/-- Whether the row that the picks describe breaks a constraint. -/
def isInvalid (p : Plan) (picks : List Nat) : Bool :=
  let r := p.row picks
  p.constraints.any (·.isBrokenBy r)

/-- What is to be said of picks for all axes. -/
def leaf (p : Plan) (picks : List Nat) : Search.Leaf :=
  if p.isInvalid picks then .rejected
  else if p.isSeen picks then .repeated
  else .accepted

/-- The space in which rows are searched that the pinned selector matches. -/
def problem (p : Plan) (pinned : Selector) : Search.Problem where
  levels := p.axes.map fun a index => (a.settingAt index).weight
  branches := p.branches pinned
  leaf := p.leaf

/-- Searches for a new row within the budget of the plan. -/
def search (p : Plan) (pinned : Selector) : Search.Outcome :=
  Search.retry (p.problem pinned) p.budget.maxBacktracks (max p.budget.maxAttempts 1) p.stream false

/-- Adds the row that the picks describe. -/
def enter (p : Plan) (picks : List Nat) : Plan :=
  { p with entries := p.entries ++ [⟨picks, p.row picks⟩], seen := p.seen.insert picks }

/-! ## Rows -/

/-- Whether a row matches the selector. -/
def isCovered (p : Plan) (s : Selector) : Bool := p.rows.any fun r => s.isMatch r.assignment

/-- Makes a row that matches the selector. There is nothing to do if the selector names an axis and
a row matches it already. That only rows which the plan has can match is no fault; that none can, or
that none is found, is one for a strict plan. The stream moves on in any case. -/
def force (p : Plan) (s : Selector) : Plan × Except PlanError (Option Row) :=
  match p.requireAxes ("generate_row " ++ s.text) s with
  | .error e => (p, .error (.config e))
  | .ok () =>
    if !s.isEmpty && p.isCovered s then (p, .ok none)
    else
      let outcome := p.search s
      let p := { p with stream := outcome.tally.stream }
      let missing (reason : Shortfall) : Except PlanError (Option Row) :=
        if outcome.tally.sawRepeat || !p.strict then .ok none else .error (.unsatisfiable s reason)
      match outcome.ending with
      | .found picks => (p.enter picks, .ok (some (p.row picks)))
      | .exhausted => (p, missing .noCombination)
      | .outOfBudget => (p, missing .budgetSpent)

/-- Makes further rows, as many as asked for, and fewer if a search fails. -/
def fill : Nat → Plan → Plan
  | 0, p => p
  | count + 1, p =>
    let outcome := p.search {}
    let p := { p with stream := outcome.tally.stream }
    match outcome.ending with
    | .found picks => fill count (p.enter picks)
    | _ => p

/-- The rows of a complete plan, and the stream behind the last draw. -/
def result (p : Plan) : Except PlanError (List Row × RandomStream) :=
  if p.entries.isEmpty then .error .noRows else .ok (p.rows, p.stream)

end Plan

end TestMatrix

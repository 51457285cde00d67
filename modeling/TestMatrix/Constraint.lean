import TestMatrix.Row

/-!
# Constraints

A `Constraint` rules rows out: those that match a selector, those that pass a test, or those that
match one selector but not another. On an assignment with open axes `verdict` has three answers;
`some true` means that no completion of the assignment satisfies the constraint. A test is only
asked about complete rows.
-/

namespace TestMatrix

/-- A rule that rows have to keep. -/
inductive Constraint where
  /-- No row matches the selector. -/
  | exclude (selector : Selector)
  /-- No row passes the test; the label stands for the test in messages. -/
  | excludeRow (label : String) (test : Row → Bool)
  /-- A row that matches the condition also matches the requirement. -/
  | imply (condition requirement : Selector)

instance : Inhabited Constraint := ⟨.exclude {}⟩

namespace Constraint

/-- Whether the assignment is bound to break the rule, bound to keep it, or undecided. -/
def verdict (c : Constraint) (assigned : Assignment) : Option Bool :=
  match c with
  | .exclude selector => selector.verdict assigned
  | .excludeRow _ _ => none
  | .imply condition requirement =>
    match condition.verdict assigned, requirement.verdict assigned with
    | some false, _ => some false
    | _, some true => some false
    | some true, some false => some true
    | _, _ => none

/-- Whether the assignment is bound to break the rule. -/
def isBroken (c : Constraint) (assigned : Assignment) : Bool := c.verdict assigned == some true

/-- Whether the row breaks the rule. -/
def isBrokenBy (c : Constraint) (r : Row) : Bool :=
  match c with
  | .excludeRow _ test => test r
  | _ => c.isBroken r.assignment

/-- The selectors that the rule consists of. -/
def selectors : Constraint → List Selector
  | .exclude selector => [selector]
  | .excludeRow _ _ => []
  | .imply condition requirement => [condition, requirement]

/-- The rule in messages. -/
def text : Constraint → String
  | .exclude selector => "exclude " ++ selector.text
  | .excludeRow label _ => "exclude rows where " ++ label
  | .imply condition requirement => "imply " ++ condition.text ++ " => " ++ requirement.text

/-- The rule in developer output. -/
def debugText (c : Constraint) : String := "Constraint(" ++ c.text ++ ")"

end Constraint

end TestMatrix

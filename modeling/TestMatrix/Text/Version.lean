import TestMatrix.Text.Numeral

/-!
# Dotted versions

A version is read as the numbers at the start of its dot-separated components; what follows the
digits of a component (`-ea`, `rc1`) does not count, a component without digits counts as zero, and
so does one whose number needs more than 64 bits. `versionOrder` compares these numbers one by
one, with zeros for what one of the two versions does not have.
-/

namespace TestMatrix.Text

/-- The number that a component contributes. -/
def componentNumber (component : List Char) : Nat :=
  match readDigits 0 (component.takeWhile Char.isDigit) with
  | .ok n => n
  | .error _ => 0

/-- The numbers of the components of a version. -/
def versionNumbers (version : String) : List Nat :=
  (version.toList.splitOn '.').map componentNumber

/-- The first difference of two sequences, of which the shorter goes on with zeros. -/
def comparePadded : List Nat → List Nat → Ordering
  | [], [] => .eq
  | [], y :: ys => (compare 0 y).then (comparePadded [] ys)
  | x :: xs, [] => (compare x 0).then (comparePadded xs [])
  | x :: xs, y :: ys => (compare x y).then (comparePadded xs ys)
termination_by xs ys => xs.length + ys.length

/-- Compares two versions component by component. -/
def versionOrder (a b : String) : Ordering :=
  comparePadded (versionNumbers a) (versionNumbers b)

/-- Whether version `a` comes before version `b`. -/
def versionBelow (a b : String) : Bool := versionOrder a b == .lt

/-- Whether version `a` is `b` or comes after it. -/
def versionAtLeast (a b : String) : Bool := !versionBelow a b

end TestMatrix.Text

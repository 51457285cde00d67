import TestMatrix.Decimal.Basic

/-!
# The shortest decimal of a floating-point number

Every positive finite floating-point number has an interval of real numbers that are rounded to it.
`shortest` is the decimal with the fewest digits in that interval, and of several such decimals the
one nearest to the number itself. It is found by exact arithmetic: on one decimal grid after the
other, from coarse to fine, the two neighbours of the number on the grid are tried. A `Tie` decides
between two neighbours that are equally near.
-/

namespace TestMatrix.Decimal

/-- Which of two equally near neighbours on a grid is taken. -/
inductive Tie where
  /-- The one with an even last digit. -/
  | even
  /-- The greater one. -/
  | up
deriving DecidableEq, Repr, Inhabited

/-- The positive number `m * 2 ^ q`, and whether the next smaller number is only half as far away as
the next greater. -/
structure Binary where
  /-- The significand. -/
  m : Nat
  /-- The binary exponent. -/
  q : Int
  /-- Whether the gap below is half of the gap above. -/
  narrow : Bool
deriving DecidableEq, Repr, Inhabited

/-- The bits of a number consist of a sign, eleven bits of exponent and 52 bits of fraction. -/
def fractionCount : Nat := 0x10000000000000

/-- The absolute value of the finite number with the given bits. -/
def Binary.ofBits (bits : UInt64) : Binary :=
  let fraction : Nat := bits.toNat % fractionCount
  let exponent : Nat := bits.toNat / fractionCount % 0x800
  if exponent = 0 then ⟨fraction, -1074, false⟩
  else ⟨fraction + fractionCount, exponent - 1075, fraction = 0 && 1 < exponent⟩

/-- A power of two times a power of ten, as a quotient of whole numbers. -/
def scaleQuotient (two ten : Int) : Nat × Nat :=
  (Nat.pow 2 two.toNat * Nat.pow 10 ten.toNat,
    Nat.pow 2 (-two).toNat * Nat.pow 10 (-ten).toNat)

/-- Whether `d * 10 ^ k` is rounded to `b`. All sides are compared in quarters of the last place of
`b`; the ends of the interval belong to it if the significand is even. -/
def Binary.admits (b : Binary) (k : Int) (d : Nat) : Bool :=
  let (up, down) := scaleQuotient (2 - b.q) k
  let point := d * up
  let low := (4 * b.m - (if b.narrow then 1 else 2)) * down
  let high := (4 * b.m + 2) * down
  if b.m % 2 = 0 then low ≤ point && point ≤ high else low < point && point < high

/-- The number of whole units `10 ^ k` in `b`, and how what remains compares to half a unit. -/
def Binary.units (b : Binary) (k : Int) : Nat × Ordering :=
  let (up, down) := scaleQuotient b.q (-k)
  (b.m * up / down, compare (2 * (b.m * up % down)) down)

/-- The nearer of the neighbours `d` and `d + 1`, given how the part above `d` compares to a half.
-/
def Tie.nearer (tie : Tie) (d : Nat) : Ordering → Nat
  | .lt => d
  | .gt => d + 1
  | .eq => if tie = .even && d % 2 = 0 then d else d + 1

/-- The digits of the decimal on the grid of `10 ^ k` that is rounded to `b`: the nearer neighbour
of `b` if both are. -/
def Binary.onGrid? (b : Binary) (tie : Tie) (k : Int) : Option Nat :=
  let (d, above) := b.units k
  match b.admits k d, b.admits k (d + 1) with
  | true, true => some (tie.nearer d above)
  | true, false => some d
  | false, true => some (d + 1)
  | false, false => none

/-- Tries `n` grids from that of `10 ^ k` to finer ones. -/
def Binary.firstGrid (b : Binary) (tie : Tie) : Nat → Int → Nat × Int
  | 0, k => ((b.units k).1, k)
  | n + 1, k =>
    match b.onGrid? tie k with
    | some d => (d, k)
    | none => b.firstGrid tie n (k - 1)

/-- An exponent of ten with `b` below its power, and above or near a hundredth of it. -/
def Binary.coarsest (b : Binary) : Int :=
  let (up, down) := scaleQuotient b.q 0
  if down ≤ b.m * up then digitCount (b.m * up / down)
  else 2 - (digitCount (down / (b.m * up)) : Int)

/-- Seventeen digits tell every number from its neighbours, and the first grids may hold none. -/
def gridCount : Nat := 20

/-- The shortest decimal of the finite number `x`. -/
def shortest (tie : Tie) (x : Float) : Decimal :=
  let bits := x.toBits
  let negative := 0x800 ≤ bits.toNat / fractionCount
  let b := Binary.ofBits bits
  if b.m = 0 then ⟨negative, 0, 0⟩
  else
    let (digits, exponent) := b.firstGrid tie gridCount b.coarsest
    ⟨negative, digits, exponent⟩

end TestMatrix.Decimal

import TestMatrix.Decimal.Basic

/-!
# Reading a numeral through one word

`Scaled.ofNumeral` collects the digits of a numeral in a 64-bit word for as long as they fit, and
keeps the power of ten that the last of them counts. `Scaled.toFloat?` multiplies the word by that
power, or divides it by the opposite power, in floating-point arithmetic. The word, the power and
the result are each rounded, so the result may be a neighbour of the number that is nearest to the
decimal.
-/

namespace TestMatrix.Decimal

/-- The number `word * 10 ^ exponent`. -/
structure Scaled where
  /-- The digits, as a whole number of at most 64 bits. -/
  word : Nat
  /-- The power of ten that the last digit counts. -/
  exponent : Int
deriving DecidableEq, Repr, Inhabited

/-- The greatest power of ten that is a floating-point number is that of `maxPower`. -/
def maxPower : Nat := 308

/-- The floating-point number nearest to a power of ten. -/
def powerOfTen (n : Nat) : Float := Float.ofScientific 1 false n

/-- The product of a number and a power of ten, unless it is out of range. -/
def scaleUp? (x : Float) (n : Nat) : Option Float :=
  if maxPower < n then none
  else
    let product := x * powerOfTen n
    if product.isFinite then some product else none

/-- The quotient of a number of at most 64 bits and a power of ten. A power beyond `maxPower` is
divided by in two steps, after which nothing is left of the number if the power is beyond both. -/
def scaleDown (x : Float) (n : Nat) : Float :=
  if n ≤ maxPower then x / powerOfTen n
  else if n ≤ 2 * maxPower then x / powerOfTen maxPower / powerOfTen (n - maxPower)
  else 0

namespace Scaled

/-- Takes digits before the point after those in `word`. From the first on that does not fit, they
only count as places. -/
def takeWhole (word : Nat) : List Char → Scaled
  | [] => ⟨word, 0⟩
  | c :: rest =>
    let next := 10 * word + Text.digitValue c
    if next < Text.wordCount then takeWhole next rest else ⟨word, rest.length + 1⟩

/-- Takes digits after the point. From the first on that does not fit, they do not count. -/
def takeFraction (s : Scaled) : List Char → Scaled
  | [] => s
  | c :: rest =>
    let next := 10 * s.word + Text.digitValue c
    if next < Text.wordCount then takeFraction ⟨next, s.exponent - 1⟩ rest else s

/-- The digits of a numeral that fit into a word, without its sign. -/
def ofNumeral (n : Numeral) : Scaled :=
  let s := takeFraction (takeWhole 0 n.whole) n.fraction
  { s with exponent := s.exponent + n.exponent.getD 0 }

/-- The floating-point number that is made of the word, unless it is out of range. -/
def toFloat? (s : Scaled) : Option Float :=
  if s.word = 0 then some 0
  else match s.exponent with
    | .ofNat n => scaleUp? (Float.ofNat s.word) n
    | .negSucc n => some (scaleDown (Float.ofNat s.word) (n + 1))

end Scaled

/-- The floating-point number that a numeral is read as, unless it is out of range. -/
def Numeral.toFloat? (n : Numeral) : Option Float :=
  (Scaled.ofNumeral n).toFloat?.map fun x => if n.negative then -x else x

end TestMatrix.Decimal

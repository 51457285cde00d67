import TestMatrix.Text.Numeral

/-!
# Decimals and floating-point numbers

A `Decimal` is a whole number of units of a power of ten, with a sign that zero has too. `toFloat`
gives the floating-point number nearest to it. A `Numeral` is a decimal as it is written, with its
digits before and after the point and its exponent, and `Numeral.decimal` is what it denotes.
-/

namespace TestMatrix

/-- The number `digits * 10 ^ exponent`, or its opposite. -/
structure Decimal where
  /-- Whether there is a minus sign. -/
  negative : Bool
  /-- The digits, as a whole number. -/
  digits : Nat
  /-- The power of ten that the last digit counts. -/
  exponent : Int
deriving DecidableEq, Repr, Inhabited

namespace Decimal

/-- The number of decimal digits of `n`; zero has one. -/
def digitCount (n : Nat) : Nat := (Nat.toDigits 10 n).length

/-- Every number that is at least `10 ^ farExponent` is infinite, and every number below its inverse
is zero. -/
def farExponent : Int := 400

/-- The floating-point number nearest to the absolute value of the decimal. -/
def magnitude (d : Decimal) : Float :=
  if d.digits = 0 then 0
  else
    let point := digitCount d.digits + d.exponent
    if point > farExponent then 1 / 0
    else if point < -farExponent then 0
    else Float.ofScientific d.digits (d.exponent < 0) d.exponent.natAbs

/-- The floating-point number nearest to the decimal. -/
def toFloat (d : Decimal) : Float := if d.negative then -d.magnitude else d.magnitude

/-- A decimal as it is written. -/
structure Numeral where
  /-- Whether there is a minus sign. -/
  negative : Bool := false
  /-- The digits before the point. -/
  whole : List Char := []
  /-- The digits after the point. -/
  fraction : List Char := []
  /-- The written exponent, if there is one. -/
  exponent : Option Int := none
deriving DecidableEq, Repr, Inhabited

/-- Whether there is neither a point nor an exponent. -/
def Numeral.isWhole (n : Numeral) : Bool := n.fraction.isEmpty && n.exponent.isNone

/-- The decimal that a numeral denotes. -/
def Numeral.decimal (n : Numeral) : Decimal where
  negative := n.negative
  digits := Text.digitsValue (n.whole ++ n.fraction)
  exponent := n.exponent.getD 0 - n.fraction.length

end Decimal

end TestMatrix

import TestMatrix.Decimal.Scaled

/-!
# JSON numbers

A number is a whole number or a floating-point number, and the two are kept apart: `1` and `1.0` are
different values. `Number.ofNumeral?` is the number that a numeral is read as.
-/

namespace TestMatrix

/-- A JSON number. -/
inductive Number where
  /-- A whole number of at most 64 bits. -/
  | whole (n : Int)
  /-- A finite floating-point number. -/
  | real (x : Float)
deriving Inhabited

namespace Number

/-- The whole number that a numeral is read as. The negative zero, and all that needs more than 64
bits, is no whole number. -/
def wholeOf? (n : Decimal.Numeral) : Option Int :=
  match n.isWhole, Text.readDigits 0 n.whole with
  | true, .ok word =>
    if !n.negative then some word
    else if 0 < word ∧ 2 * word ≤ Text.wordCount then some (-word)
    else none
  | _, _ => none

/-- The number that a numeral is read as, unless it is out of range. -/
def ofNumeral? (n : Decimal.Numeral) : Option Number :=
  match wholeOf? n with
  | some word => some (.whole word)
  | none => n.toFloat?.map .real

end Number

end TestMatrix

import TestMatrix.Decimal.Basic

/-!
# Reading floating-point numbers from running text

`readFloat?` reads an optional sign followed by digits with an optional point among them and an
optional exponent, or by one of the names of infinity and of no number, in any case of letters.
-/

namespace TestMatrix.Decimal

/-- Takes the sign off a text: whether it is a minus sign, and the rest. -/
def takeSign : List Char → Bool × List Char
  | '-' :: rest => (true, rest)
  | '+' :: rest => (false, rest)
  | cs => (false, cs)

/-- The exponent of a numeral, if the rest of the text is one. -/
def readExponent? : List Char → Option Int
  | [] => none
  | c :: rest =>
    let (negative, digits) := takeSign rest
    if (c = 'e' || c = 'E') && !digits.isEmpty && digits.all Char.isDigit then
      let n : Int := Text.digitsValue digits
      some (if negative then -n else n)
    else none

/-- Reads an unsigned numeral. -/
def readNumeral? (cs : List Char) : Option Numeral :=
  let whole := cs.takeWhile Char.isDigit
  let rest := cs.dropWhile Char.isDigit
  let fraction := if rest.head? = some '.' then rest.tail.takeWhile Char.isDigit else []
  let rest := if rest.head? = some '.' then rest.tail.dropWhile Char.isDigit else rest
  if whole.isEmpty && fraction.isEmpty then none
  else if rest.isEmpty then some { whole, fraction }
  else (readExponent? rest).map fun exponent => { whole, fraction, exponent }

/-- Reads the absolute value of a floating-point number. -/
def readMagnitude? (cs : List Char) : Option Float :=
  let word := String.ofList (cs.map Char.toLower)
  if word == "inf" || word == "infinity" then some (1 / 0)
  else if word == "nan" then some (0 / 0)
  else (readNumeral? cs).map fun n => n.decimal.magnitude

/-- Reads a floating-point number. -/
def readFloat? (s : String) : Option Float :=
  let (negative, cs) := takeSign s.toList
  (readMagnitude? cs).map fun x => if negative then -x else x

end TestMatrix.Decimal

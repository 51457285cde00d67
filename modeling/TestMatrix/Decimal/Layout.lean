import TestMatrix.Decimal.Shortest

/-!
# How a decimal is written

A `Layout` says which decimals are written without an exponent and whether whole numbers get a
fraction. `render` writes a decimal accordingly, and `renderFloat` the shortest decimal of a
floating-point number.
-/

namespace TestMatrix.Decimal

/-- The decisions of a decimal number format. -/
structure Layout where
  /-- Whether a decimal with so many digits before the point is written without an exponent. -/
  positional : Int → Bool
  /-- Whether a whole number is written with a fraction of zero. -/
  wholeFraction : Bool
  /-- Which of two equally near decimals stands for a floating-point number. -/
  tie : Tie

/-- The digits of a decimal. -/
def digitChars (d : Decimal) : List Char := Nat.toDigits 10 d.digits

/-- How many digits stand before the point; negative for zeros after it. -/
def point (d : Decimal) : Int := digitCount d.digits + d.exponent

/-- The digits with the point among them and zeros where there are no digits. -/
def positionalChars (l : Layout) (d : Decimal) : List Char :=
  let digits := d.digitChars
  if d.point ≤ 0 then
    ['0', '.'] ++ List.replicate (-d.point).toNat '0' ++ digits
  else if 0 ≤ d.exponent then
    digits ++ List.replicate d.exponent.toNat '0' ++ (if l.wholeFraction then ['.', '0'] else [])
  else digits.take d.point.toNat ++ ['.'] ++ digits.drop d.point.toNat

/-- One digit, the others after the point, and the signed power of ten of the first. -/
def scientificChars (d : Decimal) : List Char :=
  let power := d.point - 1
  let fraction := match d.digitChars with
    | first :: [] => [first]
    | first :: rest => first :: '.' :: rest
    | [] => []
  fraction ++ ['e', if power < 0 then '-' else '+'] ++ Nat.toDigits 10 power.natAbs

/-- The characters of a decimal in the given layout. -/
def render (l : Layout) (d : Decimal) : List Char :=
  (if d.negative then ['-'] else []) ++
    if d.digits = 0 then '0' :: (if l.wholeFraction then ['.', '0'] else [])
    else if l.positional d.point then positionalChars l d
    else scientificChars d

/-- The shortest decimal of a finite floating-point number in the given layout. -/
def renderFloat (l : Layout) (x : Float) : List Char := render l (shortest l.tie x)

/-- The layout of running text: never an exponent, and whole numbers without a fraction. -/
def plain : Layout := ⟨fun _ => true, false, .up⟩

/-- A floating-point number in running text. -/
def plainText (x : Float) : String :=
  if x.isNaN then "NaN"
  else if x.isInf then (if x < 0 then "-inf" else "inf")
  else String.ofList (renderFloat plain x)

end TestMatrix.Decimal

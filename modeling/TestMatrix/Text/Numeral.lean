/-!
# Decimal numerals

A numeral of an unsigned 64-bit word is a run of ASCII digits, perhaps after one plus sign.
`readWord` reads one and says what is wrong with anything else; `digitsValue` is the number that a
list of digits denotes, of any length.
-/

namespace TestMatrix.Text

/-- The value of a decimal digit. -/
def digitValue (c : Char) : Nat := c.toNat - '0'.toNat

/-- The number that the digits denote, continuing `n`. -/
def digitsFrom (n : Nat) : List Char → Nat
  | [] => n
  | c :: rest => digitsFrom (10 * n + digitValue c) rest

/-- The number that the digits denote. -/
def digitsValue (cs : List Char) : Nat := digitsFrom 0 cs

/-- The number of 64-bit words. -/
def wordCount : Nat := 0x10000000000000000

/-- Why a text is not the numeral of a 64-bit word. -/
inductive NumeralError where
  /-- There is nothing to read. -/
  | empty
  /-- Something other than a digit was met, or a sign with nothing after it. -/
  | invalidDigit
  /-- The number needs more than 64 bits. -/
  | tooLarge
deriving DecidableEq, Repr

/-- The wording of the error. -/
def NumeralError.message : NumeralError → String
  | .empty => "cannot parse integer from empty string"
  | .invalidDigit => "invalid digit found in string"
  | .tooLarge => "number too large to fit in target type"

/-- Reads digits one after the other; the first that is wrong, or too much, decides the error. -/
def readDigits (n : Nat) : List Char → Except NumeralError Nat
  | [] => .ok n
  | c :: rest =>
    if !c.isDigit then .error .invalidDigit
    else if wordCount ≤ 10 * n + digitValue c then .error .tooLarge
    else readDigits (10 * n + digitValue c) rest

/-- Reads the numeral of a 64-bit word. -/
def readWord : List Char → Except NumeralError Nat
  | [] => .error .empty
  | ['+'] => .error .invalidDigit
  | '+' :: rest => readDigits 0 rest
  | cs => readDigits 0 cs

theorem digitsValue_nil : digitsValue [] = 0 := rfl

end TestMatrix.Text

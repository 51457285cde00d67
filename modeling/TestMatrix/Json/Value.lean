import TestMatrix.Dictionary
import TestMatrix.Json.Number

/-!
# JSON values

An object that holds data is a dictionary, so it is written with its keys in ascending order
whatever order they came in; a record has its members in the order of its fields.
-/

namespace TestMatrix

/-- A JSON value. -/
inductive Json where
  /-- The value `null`. -/
  | null
  /-- A truth value. -/
  | bool (b : Bool)
  /-- A number. -/
  | number (n : Number)
  /-- A text. -/
  | text (s : String)
  /-- A list of values. -/
  | array (items : List Json)
  /-- Keys with their values. -/
  | object (members : List (String × Json))
deriving Inhabited

namespace Json

/-- An object that holds data. -/
abbrev Object := Dictionary Json

/-- A whole number as a value. -/
def ofNat (n : Nat) : Json := .number (.whole n)

/-- The text, if the value is one. -/
def text? : Json → Option String
  | .text s => some s
  | _ => none

/-- The members, if the value is an object. -/
def object? : Json → Option Object
  | .object members => some members
  | _ => none

end Json

end TestMatrix

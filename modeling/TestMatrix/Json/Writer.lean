import TestMatrix.Decimal.Layout
import TestMatrix.Json.Value

/-!
# JSON texts

`write` gives the text of a value in a `Layout`, which says what stands between the items of a list
and after a colon. `compact` has nothing there; `pretty` starts a new line for every item, indented
by two spaces for every list or object around it. Both escape the same characters: the quote, the
backslash and everything below the space.
-/

namespace TestMatrix.Json

/-! ## Leaves -/

/-- The two hexadecimal digits of a number below 256. -/
def hexPair (n : Nat) : List Char := [Nat.digitChar (n / 16), Nat.digitChar (n % 16)]

/-- How a character is written inside a text. -/
def escapeChar (c : Char) : List Char :=
  if c = '"' then ['\\', '"']
  else if c = '\\' then ['\\', '\\']
  else if c = '\x08' then ['\\', 'b']
  else if c = '\x0c' then ['\\', 'f']
  else if c = '\n' then ['\\', 'n']
  else if c = '\r' then ['\\', 'r']
  else if c = '\t' then ['\\', 't']
  else if c < ' ' then ['\\', 'u', '0', '0'] ++ hexPair c.toNat
  else [c]

/-- A text between quotes. -/
def writeText (s : String) : List Char := '"' :: s.toList.flatMap escapeChar ++ ['"']

/-- Floating-point numbers always show a fraction or an exponent; the exponent comes from `1e16` on
and below `1e-5`. -/
def realLayout : Decimal.Layout := ⟨fun point => -5 < point && point ≤ 16, true, .even⟩

/-- The digits of a whole number. -/
def writeInt (n : Int) : List Char :=
  if n < 0 then '-' :: Nat.toDigits 10 n.natAbs else Nat.toDigits 10 n.natAbs

/-- A number; there is no numeral for infinity or for no number, and `null` stands for them. -/
def writeNumber : Number → List Char
  | .whole n => writeInt n
  | .real x => if x.isFinite then Decimal.renderFloat realLayout x else "null".toList

/-! ## Lists and objects -/

/-- What is written between the parts of a value besides the punctuation. -/
structure Layout where
  /-- What goes before an item, or before a closing bracket, inside so many brackets. -/
  gap : Nat → List Char
  /-- What goes after a colon. -/
  afterColon : List Char

mutual

/-- The text of a value inside `depth` brackets. -/
def write (l : Layout) (depth : Nat) : Json → List Char
  | .null => "null".toList
  | .bool b => if b then "true".toList else "false".toList
  | .number n => writeNumber n
  | .text s => writeText s
  | .array [] => ['[', ']']
  | .array (item :: items) =>
    '[' :: l.gap (depth + 1) ++ write l (depth + 1) item ++ writeItems l (depth + 1) items
      ++ l.gap depth ++ [']']
  | .object [] => ['\x7b', '\x7d']
  | .object ((key, value) :: members) =>
    '\x7b' :: l.gap (depth + 1) ++ writeText key ++ ':' :: l.afterColon
      ++ write l (depth + 1) value ++ writeMembers l (depth + 1) members
      ++ l.gap depth ++ ['\x7d']

/-- The items of a list after the first. -/
def writeItems (l : Layout) (depth : Nat) : List Json → List Char
  | [] => []
  | item :: items => ',' :: l.gap depth ++ write l depth item ++ writeItems l depth items

/-- The members of an object after the first. -/
def writeMembers (l : Layout) (depth : Nat) : List (String × Json) → List Char
  | [] => []
  | (key, value) :: members =>
    ',' :: l.gap depth ++ writeText key ++ ':' :: l.afterColon ++ write l depth value
      ++ writeMembers l depth members

end

/-- Nothing between the parts. -/
def compactLayout : Layout := ⟨fun _ => [], []⟩

/-- A line for every item, indented by two spaces for every bracket around it. -/
def prettyLayout : Layout := ⟨fun depth => '\n' :: List.replicate (2 * depth) ' ', [' ']⟩

/-- The text of a value on one line without spaces. -/
def compact (j : Json) : String := String.ofList (write compactLayout 0 j)

/-- The indented text of a value. -/
def pretty (j : Json) : String := String.ofList (write prettyLayout 0 j)

end TestMatrix.Json

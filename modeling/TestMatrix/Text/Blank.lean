import TestMatrix.Text.CodeRange

/-!
# White space

`isBlank` is the Unicode property White_Space, and `trim` takes blank characters off both ends of a
text. A text that is not empty after trimming has something to say; `filled?` gives it.
-/

namespace TestMatrix.Text

/-- The property White_Space. -/
def blankRanges : List (Nat × Nat) := [
  (0x9, 0xD), (0x20, 0x20), (0x85, 0x85), (0xA0, 0xA0), (0x1680, 0x1680), (0x2000, 0x200A),
  (0x2028, 0x2029), (0x202F, 0x202F), (0x205F, 0x205F), (0x3000, 0x3000)]

/-- Whether `c` is white space. -/
def isBlank (c : Char) : Bool := inRanges blankRanges c

/-- The characters without the blank ones at both ends. -/
def trimBlank (cs : List Char) : List Char :=
  ((cs.dropWhile isBlank).reverse.dropWhile isBlank).reverse

/-- The text without the blank characters at both ends. -/
def trim (s : String) : String := String.ofList (trimBlank s.toList)

/-- The trimmed text, unless nothing is left of it. -/
def filled? (s : String) : Option String :=
  if (trim s).isEmpty then none else some (trim s)

theorem trimBlank_nil : trimBlank [] = [] := rfl

end TestMatrix.Text

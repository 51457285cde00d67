import TestMatrix.Environment
import TestMatrix.Text.Case
import TestMatrix.Text.Line

/-!
# Blocks of the output file

A value that a workflow step hands on is a block of the output file: a line with the key and a
delimiter, the lines of the value, and a line with the delimiter alone. `OutputBlock.render` is the
block of a key and a value; a value with the delimiter among its lines is refused.
-/

namespace TestMatrix.OutputBlock

/-- The delimiter of a key. -/
def delimiter (key : String) : String := Text.toUpper key ++ "_BODY"

/-- Whether the delimiter of the key is a line of the value. -/
def collides (key value : String) : Bool :=
  (Text.lines value.toList).contains (delimiter key).toList

/-- The block without a check of its value. -/
def block (key value : String) : String :=
  key ++ "<<" ++ delimiter key ++ "\n" ++ value ++ "\n" ++ delimiter key ++ "\n"

/-- The block of a key and a value. -/
def render (key value : String) : Except EnvironmentError String :=
  if collides key value then .error (.delimiterInValue key (delimiter key))
  else .ok (block key value)

end TestMatrix.OutputBlock

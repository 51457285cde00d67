/-!
# Lines

A text is divided into lines in two ways. `List.splitOn` at the line feed keeps every character, and
what follows the last line feed is a line even if it is empty. `lines` gives the lines that a reader
sees: a line ends at a line feed, a carriage return before that line feed belongs to the ending, and
nothing after the last line feed is no line.
-/

namespace TestMatrix.Text

/-- The line without a carriage return at its end. -/
def dropReturn (line : List Char) : List Char :=
  if line.getLast? = some '\r' then line.dropLast else line

/-- The lines of a list of fields between line feeds: all but the last have been ended by one. -/
def endLines : List (List Char) → List (List Char)
  | [] => []
  | [last] => if last.isEmpty then [] else [last]
  | line :: rest => dropReturn line :: endLines rest

/-- The lines of a text. -/
def lines (cs : List Char) : List (List Char) := endLines (cs.splitOn '\n')

end TestMatrix.Text

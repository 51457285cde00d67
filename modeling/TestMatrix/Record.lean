import TestMatrix.Json.Literal
import TestMatrix.Json.Writer
import TestMatrix.Plan.Basic

/-!
# Settings, rows and budgets as records

Records are objects with their members in the order of their fields. A setting leaves out a title
that it does not have and attributes if there are none; reading it back, what is left out is filled
in, and what is not known is skipped.
-/

namespace TestMatrix

/-! ## Settings -/

namespace Setting

/-- The setting as a record. -/
def toJson (s : Setting) : Json :=
  .object <|
    [("token", .text s.token)] ++
    (s.title.map fun title => ("title", Json.text title)).toList ++
    [("weight", .number (.real s.weight))] ++
    if s.attributes.isEmpty then []
    else [("attributes", .object (s.attributes.map fun (key, value) => (key, .text value)))]

/-- Reads a title: a text, or `null` for none. -/
def title? : Option Json.Literal → Option (Option String)
  | none => some none
  | some .null => some none
  | some (.text title) => title.map some
  | some _ => none

/-- Reads an attribute, which is a text. -/
def attributeOf? (member : Option String × Json.Literal) : Option (String × String) := do
  return (← member.1, ← member.2.text?)

/-- Reads attributes: an object of texts. -/
def attributes? : Option Json.Literal → Option (Dictionary String)
  | none => some []
  | some (.object members) => (members.mapM attributeOf?).map Dictionary.ofPairs
  | some _ => none

/-- Reads a setting. -/
def ofLiteral? (l : Json.Literal) : Option Setting := do
  match ← l.record? ["token", "title", "weight", "attributes"] with
  | [some token, title, some weight, attributes] =>
    return {
      token := ← token.text?
      title := ← title? title
      weight := ← weight.real?
      attributes := ← attributes? attributes }
  | _ => none

end Setting

/-! ## Budgets -/

namespace Budget

/-- The budget as a record. -/
def toJson (b : Budget) : Json :=
  .object [("max_attempts", .ofNat b.maxAttempts), ("max_backtracks", .ofNat b.maxBacktracks)]

/-- Reads a budget. -/
def ofLiteral? (l : Json.Literal) : Option Budget := do
  match ← l.record? ["max_attempts", "max_backtracks"] with
  | [some attempts, some backtracks] => return ⟨← attempts.word?, ← backtracks.word?⟩
  | _ => none

end Budget

/-! ## Rows -/

/-- The cell as a record. -/
def Cell.toJson (c : Cell) : Json :=
  .object [("axis", .text c.axis), ("value", c.setting.toJson)]

/-- The row as a record. -/
def Row.toJson (r : Row) : Json :=
  .object [("name", .text r.name), ("cells", .array (r.cells.map Cell.toJson))]

end TestMatrix

import TestMatrix.Text.CaseTable

/-!
# Upper and lower case

`toLower` and `toUpper` are the full case mappings of Unicode, in which one character may become
several (`ß` becomes `SS`). Both work character by character, but for one rule: a capital sigma that
ends a word becomes the final form of the small letter. The word is looked for in the text that is
mapped and nowhere else.
-/

namespace TestMatrix.Text

/-- The image of `c` in the runs, or `c` itself. -/
def mapByRuns (runs : List CaseRun) (c : Char) : Char :=
  match runs.find? (·.covers c.toNat) with
  | some r => Char.ofNat (r.apply c.toNat)
  | none => c

/-- The expansion of `c`, if it has one, and else its image in the runs. -/
def mapCase (expansions : List (Nat × List Nat)) (runs : List CaseRun) (c : Char) : List Char :=
  match expansions.lookup c.toNat with
  | some image => image.map Char.ofNat
  | none => [mapByRuns runs c]

/-- The lower case of a character that stands alone. -/
def lowerChar (c : Char) : List Char :=
  if c.toNat < 128 then [c.toLower] else mapCase lowerExpansions lowerRuns c

/-- The upper case of a character. -/
def upperChar (c : Char) : List Char :=
  if c.toNat < 128 then [c.toUpper] else mapCase upperExpansions upperRuns c

/-! ## The final sigma -/

/-- Whether the first character that is not looked through is a cased letter. -/
def meetsCased (cs : List Char) : Bool :=
  match cs.dropWhile (inRanges caseIgnorableRanges) with
  | [] => false
  | c :: _ => inRanges casedRanges c

/-- A capital sigma between `before`, read backwards, and `after` ends a word if there is a letter
before it and none after. -/
def lowerSigma (before after : List Char) : Char :=
  if meetsCased before && !meetsCased after then 'ς' else 'σ'

/-! ## Texts -/

/-- The lower case of the characters that follow `before`, which is read backwards. -/
def lowerAfter (before : List Char) : List Char → List Char
  | [] => []
  | c :: rest =>
    (if c = 'Σ' then [lowerSigma before rest] else lowerChar c) ++ lowerAfter (c :: before) rest

/-- The lower case of a list of characters. -/
def lowerList (cs : List Char) : List Char := lowerAfter [] cs

/-- The upper case of a list of characters. -/
def upperList (cs : List Char) : List Char := cs.flatMap upperChar

/-- The lower case of a text. -/
def toLower (s : String) : String := String.ofList (lowerList s.toList)

/-- The upper case of a text. -/
def toUpper (s : String) : String := String.ofList (upperList s.toList)

theorem lowerList_nil : lowerList [] = [] := rfl

/-- Upper case goes character by character, without regard to what stands around. -/
theorem upperList_append (cs ds : List Char) :
    upperList (cs ++ ds) = upperList cs ++ upperList ds := by
  simp [upperList]

end TestMatrix.Text

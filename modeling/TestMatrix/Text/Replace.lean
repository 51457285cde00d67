/-!
# Replacement

`replaceAll` replaces every occurrence of a pattern in a text, from left to right and without
overlap. The empty pattern occurs once before every character and once at the end.
-/

namespace TestMatrix.Text

/-- Replaces the pattern, which is not empty, behind the first `skip` characters, which belong to an
occurrence that has been replaced. -/
def replaceFrom (pattern image : List Char) : Nat → List Char → List Char
  | _, [] => []
  | skip + 1, _ :: rest => replaceFrom pattern image skip rest
  | 0, c :: rest =>
    if pattern.isPrefixOf (c :: rest) then
      image ++ replaceFrom pattern image (pattern.length - 1) rest
    else c :: replaceFrom pattern image 0 rest

/-- The text with every occurrence of `pattern` replaced by `image`. -/
def replaceAll (s pattern image : String) : String :=
  String.ofList <|
    if pattern.isEmpty then image.toList ++ s.toList.flatMap (· :: image.toList)
    else replaceFrom pattern.toList image.toList 0 s.toList

end TestMatrix.Text

/-!
# UTF-8

`utf8Pieces` reads bytes as UTF-8. Bytes that are not well formed are divided into the longest
pieces that begin like a character, or single bytes if there are none; each such piece is `none`
among the characters. So bytes are a text if no piece is `none`, and they are shown with a
replacement character for each `none`.
-/

namespace TestMatrix.Text

/-- What a leading byte announces: its share of the code point, how many bytes follow, and the range
in which the first of them lies. -/
def leadByte? (b : Nat) : Option (Nat × Nat × Nat × Nat) :=
  if 0xC2 ≤ b ∧ b ≤ 0xDF then some (b - 0xC0, 1, 0x80, 0xBF)
  else if b = 0xE0 then some (0, 2, 0xA0, 0xBF)
  else if b = 0xED then some (0xD, 2, 0x80, 0x9F)
  else if 0xE1 ≤ b ∧ b ≤ 0xEF then some (b - 0xE0, 2, 0x80, 0xBF)
  else if b = 0xF0 then some (0, 3, 0x90, 0xBF)
  else if 0xF1 ≤ b ∧ b ≤ 0xF3 then some (b - 0xF0, 3, 0x80, 0xBF)
  else if b = 0xF4 then some (4, 3, 0x80, 0x8F)
  else none

/-- A character of which some bytes have been read. -/
structure Partial where
  /-- The share of the bytes read in the code point. -/
  code : Nat
  /-- How many bytes are missing. -/
  missing : Nat
  /-- The least value of the next byte. -/
  low : Nat
  /-- The greatest value of the next byte. -/
  high : Nat
deriving DecidableEq, Repr, Inhabited

/-- Reads a byte that begins a character: the piece that it is, or the character that it begins. -/
def beginPiece (b : Nat) : List (Option Char) × Option Partial :=
  if b < 0x80 then ([some (Char.ofNat b)], none)
  else match leadByte? b with
    | some (code, missing, low, high) => ([], some ⟨code, missing, low, high⟩)
    | none => ([none], none)

/-- Reads one byte: the pieces that end with it or before it, and the character it is part of. -/
def utf8Step (state : Option Partial) (b : Nat) : List (Option Char) × Option Partial :=
  match state with
  | none => beginPiece b
  | some p =>
    if p.low ≤ b ∧ b ≤ p.high then
      let code := 64 * p.code + (b - 0x80)
      if p.missing ≤ 1 then ([some (Char.ofNat code)], none)
      else ([], some ⟨code, p.missing - 1, 0x80, 0xBF⟩)
    else
      let (pieces, next) := beginPiece b
      (none :: pieces, next)

/-- The characters and ill-formed pieces of the bytes that follow those of an unfinished character.
-/
def utf8From : Option Partial → List UInt8 → List (Option Char)
  | none, [] => []
  | some _, [] => [none]
  | state, b :: rest =>
    let (pieces, next) := utf8Step state b.toNat
    pieces ++ utf8From next rest

/-- The characters and ill-formed pieces of some bytes. -/
def utf8Pieces (bytes : List UInt8) : List (Option Char) := utf8From none bytes

/-- The text that the bytes are, if they are well formed. -/
def ofUtf8? (bytes : List UInt8) : Option String :=
  ((utf8Pieces bytes).mapM id).map String.ofList

/-- The text that is shown for the bytes. -/
def showUtf8 (bytes : List UInt8) : String :=
  String.ofList ((utf8Pieces bytes).map fun piece => piece.getD '\uFFFD')

end TestMatrix.Text

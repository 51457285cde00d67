import TestMatrix.Decimal.Basic

/-!
# JSON tokens

`Token.ofText?` divides a text into its tokens. It refuses a text with anything but tokens and
blanks in it, but a token may still fail to denote a value: a text with half of a surrogate pair, or
a numeral beyond the range of floating-point numbers. Such a token is kept, because a reader that
skips it need not mind.
-/

namespace TestMatrix.Json

/-- A token of a JSON text. -/
inductive Token where
  /-- An opening bracket. -/
  | openArray
  /-- A closing bracket. -/
  | closeArray
  /-- An opening brace. -/
  | openObject
  /-- A closing brace. -/
  | closeObject
  /-- A comma. -/
  | comma
  /-- A colon. -/
  | colon
  /-- The word `null`. -/
  | null
  /-- The word `true` or `false`. -/
  | bool (b : Bool)
  /-- A numeral. -/
  | number (n : Decimal.Numeral)
  /-- A text, with its value unless it holds half of a surrogate pair. -/
  | text (value : Option String)
deriving Inhabited

/-! ## Texts -/

/-- A part of a text: a character, or a code unit given by four hexadecimal digits. -/
inductive Piece where
  /-- A character that stands for itself or is given by a short escape. -/
  | char (c : Char)
  /-- A UTF-16 code unit. -/
  | unit (n : Nat)
deriving DecidableEq, Repr, Inhabited

/-- The value of a hexadecimal digit in either case. -/
def hexValue? (c : Char) : Option Nat :=
  if '0' ≤ c ∧ c ≤ '9' then some (c.toNat - '0'.toNat)
  else if 'a' ≤ c ∧ c ≤ 'f' then some (c.toNat - 'a'.toNat + 10)
  else if 'A' ≤ c ∧ c ≤ 'F' then some (c.toNat - 'A'.toNat + 10)
  else none

/-- The code unit given by four hexadecimal digits. -/
def hexUnit? (a b c d : Char) : Option Nat := do
  return 4096 * (← hexValue? a) + 256 * (← hexValue? b) + 16 * (← hexValue? c) + (← hexValue? d)

/-- The character that a short escape stands for. -/
def shortEscape? (c : Char) : Option Char :=
  if c = '"' ∨ c = '\\' ∨ c = '/' then some c
  else if c = 'b' then some '\x08'
  else if c = 'f' then some '\x0c'
  else if c = 'n' then some '\n'
  else if c = 'r' then some '\r'
  else if c = 't' then some '\t'
  else none

/-- The rest of a text after its opening quote: the pieces, after those of `done` in reverse, and
what follows the closing quote. -/
def takePieces (done : List Piece) : List Char → Option (List Piece × List Char)
  | [] => none
  | '"' :: rest => some (done.reverse, rest)
  | '\\' :: 'u' :: a :: b :: c :: d :: rest =>
    match hexUnit? a b c d with
    | some n => takePieces (.unit n :: done) rest
    | none => none
  | '\\' :: e :: rest =>
    match shortEscape? e with
    | some c => takePieces (.char c :: done) rest
    | none => none
  | c :: rest => if c < ' ' ∨ c = '\\' then none else takePieces (.char c :: done) rest

/-- The characters that the pieces stand for, unless one half of a surrogate pair lacks the other.
-/
def joinPieces : List Piece → Option (List Char)
  | [] => some []
  | .char c :: rest => (joinPieces rest).map (c :: ·)
  | .unit high :: .unit low :: rest =>
    if 0xD800 ≤ high ∧ high < 0xDC00 then
      if 0xDC00 ≤ low ∧ low < 0xE000 then
        (joinPieces rest).map
          (Char.ofNat (0x10000 + 0x400 * (high - 0xD800) + (low - 0xDC00)) :: ·)
      else none
    else if 0xDC00 ≤ high ∧ high < 0xE000 then none
    else (joinPieces (.unit low :: rest)).map (Char.ofNat high :: ·)
  | .unit n :: rest =>
    if 0xD800 ≤ n ∧ n < 0xE000 then none else (joinPieces rest).map (Char.ofNat n :: ·)

/-! ## Numerals -/

/-- The part of a numeral from the point on, if there is one: the digits and what follows them. -/
def takeFraction : List Char → Option (List Char × List Char)
  | '.' :: rest =>
    let digits := rest.takeWhile Char.isDigit
    if digits.isEmpty then none else some (digits, rest.dropWhile Char.isDigit)
  | cs => some ([], cs)

/-- The exponent of a numeral, if there is one, and what follows it. -/
def takeExponent : List Char → Option (Option Int × List Char)
  | [] => some (none, [])
  | c :: rest =>
    if c = 'e' ∨ c = 'E' then
      let negative := rest.head? = some '-'
      let rest := if rest.head? = some '-' ∨ rest.head? = some '+' then rest.tail else rest
      let digits := rest.takeWhile Char.isDigit
      let power : Int := Text.digitsValue digits
      if digits.isEmpty then none
      else some (some (if negative then -power else power), rest.dropWhile Char.isDigit)
    else some (none, c :: rest)

/-- Whether the digits before the point are written as they must be, without a leading zero. -/
def isWholePart : List Char → Bool
  | [] => false
  | ['0'] => true
  | c :: _ => c != '0'

/-- The numeral at the start of a text after its sign, and what follows it. -/
def takeNumeral (negative : Bool) (cs : List Char) : Option (Decimal.Numeral × List Char) := do
  let whole := cs.takeWhile Char.isDigit
  if !isWholePart whole then none
  else
    let (fraction, rest) ← takeFraction (cs.dropWhile Char.isDigit)
    let (exponent, rest) ← takeExponent rest
    return ({ negative, whole, fraction, exponent }, rest)

/-! ## Texts of tokens -/

/-- Whether `c` may stand between tokens. -/
def isSpace (c : Char) : Bool := c = ' ' || c = '\n' || c = '\t' || c = '\r'

/-- The token at the start of a text that does not start with a space, and what follows it. -/
def Token.take : List Char → Option (Token × List Char)
  | '[' :: rest => some (.openArray, rest)
  | ']' :: rest => some (.closeArray, rest)
  | '\x7b' :: rest => some (.openObject, rest)
  | '\x7d' :: rest => some (.closeObject, rest)
  | ',' :: rest => some (.comma, rest)
  | ':' :: rest => some (.colon, rest)
  | '"' :: rest =>
    (takePieces [] rest).map fun (pieces, rest) =>
      (.text ((joinPieces pieces).map String.ofList), rest)
  | 'n' :: 'u' :: 'l' :: 'l' :: rest => some (.null, rest)
  | 't' :: 'r' :: 'u' :: 'e' :: rest => some (.bool true, rest)
  | 'f' :: 'a' :: 'l' :: 's' :: 'e' :: rest => some (.bool false, rest)
  | '-' :: rest => (takeNumeral true rest).map fun (n, rest) => (.number n, rest)
  | cs => (takeNumeral false cs).map fun (n, rest) => (.number n, rest)

/-- The tokens of a text, after those of `done` in reverse. Every token takes at least one
character, so the length of the text bounds their number. -/
def Token.takeAll (done : List Token) : Nat → List Char → Option (List Token)
  | _, [] => some done.reverse
  | 0, _ :: _ => none
  | n + 1, c :: rest =>
    if isSpace c then takeAll done n rest
    else match Token.take (c :: rest) with
      | some (token, rest) => takeAll (token :: done) n rest
      | none => none

/-- The tokens of a text. -/
def Token.ofText? (cs : List Char) : Option (List Token) := Token.takeAll [] cs.length cs

end TestMatrix.Json

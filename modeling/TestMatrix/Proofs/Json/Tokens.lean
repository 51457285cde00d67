import Mathlib.Data.List.Basic
import TestMatrix.Json.Token
import TestMatrix.Json.Writer
import TestMatrix.Proofs.Text.Numeral

/-!
# Tokens read back

What a writer writes is divided into the tokens that it was made of. `Token.ofText?` counts the
characters that are left to bound its recursion; more of them do no harm (`takeAll_mono`), and so
the tokens of a text are known from those of its parts: a space in front adds nothing
(`ofText?_space`), and a token in front is the first of them (`ofText?_token`).

Where a token ends does not depend on what follows it, but for a numeral, which must be followed by
something that does not go on with it (`Closed`).
-/

namespace TestMatrix.Json

variable {cs rest : List Char} {ts : List Token} {c : Char}

/-! ## One token after the other -/

namespace Token

/-- More characters to count do no harm. -/
theorem takeAll_mono {n m : Nat} {done : List Token} (hle : n ≤ m)
    (h : takeAll done n cs = some ts) : takeAll done m cs = some ts := by
  -- By induction on the smaller allowance, which pays for one space or one token at a time.
  induction n generalizing m done cs with
  | zero =>
    cases cs with
    | nil => rwa [takeAll] at h ⊢
    | cons c cs => simp [takeAll] at h
  | succ n ih =>
    obtain ⟨m, rfl⟩ : ∃ k, m = k + 1 := ⟨m - 1, by omega⟩
    have hle : n ≤ m := Nat.le_of_succ_le_succ hle
    cases cs with
    | nil => rwa [takeAll] at h ⊢
    | cons c cs =>
      rw [takeAll] at h ⊢
      split at h
      · next hspace => rw [if_pos hspace]; exact ih hle h
      · next hspace =>
        rw [if_neg hspace]
        split at h
        · next token rest htake => exact ih hle h
        · simp at h

/-- The tokens that are there already come first. -/
theorem takeAll_done {n : Nat} (done : List Token) :
    takeAll done n cs = (takeAll [] n cs).map (done.reverse ++ ·) := by
  induction n generalizing done cs with
  | zero => cases cs <;> simp [takeAll]
  | succ n ih =>
    cases cs with
    | nil => simp [takeAll]
    | cons c cs =>
      rw [takeAll, takeAll]
      split
      · exact ih done
      · split
        · next token rest htake =>
          rw [ih (token :: done), ih [token], Option.map_map]
          simp [Function.comp_def]
        · rfl

/-- A space in front adds no token. -/
theorem ofText?_space (hspace : isSpace c = true) (h : ofText? cs = some ts) :
    ofText? (c :: cs) = some ts := by
  rwa [ofText?, List.length_cons, takeAll, if_pos hspace]

/-- A token in front is the first of the tokens. -/
theorem ofText?_token {t : Token} (hspace : isSpace c = false)
    (htake : take (c :: cs) = some (t, rest)) (hlength : rest.length ≤ cs.length)
    (h : ofText? rest = some ts) : ofText? (c :: cs) = some (t :: ts) := by
  have hrest : takeAll [] cs.length rest = some ts := takeAll_mono hlength h
  simp only [ofText?, List.length_cons, takeAll, hspace, Bool.false_eq_true, if_false, htake]
  rw [takeAll_done, hrest]
  rfl

/-- Spaces in front add no tokens. -/
theorem ofText?_spaces {spaces : List Char} (hspaces : ∀ c ∈ spaces, isSpace c = true)
    (h : ofText? rest = some ts) : ofText? (spaces ++ rest) = some ts := by
  induction spaces with
  | nil => exact h
  | cons c spaces ih =>
    rw [List.forall_mem_cons] at hspaces
    exact ofText?_space hspaces.1 (ih hspaces.2)

/-- A word is a token, whatever follows it. -/
theorem ofText?_word {t : Token} (word : List Char) (hspace : isSpace c = false)
    (htake : ∀ cs, take (c :: (word ++ cs)) = some (t, cs)) (h : ofText? rest = some ts) :
    ofText? (c :: (word ++ rest)) = some (t :: ts) :=
  ofText?_token hspace (htake rest) (by rw [List.length_append]; omega) h

/-- So is a punctuation mark. -/
theorem ofText?_mark {t : Token} (hspace : isSpace c = false)
    (htake : ∀ cs, take (c :: cs) = some (t, cs)) (h : ofText? rest = some ts) :
    ofText? (c :: rest) = some (t :: ts) :=
  ofText?_word [] hspace htake h

end Token

/-! ## Texts -/

/-- The piece that a character is read back as. -/
def pieceOf (c : Char) : Piece :=
  if c < ' ' ∧ c ∉ ['\x08', '\x0c', '\n', '\r', '\t'] then .unit c.toNat else .char c

/-- The four hexadecimal digits of an escape are read as the character that was escaped. -/
theorem hexUnit?_hexPair : ∀ n < 32,
    hexUnit? '0' '0' (Nat.digitChar (n / 16)) (Nat.digitChar (n % 16)) = some n := by
  decide

/-- A character is read back as its piece, however it is escaped. -/
theorem takePieces_escapeChar (done : List Piece) (c : Char) (rest : List Char) :
    takePieces done (escapeChar c ++ rest) = takePieces (pieceOf c :: done) rest := by
  unfold escapeChar
  -- The characters with a short escape.
  iterate 7
    split
    · next hc => subst hc; rfl
  next hquote hslash hback hfeed hline hreturn htab =>
  split
  · next hsmall =>
    have hunit := hexUnit?_hexPair c.toNat hsmall
    have hpiece : pieceOf c = .unit c.toNat := if_pos ⟨hsmall, by simp [*]⟩
    rw [hexPair, hpiece]
    simp only [List.cons_append, List.nil_append, takePieces, hunit]
  · next hlarge =>
    have hpiece : pieceOf c = .char c := if_neg fun h => hlarge h.1
    rw [hpiece, List.singleton_append, takePieces]
    · simp [hlarge, hslash]
    · exact hquote
    · exact fun _ _ _ _ _ h => absurd h hslash
    · exact fun _ _ h => absurd h hslash

/-- Up to the closing quote, the pieces of a written text are those of its characters. -/
theorem takePieces_flatMap (done : List Piece) (cs rest : List Char) :
    takePieces done (cs.flatMap escapeChar ++ '"' :: rest) =
      some (done.reverse ++ cs.map pieceOf, rest) := by
  induction cs generalizing done with
  | nil => simp [takePieces]
  | cons c cs ih =>
    rw [List.flatMap_cons, List.append_assoc, takePieces_escapeChar, ih]
    simp

/-- A code unit that is no half of a pair stands for its character. -/
theorem joinPieces_unit {n : Nat} (h : n < 0xD800) (pieces : List Piece) :
    joinPieces (.unit n :: pieces) = (joinPieces pieces).map (Char.ofNat n :: ·) := by
  have hlow : ¬0xD800 ≤ n := by omega
  have hhigh : ¬0xDC00 ≤ n := by omega
  rcases pieces with _ | ⟨_ | m, pieces⟩ <;> simp [joinPieces, hlow, hhigh]

/-- The pieces of some characters stand for these characters. -/
theorem joinPieces_map (cs : List Char) : joinPieces (cs.map pieceOf) = some cs := by
  induction cs with
  | nil => rfl
  | cons c cs ih =>
    rw [List.map_cons, pieceOf]
    split
    · next hunit =>
      have hsmall : c.toNat < 32 := hunit.1
      rw [joinPieces_unit (by omega), ih, Option.map_some, Char.ofNat_toNat]
    · rw [joinPieces, ih]
      rfl

/-- A written text is a token that has this text as its value. -/
theorem ofText?_writeText (s : String) (h : Token.ofText? rest = some ts) :
    Token.ofText? (writeText s ++ rest) = some (.text (some s) :: ts) := by
  have hpieces := takePieces_flatMap [] s.toList rest
  rw [writeText, List.cons_append, List.cons_append, List.append_assoc, List.singleton_append]
  refine Token.ofText?_token (by decide) ?_ (by simp; omega) h
  simp only [Token.take, hpieces, Option.map_some, List.reverse_nil, List.nil_append,
    joinPieces_map, String.ofList_toList]

/-! ## Numerals -/

/-- Nothing in front goes on with a numeral: there is no digit, no point and no exponent. -/
def Closed (rest : List Char) : Prop :=
  ∀ c ∈ rest.head?, c.isDigit = false ∧ c ≠ '.' ∧ c ≠ 'e' ∧ c ≠ 'E'

/-- The numeral of a whole number. -/
def wholeNumeral (n : Int) : Decimal.Numeral :=
  { negative := n < 0, whole := Nat.toDigits 10 n.natAbs }

/-- A number other than zero has no leading zero. -/
theorem head?_toDigits_ne {n : Nat} (h : n ≠ 0) : (Nat.toDigits 10 n).head? ≠ some '0' := by
  induction n using Nat.strongRecOn with
  | ind n ih =>
    by_cases hsmall : n < 10
    · have hdigit : ∀ n < 10, n ≠ 0 → Nat.digitChar n ≠ '0' := by decide
      rw [Nat.toDigits_of_lt_base hsmall, List.head?_cons, Ne, Option.some.injEq]
      exact hdigit n hsmall h
    · -- The last digit is not the first one, so the first one is that of a smaller number.
      rw [Nat.toDigits_of_base_le (by decide) (by omega), List.head?_append_of_ne_nil _
        Nat.toDigits_ne_nil]
      exact ih (n / 10) (by omega) (by omega)

/-- Digits without a leading zero are a whole part. -/
theorem isWholePart_of_head?_ne (hne : cs ≠ []) (h : cs.head? ≠ some '0') :
    isWholePart cs = true := by
  cases cs with
  | nil => exact absurd rfl hne
  | cons c cs =>
    have hzero : c ≠ '0' := by simpa using h
    unfold isWholePart
    split <;> simp_all

/-- There is no leading zero. -/
theorem isWholePart_toDigits (n : Nat) : isWholePart (Nat.toDigits 10 n) = true := by
  by_cases hzero : n = 0
  · subst hzero
    rfl
  · exact isWholePart_of_head?_ne Nat.toDigits_ne_nil (head?_toDigits_ne hzero)

/-- Digits are taken as far as they go, then a fraction, and then an exponent. -/
theorem takeNumeral_append (negative : Bool) {whole fraction tail tail' : List Char}
    {exponent : Option Int} (hdigits : ∀ c ∈ whole, c.isDigit = true)
    (hwhole : isWholePart whole = true) (hstop : Text.NoLeadingDigit tail)
    (hfraction : takeFraction tail = some (fraction, tail'))
    (hexponent : takeExponent tail' = some (exponent, rest)) :
    takeNumeral negative (whole ++ tail) =
      some ({ negative, whole, fraction, exponent }, rest) := by
  simp only [takeNumeral, Text.takeWhile_isDigit_append hdigits hstop,
    Text.dropWhile_isDigit_append hdigits hstop, hwhole, Bool.not_true, Bool.false_eq_true,
    if_false, hfraction, bind, Option.bind_some, hexponent]
  rfl

/-- Where there is no point, there is no fraction. -/
theorem takeFraction_of_head?_ne (h : cs.head? ≠ some '.') : takeFraction cs = some ([], cs) := by
  unfold takeFraction
  split
  · exact absurd rfl h
  · rfl

/-- Where no numeral goes on, there is no fraction. -/
theorem Closed.takeFraction_eq (h : Closed rest) : takeFraction rest = some ([], rest) :=
  takeFraction_of_head?_ne fun hhead => (h '.' hhead).2.1 rfl

/-- Nor is there an exponent. -/
theorem Closed.takeExponent_eq (h : Closed rest) : takeExponent rest = some (none, rest) := by
  cases rest with
  | nil => rfl
  | cons c rest => rw [takeExponent, if_neg (not_or.mpr (h c rfl).2.2)]

/-- Nor are there further digits. -/
theorem Closed.noLeadingDigit (h : Closed rest) : Text.NoLeadingDigit rest :=
  fun c hc => (h c hc).1

/-- The digits in front of what does not go on with them are all that is taken. -/
theorem takeNumeral_toDigits (negative : Bool) (n : Nat) (hrest : Closed rest) :
    takeNumeral negative (Nat.toDigits 10 n ++ rest) =
      some ({ negative, whole := Nat.toDigits 10 n }, rest) :=
  takeNumeral_append negative (fun _ hc => Text.isDigit_of_mem_toDigits hc)
    (isWholePart_toDigits n) hrest.noLeadingDigit hrest.takeFraction_eq hrest.takeExponent_eq

/-- What begins with a digit begins with a numeral. -/
theorem take_of_isDigit (h : c.isDigit = true) : Token.take (c :: cs) =
    (takeNumeral false (c :: cs)).map fun (n, rest) => (.number n, rest) := by
  rw [Token.take]
  all_goals
    intro rest heq
    rw [(List.cons.inj heq).1] at h
    exact absurd h (by decide)

theorem isSpace_of_isDigit (h : c.isDigit = true) : isSpace c = false := by
  simp only [isSpace, Bool.or_eq_false_iff, decide_eq_false_iff_not]
  refine ⟨⟨⟨?_, ?_⟩, ?_⟩, ?_⟩ <;> rintro rfl <;> exact absurd h (by decide)

/-- A sign and a numeral behind it are one token. -/
theorem ofText?_numeral {negative : Bool} {body : List Char} {n : Decimal.Numeral}
    (hbody : ∃ c ∈ body.head?, c.isDigit = true)
    (htake : takeNumeral negative (body ++ rest) = some (n, rest))
    (h : Token.ofText? rest = some ts) :
    Token.ofText? ((if negative then ['-'] else []) ++ body ++ rest) =
      some (.number n :: ts) := by
  cases negative with
  | true =>
    refine Token.ofText?_token (by decide) ?_ (by simp) h
    simp [Token.take, htake]
  | false =>
    obtain ⟨c, hc, hdigit⟩ := hbody
    obtain ⟨cs, rfl⟩ : ∃ cs, body = c :: cs := List.head?_eq_some_iff.mp hc
    refine Token.ofText?_token (isSpace_of_isDigit hdigit) ?_ (by simp) h
    rw [take_of_isDigit hdigit]
    simpa using htake

theorem head?_of_isDigit (hne : cs ≠ []) (hdigits : ∀ c ∈ cs, c.isDigit = true) :
    ∃ c ∈ cs.head?, c.isDigit = true := by
  cases cs with
  | nil => exact absurd rfl hne
  | cons c cs => exact ⟨c, rfl, hdigits c List.mem_cons_self⟩

/-- A whole number is written as a token that denotes it. -/
theorem ofText?_writeInt (n : Int) (hrest : Closed rest) (h : Token.ofText? rest = some ts) :
    Token.ofText? (writeInt n ++ rest) = some (.number (wholeNumeral n) :: ts) := by
  have hsign : writeInt n =
      (if decide (n < 0) then ['-'] else []) ++ Nat.toDigits 10 n.natAbs := by
    by_cases hnegative : n < 0 <;> simp [writeInt, hnegative]
  have hbody := head?_of_isDigit (Nat.toDigits_ne_nil (b := 10) (n := n.natAbs))
    fun c hc => Text.isDigit_of_mem_toDigits hc
  rw [hsign]
  exact ofText?_numeral hbody (takeNumeral_toDigits _ n.natAbs hrest) h

end TestMatrix.Json

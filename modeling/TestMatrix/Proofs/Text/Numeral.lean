import Mathlib.Data.List.TakeWhile
import TestMatrix.Text.Blank
import TestMatrix.Text.Numeral

/-!
# Numbers read back

The digits that a number is written with denote it (`digitsValue_toDigits`), and if it is one of 64
bits they are read as that number (`readWord_toDigits`). Digits end where something follows that
does not begin with one (`NoLeadingDigit`). No digit is blank, so that trimming leaves them as they
are (`trim_toDigits`).
-/

namespace TestMatrix.Text

variable {n : Nat} {c : Char} {cs : List Char}

/-! ## Digits -/

theorem digitsFrom_cons (n : Nat) (c : Char) (cs : List Char) :
    digitsFrom n (c :: cs) = digitsFrom (10 * n + digitValue c) cs := by
  rw [digitsFrom.eq_def]

/-- The value of digits is the one that the library gives them. -/
theorem digitsFrom_eq_ofDigitChars (n : Nat) (cs : List Char) :
    digitsFrom n cs = Nat.ofDigitChars 10 cs n := by
  induction cs generalizing n with
  | nil => rfl
  | cons c cs ih => rw [digitsFrom_cons, ih, Nat.ofDigitChars_cons, digitValue]

/-- The digits of a number have it as their value. -/
theorem digitsValue_toDigits (n : Nat) : digitsValue (Nat.toDigits 10 n) = n := by
  rw [digitsValue, digitsFrom_eq_ofDigitChars, Nat.ofDigitChars_ten_toDigits]

theorem isDigit_of_mem_toDigits (h : c ∈ Nat.toDigits 10 n) : c.isDigit = true :=
  Nat.isDigit_of_mem_toDigits (by decide) (by decide) h

/-- A number only grows by further digits. -/
theorem le_digitsFrom (n : Nat) (cs : List Char) : n ≤ digitsFrom n cs := by
  induction cs generalizing n with
  | nil => exact Nat.le_refl n
  | cons c cs ih =>
    have hrest := ih (10 * n + digitValue c)
    rw [digitsFrom_cons]
    omega

/-- Digits are read as the number that they denote if it has no more than 64 bits. -/
theorem readDigits_eq_ok (hdigits : ∀ c ∈ cs, c.isDigit = true) (h : digitsFrom n cs < wordCount) :
    readDigits n cs = .ok (digitsFrom n cs) := by
  induction cs generalizing n with
  | nil => rfl
  | cons c cs ih =>
    rw [List.forall_mem_cons] at hdigits
    rw [digitsFrom_cons] at h ⊢
    -- The number that is left to come to bounds the one so far.
    have hsofar := le_digitsFrom (10 * n + digitValue c) cs
    have hfits : ¬wordCount ≤ 10 * n + digitValue c := by omega
    rw [readDigits, hdigits.1, if_neg (by simp), if_neg hfits, ih hdigits.2 h]

/-- More than 64 bits are too many, at whichever digit this shows. -/
theorem readDigits_eq_tooLarge (hdigits : ∀ c ∈ cs, c.isDigit = true) (hn : n < wordCount)
    (h : wordCount ≤ digitsFrom n cs) : readDigits n cs = .error .tooLarge := by
  induction cs generalizing n with
  | nil => exact absurd h (Nat.not_le.mpr hn)
  | cons c cs ih =>
    rw [List.forall_mem_cons] at hdigits
    rw [digitsFrom_cons] at h
    rw [readDigits, hdigits.1, if_neg (by simp)]
    split
    · rfl
    · next hfits => exact ih hdigits.2 (Nat.not_le.mp hfits) h

/-- The digits of a number that fits into a word are read as this number. -/
theorem readDigits_toDigits (h : n < wordCount) : readDigits 0 (Nat.toDigits 10 n) = .ok n := by
  have hvalue : digitsFrom 0 (Nat.toDigits 10 n) = n := digitsValue_toDigits n
  rw [readDigits_eq_ok (fun c hc => isDigit_of_mem_toDigits hc) (by rwa [hvalue]), hvalue]

/-- Without a plus sign, a numeral is digits and nothing else. -/
theorem readWord_eq_readDigits (hne : cs ≠ []) (hplus : '+' ∉ cs) :
    readWord cs = readDigits 0 cs := by
  unfold readWord
  split
  · exact absurd rfl hne
  · exact absurd List.mem_cons_self hplus
  · exact absurd List.mem_cons_self hplus
  · rfl

/-- Nothing but digits is there, so the whole text is read as the number. -/
theorem readWord_toDigits (h : n < wordCount) : readWord (Nat.toDigits 10 n) = .ok n := by
  have hplus : '+' ∉ Nat.toDigits 10 n := fun hmem =>
    absurd (isDigit_of_mem_toDigits hmem) (by decide)
  rw [readWord_eq_readDigits Nat.toDigits_ne_nil hplus, readDigits_toDigits h]

/-! ## Where digits end -/

/-- The text does not begin with a digit. -/
def NoLeadingDigit (cs : List Char) : Prop := ∀ c ∈ cs.head?, c.isDigit = false

/-- What does not begin with a digit does not do so with more behind it, unless it is empty. -/
theorem NoLeadingDigit.append {ds : List Char} (hcs : NoLeadingDigit cs)
    (hds : NoLeadingDigit ds) : NoLeadingDigit (cs ++ ds) := by
  cases cs with
  | nil => exact hds
  | cons c cs => exact hcs

theorem NoLeadingDigit.takeWhile_eq (hcs : NoLeadingDigit cs) : cs.takeWhile Char.isDigit = [] := by
  cases cs with
  | nil => rfl
  | cons c cs => rw [List.takeWhile_cons_of_neg (by simp [hcs c rfl])]

theorem NoLeadingDigit.dropWhile_eq (hcs : NoLeadingDigit cs) : cs.dropWhile Char.isDigit = cs := by
  cases cs with
  | nil => rfl
  | cons c cs => rw [List.dropWhile_cons_of_neg (by simp [hcs c rfl])]

variable {digits : List Char}

/-- Digits are taken up to where they end. -/
theorem takeWhile_isDigit_append (hdigits : ∀ c ∈ digits, c.isDigit = true)
    (hcs : NoLeadingDigit cs) : (digits ++ cs).takeWhile Char.isDigit = digits := by
  rw [List.takeWhile_append_of_pos hdigits, hcs.takeWhile_eq, List.append_nil]

/-- What follows them is left. -/
theorem dropWhile_isDigit_append (hdigits : ∀ c ∈ digits, c.isDigit = true)
    (hcs : NoLeadingDigit cs) : (digits ++ cs).dropWhile Char.isDigit = cs := by
  rw [List.dropWhile_append_of_pos hdigits, hcs.dropWhile_eq]

/-! ## Blanks -/

/-- No digit is a blank. -/
theorem isBlank_of_isDigit (h : c.isDigit = true) : isBlank c = false := by
  have h48 : 48 ≤ c.toNat := (Char.isDigit_iff_toNat.mp h).1
  have h57 : c.toNat ≤ 57 := (Char.isDigit_iff_toNat.mp h).2
  simp only [isBlank, inRanges, blankRanges, List.any_cons, List.any_nil, Bool.or_false,
    Bool.or_eq_false_iff, Bool.and_eq_false_iff, decide_eq_false_iff_not]
  omega

/-- A text without blanks is as it is when it is trimmed. -/
theorem trimBlank_of_not_isBlank (h : ∀ c ∈ cs, isBlank c = false) : trimBlank cs = cs := by
  have hdrop : ∀ ds : List Char, (∀ c ∈ ds, isBlank c = false) → ds.dropWhile isBlank = ds := by
    intro ds hds
    cases ds with
    | nil => rfl
    | cons d ds => rw [List.dropWhile_cons_of_neg (by simp [hds d])]
  rw [trimBlank, hdrop cs h, hdrop _ (by simpa using h), List.reverse_reverse]

/-- So there is nothing to trim from a number. -/
theorem trim_toDigits (n : Nat) :
    trim (String.ofList (Nat.toDigits 10 n)) = String.ofList (Nat.toDigits 10 n) := by
  have hblank : ∀ c ∈ Nat.toDigits 10 n, isBlank c = false := fun c hc =>
    isBlank_of_isDigit (isDigit_of_mem_toDigits hc)
  rw [trim, String.toList_ofList, trimBlank_of_not_isBlank hblank]

/-- A variable that is set to a number is not taken for one that is not set. -/
theorem filled?_toDigits (n : Nat) : filled? (String.ofList (Nat.toDigits 10 n)) =
    some (String.ofList (Nat.toDigits 10 n)) := by
  have hne : (String.ofList (Nat.toDigits 10 n)).isEmpty = false := by
    rw [String.isEmpty_eq_false_iff, Ne, ← String.toList_inj, String.toList_ofList]
    exact Nat.toDigits_ne_nil
  rw [filled?, trim_toDigits, hne]
  rfl

/-- A text of nothing but blanks has nothing to say. -/
theorem filled?_eq_none {s : String} (h : ∀ c ∈ s.toList, isBlank c = true) : filled? s = none := by
  have hdrop : s.toList.dropWhile isBlank = [] := List.dropWhile_eq_nil_iff.mpr h
  rw [filled?, trim, trimBlank, hdrop]
  rfl

end TestMatrix.Text

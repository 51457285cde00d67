import Mathlib.Algebra.Group.Nat.Defs
import TestMatrix.Proofs.Text.NaturalOrder
import TestMatrix.Proofs.Text.Numeral

/-!
# Numbers in natural order

Two digit sequences are compared as texts, by their lengths first, and this is the order of the
numbers that they denote (`compareDigits_eq_compare`): without leading zeros, more digits denote a
greater number, and of equally many digits the first that differs decides. No number has to fit
anywhere, so this holds at any length.

Where the kind of character changes, a run ends (`runs_append`). So the runs of two texts that begin
alike come in pairs up to the first number in which they differ, and this number decides
(`naturalOrder_by_value`).
-/

open Std

namespace TestMatrix.Text

variable {cs ds : List Char} {c d : Char}

/-! ## The value of digits -/

/-- The value that digits add to is moved up by as many places as there are digits. -/
theorem digitsFrom_eq (n : Nat) (cs : List Char) :
    digitsFrom n cs = 10 ^ cs.length * n + digitsValue cs := by
  rw [digitsValue, digitsFrom_eq_ofDigitChars, digitsFrom_eq_ofDigitChars,
    Nat.ofDigitChars_eq_ofDigitChars_zero]

/-- The first digit counts by its place. -/
theorem digitsValue_cons (c : Char) (cs : List Char) :
    digitsValue (c :: cs) = 10 ^ cs.length * digitValue c + digitsValue cs := by
  rw [digitsValue, digitsFrom_cons, Nat.mul_zero, Nat.zero_add, digitsFrom_eq]

theorem digitValue_eq (c : Char) : digitValue c = c.toNat - 48 := rfl

/-- No digit is worth ten. -/
theorem digitValue_lt (h : c.isDigit = true) : digitValue c < 10 := by
  have h57 : c.toNat ≤ 57 := (Char.isDigit_iff_toNat.mp h).2
  rw [digitValue_eq]
  omega

/-- So many digits denote a number below this power of ten. -/
theorem digitsValue_lt (h : ∀ c ∈ cs, c.isDigit = true) : digitsValue cs < 10 ^ cs.length := by
  induction cs with
  | nil => exact Nat.one_pos
  | cons c cs ih =>
    rw [List.forall_mem_cons] at h
    have hrest := ih h.2
    have hfirst : 10 ^ cs.length * digitValue c ≤ 10 ^ cs.length * 9 :=
      Nat.mul_le_mul_left _ (Nat.le_of_lt_succ (digitValue_lt h.1))
    rw [digitsValue_cons, List.length_cons, Nat.pow_succ]
    omega

/-- Leading zeros do not count. -/
theorem digitsValue_dropWhile_zero (cs : List Char) :
    digitsValue (cs.dropWhile (· == '0')) = digitsValue cs := by
  induction cs with
  | nil => rfl
  | cons c cs ih =>
    by_cases hc : c = '0'
    · subst hc
      rw [List.dropWhile_cons_of_pos (by rfl), ih, digitsValue_cons]
      simp [digitValue]
    · rw [List.dropWhile_cons_of_neg (by simpa using hc)]

/-- Without a leading zero, all digits are needed. -/
theorem pow_le_digitsValue (hc : c.isDigit = true) (hzero : c ≠ '0') :
    10 ^ cs.length ≤ digitsValue (c :: cs) := by
  have hpos : 0 < digitValue c := by
    have h48 : 48 ≤ c.toNat := (Char.isDigit_iff_toNat.mp hc).1
    have hne : c.toNat ≠ 48 := fun heq => hzero (Char.toNat_inj.mp heq)
    rw [digitValue_eq]
    omega
  calc 10 ^ cs.length = 10 ^ cs.length * 1 := (Nat.mul_one _).symm
    _ ≤ 10 ^ cs.length * digitValue c := Nat.mul_le_mul_left _ hpos
    _ ≤ digitsValue (c :: cs) := by
      rw [digitsValue_cons]
      exact Nat.le_add_right _ _

/-! ## Comparing digits -/

/-- Digits are in the order of their values. -/
theorem compare_digit (hc : c.isDigit = true) (hd : d.isDigit = true) :
    compare c d = compare (digitValue c) (digitValue d) := by
  have hc48 : 48 ≤ c.toNat := (Char.isDigit_iff_toNat.mp hc).1
  have hd48 : 48 ≤ d.toNat := (Char.isDigit_iff_toNat.mp hd).1
  have hlt : c < d ↔ digitValue c < digitValue d := by
    rw [Char.lt_def, UInt32.lt_iff_toNat_lt, Char.toNat_val, Char.toNat_val, digitValue_eq,
      digitValue_eq]
    omega
  have heq : c = d ↔ digitValue c = digitValue d := by
    rw [← Char.toNat_inj, digitValue_eq, digitValue_eq]
    omega
  show compareOfLessAndEq c d = compareOfLessAndEq (digitValue c) (digitValue d)
  simp only [compareOfLessAndEq, hlt, heq]

theorem compare_add_left (k u v : Nat) : compare (k + u) (k + v) = compare u v := by
  rcases Nat.lt_trichotomy u v with hlt | rfl | hgt
  · rw [Nat.compare_eq_lt.mpr hlt, Nat.compare_eq_lt]
    omega
  · rw [Nat.compare_eq_eq.mpr rfl, Nat.compare_eq_eq.mpr rfl]
  · rw [Nat.compare_eq_gt.mpr hgt, Nat.compare_eq_gt]
    omega

/-- Of two numbers of two places each, the higher place decides if it differs. -/
theorem compare_mul_add {b x y u v : Nat} (hu : u < b) (hv : v < b) :
    compare (b * x + u) (b * y + v) = (compare x y).then (compare u v) := by
  rcases Nat.lt_trichotomy x y with hlt | rfl | hgt
  · have hmul : b * (x + 1) ≤ b * y := Nat.mul_le_mul_left b hlt
    rw [Nat.mul_succ] at hmul
    rw [Nat.compare_eq_lt.mpr hlt, Ordering.lt_then, Nat.compare_eq_lt]
    omega
  · rw [Nat.compare_eq_eq.mpr rfl, Ordering.eq_then, compare_add_left]
  · have hmul : b * (y + 1) ≤ b * x := Nat.mul_le_mul_left b hgt
    rw [Nat.mul_succ] at hmul
    rw [Nat.compare_eq_gt.mpr hgt, Ordering.gt_then, Nat.compare_eq_gt]
    omega

/-- Of equally many digits, the first that differs decides. -/
theorem compare_of_length_eq (hlength : cs.length = ds.length) (hcs : ∀ c ∈ cs, c.isDigit = true)
    (hds : ∀ d ∈ ds, d.isDigit = true) :
    compare cs ds = compare (digitsValue cs) (digitsValue ds) := by
  induction cs generalizing ds with
  | nil =>
    rw [List.length_eq_zero_iff.mp hlength.symm]
    rfl
  | cons c cs ih =>
    cases ds with
    | nil => simp at hlength
    | cons d ds =>
      rw [List.forall_mem_cons] at hcs hds
      have hlength : cs.length = ds.length := Nat.succ.inj hlength
      have hvalue := digitsValue_lt hcs.2
      rw [hlength] at hvalue
      rw [List.compare_cons_cons, compare_digit hcs.1 hds.1, ih hlength hcs.2 hds.2,
        digitsValue_cons, digitsValue_cons, hlength,
        compare_mul_add hvalue (digitsValue_lt hds.2)]

/-- Without leading zeros, fewer digits denote a smaller number. -/
theorem digitsValue_lt_of_length_lt (hcs : ∀ c ∈ cs, c.isDigit = true)
    (hds : ∀ d ∈ ds, d.isDigit = true) (hzero : ds.head? ≠ some '0') (h : cs.length < ds.length) :
    digitsValue cs < digitsValue ds := by
  cases ds with
  | nil => simp at h
  | cons d ds =>
    have hd : d ≠ '0' := by simpa using hzero
    rw [List.forall_mem_cons] at hds
    calc digitsValue cs < 10 ^ cs.length := digitsValue_lt hcs
      _ ≤ 10 ^ ds.length := Nat.pow_le_pow_right (by decide) (Nat.le_of_lt_succ h)
      _ ≤ digitsValue (d :: ds) := pow_le_digitsValue hds.1 hd

/-- No leading zero is left where they are dropped. -/
theorem head?_dropWhile_zero (cs : List Char) : (cs.dropWhile (· == '0')).head? ≠ some '0' := by
  intro h
  have hhead := List.head?_dropWhile_not (· == '0') cs
  rw [h] at hhead
  simp at hhead

/-- Digit sequences are in the order of the numbers that they denote. -/
theorem compareDigits_eq_compare (hcs : ∀ c ∈ cs, c.isDigit = true)
    (hds : ∀ d ∈ ds, d.isDigit = true) :
    compareDigits cs ds = compare (digitsValue cs) (digitsValue ds) := by
  have hcs : ∀ c ∈ cs.dropWhile (· == '0'), c.isDigit = true :=
    fun c hc => hcs c ((List.dropWhile_sublist _).mem hc)
  have hds : ∀ d ∈ ds.dropWhile (· == '0'), d.isDigit = true :=
    fun d hd => hds d ((List.dropWhile_sublist _).mem hd)
  have hcsHead := head?_dropWhile_zero cs
  have hdsHead := head?_dropWhile_zero ds
  rw [← digitsValue_dropWhile_zero cs, ← digitsValue_dropWhile_zero ds, compareDigits]
  generalize cs.dropWhile (· == '0') = cs at hcs hcsHead
  generalize ds.dropWhile (· == '0') = ds at hds hdsHead
  -- Without leading zeros the longer run has the greater value.
  rcases Nat.lt_trichotomy cs.length ds.length with hlt | heq | hgt
  · rw [Nat.compare_eq_lt.mpr hlt, Ordering.lt_then,
      Nat.compare_eq_lt.mpr (digitsValue_lt_of_length_lt hcs hds hdsHead hlt)]
  · rw [Nat.compare_eq_eq.mpr heq, Ordering.eq_then, compare_of_length_eq heq hcs hds]
  · rw [Nat.compare_eq_gt.mpr hgt, Ordering.gt_then,
      Nat.compare_eq_gt.mpr (digitsValue_lt_of_length_lt hds hcs hcsHead hgt)]

/-! ## Runs side by side -/

theorem Run.compare_self (r : Run) : r.compare r = .eq := by
  rw [Run.compare]
  split
  · exact Ordering.then_eq_eq.mpr ⟨ReflCmp.compare_self, ReflCmp.compare_self⟩
  · exact ReflCmp.compare_self

/-- Runs that both texts begin with do not count. -/
theorem compareRuns_append (rs as bs : List Run) :
    compareRuns (rs ++ as) (rs ++ bs) = compareRuns as bs := by
  induction rs with
  | nil => rfl
  | cons r rs ih =>
    rw [List.cons_append, List.cons_append, compareRuns, Run.compare_self, Ordering.eq_then, ih]

variable {before digits after : List Char}

/-- Digits between other characters are a run of their own. -/
theorem runs_around_digits (hbefore : ∀ c ∈ before.getLast?, c.isDigit = false) (hne : digits ≠ [])
    (hdigits : ∀ c ∈ digits, c.isDigit = true) (hafter : NoLeadingDigit after) :
    runs (before ++ digits ++ after) = runs before ++ ⟨true, digits⟩ :: runs after := by
  have hstart : ∀ c ∈ before.getLast?, ∀ d ∈ digits.head?, c.isDigit ≠ d.isDigit := by
    intro c hc d hd
    rw [hbefore c hc, hdigits d (List.mem_of_mem_head? hd)]
    decide
  have hend : ∀ c ∈ (before ++ digits).getLast?, ∀ d ∈ after.head?, c.isDigit ≠ d.isDigit := by
    intro c hc d hd
    rw [List.getLast?_append_of_ne_nil _ hne] at hc
    rw [hafter d hd, hdigits c (List.mem_of_mem_getLast? hc)]
    decide
  rw [runs_append hend, runs_append hstart, runs_of_kind hne hdigits, List.append_assoc,
    List.singleton_append]

/-! ## Texts -/

/-- The text is a numeral: it has digits and nothing else, as many as it may be. -/
def IsNumeral (s : String) : Prop := s ≠ "" ∧ ∀ c ∈ s.toList, c.isDigit = true

/-- In natural order, numbers come by their value. Two texts that are the same up to a number, and
have different numbers there, are in the order of these numbers, whatever follows them. -/
theorem naturalOrder_by_value {p m n s t : String}
    (hp : ∀ c ∈ p.toList.getLast?, c.isDigit = false) (hm : IsNumeral m) (hn : IsNumeral n)
    (hs : NoLeadingDigit s.toList) (ht : NoLeadingDigit t.toList)
    (hne : digitsValue m.toList ≠ digitsValue n.toList) :
    (naturalOrder (p ++ m ++ s) (p ++ n ++ t) = .lt ↔
        digitsValue m.toList < digitsValue n.toList) ∧
      (naturalOrder (p ++ m ++ s) (p ++ n ++ t) = .gt ↔
        digitsValue n.toList < digitsValue m.toList) := by
  have hvalues : compare (digitsValue m.toList) (digitsValue n.toList) ≠ .eq :=
    fun heq => hne (Nat.compare_eq_eq.mp heq)
  have hm' : m.toList ≠ [] := by simpa using hm.1
  have hn' : n.toList ≠ [] := by simpa using hn.1
  have horder : naturalOrder (p ++ m ++ s) (p ++ n ++ t) =
      compare (digitsValue m.toList) (digitsValue n.toList) := by
    simp only [naturalOrder, naturalOrderList, String.toList_append]
    -- The runs before are the same, and the two numbers decide before what comes after them.
    rw [runs_around_digits hp hm' hm.2 hs, runs_around_digits hp hn' hn.2 ht, compareRuns_append,
      compareRuns, Run.compare, Bool.and_self, if_pos rfl, compareDigits_eq_compare hm.2 hn.2,
      then_of_ne_eq hvalues, then_of_ne_eq hvalues]
  rw [horder]
  exact ⟨Nat.compare_eq_lt, Nat.compare_eq_gt⟩

/-- The greatest number of 64 bits, written with leading zeros, comes before the next one. -/
theorem naturalOrder_by_value_wide :
    naturalOrder "É 17, PG 00018446744073709551615" "É 17, PG 18446744073709551616-ea" = .lt := by
  have hp : ∀ c ∈ "É 17, PG ".toList.getLast?, c.isDigit = false := by simp
  have hm : IsNumeral "00018446744073709551615" := ⟨by decide, List.all_eq_true.mp (by decide)⟩
  have hn : IsNumeral "18446744073709551616" := ⟨by decide, List.all_eq_true.mp (by decide)⟩
  have hs : NoLeadingDigit "".toList := by simp [NoLeadingDigit]
  have ht : NoLeadingDigit "-ea".toList := by simp [NoLeadingDigit]
  have horder := naturalOrder_by_value hp hm hn hs ht (by decide)
  exact horder.1.mpr (by decide)

end TestMatrix.Text

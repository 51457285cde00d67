import Mathlib.Logic.Function.Iterate
import TestMatrix.Selector
import TestMatrix.Proofs.Text.Numeral

/-!
# The order of versions

Two versions are compared by the numbers of their components, with zeros for what one of them does
not have. As many zeros may be written out as one likes, and between sequences of one length this is
the lexicographic order (`comparePadded_eq_compare`). So versions are in a total preorder: any three
of them can be padded to one length. What a version shows besides its numbers, and zeros behind
them, make no difference to any comparison (`versionOrder_ranks`).

The numbers themselves are words of 64 bits. `exactNumbers` are those that the components denote, of
any length, and the order is that of the exact numbers as long as they fit. A number that does not
fit counts as zero (`versionOrder_of_words`), so that the version of the greater number comes first
(`versionOrder_reversed_beyond_words`).
-/

open Std

namespace TestMatrix.Text

/-! ## Padded sequences -/

section Padded

variable {xs ys : List Nat} {n : Nat}

theorem rightpad_cons (x : Nat) (xs : List Nat) (n : Nat) :
    (x :: xs).rightpad (n + 1) 0 = x :: xs.rightpad n 0 := by
  simp [List.rightpad]

theorem rightpad_nil_succ (n : Nat) :
    ([] : List Nat).rightpad (n + 1) 0 = 0 :: ([] : List Nat).rightpad n 0 := by
  simp [List.rightpad, List.replicate_succ]

/-- Zeros for what is missing may as well be written out, as long as there are enough of them. -/
theorem comparePadded_eq_compare (hxs : xs.length ≤ n) (hys : ys.length ≤ n) :
    comparePadded xs ys = compare (xs.rightpad n 0) (ys.rightpad n 0) := by
  induction n generalizing xs ys with
  | zero =>
    rw [List.length_eq_zero_iff.mp (Nat.le_zero.mp hxs),
      List.length_eq_zero_iff.mp (Nat.le_zero.mp hys), comparePadded]
    rfl
  | succ n ih =>
    have hnil : ([] : List Nat).length ≤ n := Nat.zero_le n
    rcases xs with _ | ⟨x, xs⟩ <;> rcases ys with _ | ⟨y, ys⟩
    · rw [comparePadded]
      exact ReflCmp.compare_self.symm
    · rw [comparePadded, ih hnil (Nat.le_of_succ_le_succ hys), rightpad_nil_succ, rightpad_cons,
        List.compare_cons_cons]
    · rw [comparePadded, ih (Nat.le_of_succ_le_succ hxs) hnil, rightpad_nil_succ, rightpad_cons,
        List.compare_cons_cons]
    · rw [comparePadded, ih (Nat.le_of_succ_le_succ hxs) (Nat.le_of_succ_le_succ hys),
        rightpad_cons, rightpad_cons, List.compare_cons_cons]

/-- Any three sequences can be padded to one length. -/
instance : TransCmp comparePadded where
  eq_swap {xs ys} := by
    have hxs : xs.length ≤ max xs.length ys.length := Nat.le_max_left ..
    have hys : ys.length ≤ max xs.length ys.length := Nat.le_max_right ..
    rw [comparePadded_eq_compare hxs hys, comparePadded_eq_compare hys hxs]
    exact OrientedCmp.eq_swap
  isLE_trans {xs ys zs} hxy hyz := by
    have hxs : xs.length ≤ max xs.length (max ys.length zs.length) := by omega
    have hys : ys.length ≤ max xs.length (max ys.length zs.length) := by omega
    have hzs : zs.length ≤ max xs.length (max ys.length zs.length) := by omega
    rw [comparePadded_eq_compare hxs hys] at hxy
    rw [comparePadded_eq_compare hys hzs] at hyz
    rw [comparePadded_eq_compare hxs hzs]
    exact TransCmp.isLE_trans hxy hyz

/-- A zero at the end makes no difference. -/
theorem comparePadded_append_zero (xs : List Nat) : comparePadded (xs ++ [0]) xs = .eq := by
  have hpad : (xs ++ [0]).rightpad (xs.length + 1) 0 = xs.rightpad (xs.length + 1) 0 := by
    simp [List.rightpad]
  rw [comparePadded_eq_compare (n := xs.length + 1) (by simp) (by simp), hpad]
  exact ReflCmp.compare_self

end Padded

/-! ## Components -/

variable {digits cs ds text after : List Char}

/-- What follows the digits of a component does not count. -/
theorem componentNumber_append (hdigits : ∀ c ∈ digits, c.isDigit = true)
    (hcs : NoLeadingDigit cs) (hds : NoLeadingDigit ds) :
    componentNumber (digits ++ cs) = componentNumber (digits ++ ds) := by
  rw [componentNumber, componentNumber, takeWhile_isDigit_append hdigits hcs,
    takeWhile_isDigit_append hdigits hds]

/-- A text without dots goes into the first component of what it stands before. -/
theorem splitOn_append_of_not_mem (hcs : '.' ∉ cs) (ds : List Char) :
    (cs ++ ds).splitOn '.' = (ds.splitOn '.').modifyHead (cs ++ ·) := by
  induction cs with
  | nil =>
    rw [List.nil_append]
    cases ds.splitOn '.' <;> rfl
  | cons c cs ih =>
    rw [List.mem_cons, not_or] at hcs
    rw [List.cons_append, List.splitOn_cons_eq_if_modifyHead, ih hcs.2,
      if_neg (by simpa using Ne.symm hcs.1), List.modifyHead_modifyHead]
    rfl

/-- The first component begins as the text does. -/
theorem exists_splitOn_eq_cons (hcs : NoLeadingDigit cs) :
    ∃ first rest, cs.splitOn '.' = first :: rest ∧ NoLeadingDigit first := by
  cases cs with
  | nil => exact ⟨[], [], List.splitOn_nil _, hcs⟩
  | cons c cs =>
    rw [List.splitOn_cons_eq_if_modifyHead]
    split
    · exact ⟨[], _, rfl, by simp [NoLeadingDigit]⟩
    · obtain ⟨first, rest, hsplit⟩ := List.exists_cons_of_ne_nil (List.splitOn_ne_nil '.' cs)
      rw [hsplit]
      exact ⟨c :: first, rest, rfl, hcs⟩

/-- What is put behind the digits of the first component does not count. -/
theorem map_componentNumber_insert (hdigits : ∀ c ∈ digits, c.isDigit = true) (hdot : '.' ∉ text)
    (htext : NoLeadingDigit text) (hafter : NoLeadingDigit after) :
    ((digits ++ text ++ after).splitOn '.').map componentNumber =
      ((digits ++ after).splitOn '.').map componentNumber := by
  have hdigitsDot : '.' ∉ digits := fun hmem => absurd (hdigits '.' hmem) (by decide)
  have hbothDot : '.' ∉ digits ++ text := by
    rw [List.mem_append, not_or]
    exact ⟨hdigitsDot, hdot⟩
  -- Without a dot the text belongs to one component only, the one that the digits begin.
  obtain ⟨first, rest, hsplit, hfirst⟩ := exists_splitOn_eq_cons hafter
  rw [splitOn_append_of_not_mem hbothDot, splitOn_append_of_not_mem hdigitsDot, hsplit,
    List.modifyHead_cons, List.modifyHead_cons, List.map_cons, List.map_cons, List.append_assoc,
    componentNumber_append hdigits (htext.append hfirst) hfirst]

/-- A dot ends a component. -/
theorem versionNumbers_append_dot (front rest : String) :
    versionNumbers (front ++ "." ++ rest) = versionNumbers front ++ versionNumbers rest := by
  have hdot : ".".toList = ['.'] := rfl
  rw [versionNumbers, String.toList_append, String.toList_append, hdot, List.append_assoc,
    List.singleton_append, List.splitOn_append_cons_self, List.map_append]
  rfl

/-- The suffix adds one number, which is zero. -/
theorem versionNumbers_append_zero (a : String) :
    versionNumbers (a ++ ".0") = versionNumbers a ++ [0] := by
  have hdot : a ++ ".0" = a ++ "." ++ "0" := by
    rw [String.append_assoc]
    rfl
  rw [hdot, versionNumbers_append_dot]
  rfl

/-! ## The preorder -/

instance : TransCmp versionOrder where
  eq_swap {a b} := @OrientedCmp.eq_swap _ comparePadded _ (versionNumbers a) (versionNumbers b)
  isLE_trans {a b c} := @TransCmp.isLE_trans _ comparePadded _ (versionNumbers a)
    (versionNumbers b) (versionNumbers c)

/-- The versions compare alike with every version. -/
def Interchangeable (a b : String) : Prop :=
  ∀ c, versionOrder a c = versionOrder b c ∧ versionOrder c a = versionOrder c b

variable {a b c : String}

/-- Versions are interchangeable exactly if the order takes them for equal. -/
theorem interchangeable_iff : Interchangeable a b ↔ versionOrder a b = .eq := by
  constructor
  · intro h
    rw [(h b).1]
    exact ReflCmp.compare_self
  · intro h c
    exact ⟨TransCmp.congr_left h, TransCmp.congr_right h⟩

/-- What can stand for something that can stand for a third can stand for the third. -/
theorem Interchangeable.trans (hab : Interchangeable a b) (hbc : Interchangeable b c) :
    Interchangeable a c := by
  intro d
  exact ⟨(hab d).1.trans (hbc d).1, (hab d).2.trans (hbc d).2⟩

/-- One suffix does not matter. -/
theorem interchangeable_append_zero (a : String) : Interchangeable (a ++ ".0") a := by
  rw [interchangeable_iff, versionOrder, versionNumbers_append_zero]
  exact comparePadded_append_zero _

/-- So no number of them does. -/
theorem interchangeable_append_zeros (a : String) (k : Nat) :
    Interchangeable ((· ++ ".0")^[k] a) a := by
  induction k with
  | zero => exact fun c => ⟨rfl, rfl⟩
  | succ k ih =>
    rw [Function.iterate_succ_apply']
    exact (interchangeable_append_zero _).trans ih

/-- The first version is the second with a text behind the digits that one of its components begins
with. The text has no dot in it and does not go on with the digits. -/
inductive Annotates : String → String → Prop
  | intro {before digits text after : String}
      (start : before = "" ∨ ∃ front, before = front ++ ".")
      (isDigit : ∀ c ∈ digits.toList, c.isDigit = true)
      (allDigits : NoLeadingDigit after.toList)
      (noDot : '.' ∉ text.toList)
      (noDigit : NoLeadingDigit text.toList) :
      Annotates (before ++ digits ++ text ++ after) (before ++ digits ++ after)

/-- Annotations are not looked at: the numbers of the version are the same. -/
theorem Annotates.versionNumbers_eq (h : Annotates b a) : versionNumbers b = versionNumbers a := by
  obtain @⟨before, digits, text, after, hstart, hdigits, hafter, hdot, htext⟩ := h
  have hinsert : versionNumbers (digits ++ text ++ after) = versionNumbers (digits ++ after) := by
    simp only [versionNumbers, String.toList_append]
    exact map_componentNumber_insert hdigits hdot htext hafter
  rcases hstart with rfl | ⟨front, rfl⟩
  · simpa using hinsert
  · have hwith : front ++ "." ++ digits ++ text ++ after =
        front ++ "." ++ (digits ++ text ++ after) := by simp only [String.append_assoc]
    have hwithout : front ++ "." ++ digits ++ after = front ++ "." ++ (digits ++ after) := by
      simp only [String.append_assoc]
    rw [hwith, hwithout, versionNumbers_append_dot, versionNumbers_append_dot, hinsert]

/-- So a version with annotations can stand for the one without them. -/
theorem Annotates.interchangeable (h : Annotates b a) : Interchangeable b a := by
  rw [interchangeable_iff, versionOrder, h.versionNumbers_eq]
  exact ReflCmp.compare_self

/-- The upper bound is not accepted itself. -/
theorem accepts_below_iff {bound : String} {s : Setting} :
    (Matcher.below bound).accepts s = true ↔ versionOrder s.token bound = .lt := by
  rw [Matcher.below, Matcher.accepts, versionBelow, beq_iff_eq]

/-- The lower bound is. -/
theorem versionAtLeast_iff : versionAtLeast a b = true ↔ versionOrder a b ≠ .lt := by
  rw [versionAtLeast, versionBelow, Bool.not_eq_true', beq_eq_false_iff_ne]

/-- What is no earlier than a version is no earlier than those before it. -/
theorem versionAtLeast_of_lt (hbc : versionOrder b c = .lt) (hac : versionAtLeast a c = true) :
    versionAtLeast a b = true := by
  rw [versionAtLeast_iff] at hac ⊢
  exact fun hab => hac (TransCmp.lt_trans hab hbc)

/-- Versions are ranked: by a total preorder, in which versions of one rank are interchangeable. A
version keeps its rank when components of zero are added at its end, or a text is put behind the
digits of a component. So what lies below a bound is closed downwards, and the rest is what is at
least the bound. -/
theorem versionOrder_ranks (a b c : String) :
    versionOrder a a = .eq ∧
      versionOrder a b = (versionOrder b a).swap ∧
      (versionOrder a b ≠ .gt → versionOrder b c ≠ .gt → versionOrder a c ≠ .gt) ∧
      (versionOrder a b = .eq ↔ Interchangeable a b) ∧
      (∀ k, Interchangeable ((· ++ ".0")^[k] a) a) ∧
      (Annotates b a → Interchangeable b a) ∧
      ∀ (bound : String) (s t : Setting),
        ((Matcher.below bound).accepts s = true ↔ versionOrder s.token bound = .lt) ∧
          (versionOrder s.token t.token ≠ .gt → (Matcher.below bound).accepts t = true →
            (Matcher.below bound).accepts s = true) ∧
          (Matcher.atLeast bound).accepts s = !(Matcher.below bound).accepts s := by
  refine ⟨ReflCmp.compare_self, OrientedCmp.eq_swap, ?_, interchangeable_iff.symm,
    interchangeable_append_zeros a, Annotates.interchangeable, fun bound s t => ?_⟩
  · intro hab hbc
    apply Ordering.isLE_iff_ne_gt.mp
    exact TransCmp.isLE_trans (Ordering.isLE_iff_ne_gt.mpr hab) (Ordering.isLE_iff_ne_gt.mpr hbc)
  · refine ⟨accepts_below_iff, fun hst ht => ?_, rfl⟩
    rw [accepts_below_iff] at ht ⊢
    exact TransCmp.lt_of_isLE_of_lt (Ordering.isLE_iff_ne_gt.mpr hst) ht

/-- An early access version ranks with the version itself, before a later one and below a bound. -/
theorem versionOrder_ranks_ea :
    Interchangeable "18-ea.1" "18.1" ∧ versionOrder "18.1" "18.01.0.2" ≠ .gt ∧
      (Matcher.below "18.2").accepts { token := "18-ea.1" } = true ∧
      (Matcher.atLeast "18.2").accepts { token := "18-ea.1" } = false := by
  obtain ⟨-, -, htrans, -, -, hequal, hbound⟩ := versionOrder_ranks "18.1" "18-ea.1" "18.01.0.2"
  obtain ⟨-, hclosed, hrest⟩ := hbound "18.2" { token := "18-ea.1" } { token := "18.01.0.2" }
  have hannotates : Annotates "18-ea.1" "18.1" :=
    @Annotates.intro "" "18" "-ea" ".1" (.inl rfl) (List.all_eq_true.mp (by decide))
      (by simp [NoLeadingDigit]) (by decide) (by simp [NoLeadingDigit])
  have hlater : versionOrder "18.1" "18.01.0.2" ≠ .gt :=
    htrans (by decide +kernel) (by decide +kernel)
  have hbelow : (Matcher.below "18.2").accepts { token := "18-ea.1" } = true :=
    hclosed (by decide +kernel) (by decide +kernel)
  exact ⟨hequal hannotates, hlater, hbelow, by rw [hrest, hbelow]; rfl⟩

/-! ## Exactness -/

/-- The numbers that the components of a version denote, of any length. -/
def exactNumbers (version : String) : List Nat :=
  (version.toList.splitOn '.').map fun component => digitsValue (component.takeWhile Char.isDigit)

/-- The lexicographic order of two sequences, of which the shorter is padded with zeros. -/
def paddedOrder (xs ys : List Nat) : Ordering :=
  let n := max xs.length ys.length
  compare (xs.rightpad n 0) (ys.rightpad n 0)

/-- The number if it has at most 64 bits, and else zero. -/
def inWord (n : Nat) : Nat := if n < wordCount then n else 0

/-- A component counts as the value of its leading digits, if that fits into a word. -/
theorem componentNumber_eq (component : List Char) :
    componentNumber component = inWord (digitsValue (component.takeWhile Char.isDigit)) := by
  have hdigits : ∀ c ∈ component.takeWhile Char.isDigit, c.isDigit = true :=
    fun c hc => List.mem_takeWhile_imp hc
  rw [componentNumber, inWord]
  by_cases hfits : digitsValue (component.takeWhile Char.isDigit) < wordCount
  · rw [readDigits_eq_ok hdigits hfits, if_pos hfits, digitsValue]
  · rw [readDigits_eq_tooLarge hdigits (by decide) (Nat.not_lt.mp hfits), if_neg hfits]

/-- So the numbers are the exact ones, except for those that do not fit. -/
theorem versionNumbers_eq (a : String) : versionNumbers a = (exactNumbers a).map inWord := by
  rw [versionNumbers, exactNumbers, List.map_map]
  exact List.map_congr_left fun component _ => componentNumber_eq component

/-- Numbers that fit into a word stay what they are. -/
theorem map_inWord {ns : List Nat} (h : ∀ n ∈ ns, n < wordCount) : ns.map inWord = ns := by
  have hsame : ∀ n ∈ ns, inWord n = id n := fun n hn => if_pos (h n hn)
  rw [List.map_congr_left hsame, List.map_id]

/-- Versions are compared by the numbers that their components denote, of which those beyond 64 bits
count as zero. So the comparison is exact if all of the numbers fit. -/
theorem versionOrder_of_words (a b : String) :
    versionOrder a b =
        paddedOrder ((exactNumbers a).map inWord) ((exactNumbers b).map inWord) ∧
      ((∀ n ∈ exactNumbers a ++ exactNumbers b, n < wordCount) →
        versionOrder a b = paddedOrder (exactNumbers a) (exactNumbers b)) := by
  have hwords : versionOrder a b =
      paddedOrder ((exactNumbers a).map inWord) ((exactNumbers b).map inWord) := by
    rw [versionOrder, versionNumbers_eq, versionNumbers_eq]
    exact comparePadded_eq_compare (Nat.le_max_left ..) (Nat.le_max_right ..)
  refine ⟨hwords, fun hfit => ?_⟩
  rw [List.forall_mem_append] at hfit
  rw [hwords, map_inWord hfit.1, map_inWord hfit.2]

/-- The greatest number that fits, behind zeros and in front of a text. -/
theorem versionOrder_of_words_greatest :
    versionOrder "1.0018446744073709551615-rc1" "1.18446744073709551614.9" = .gt := by
  rw [(versionOrder_of_words _ _).2 (by decide +kernel)]
  decide +kernel

/-- The next number counts as zero, so it comes before one. -/
theorem versionOrder_reversed_beyond_words :
    versionOrder "18446744073709551616" "1" = .lt ∧
      paddedOrder (exactNumbers "18446744073709551616") (exactNumbers "1") = .gt := by
  decide +kernel

end TestMatrix.Text

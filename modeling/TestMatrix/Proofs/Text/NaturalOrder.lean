import Mathlib.Data.List.Nodup
import TestMatrix.Proofs.Text.LowerCase
import TestMatrix.Proofs.Text.Runs

/-!
# Natural order is a total order

Natural order compares numbers with numbers by their value, and whatever else meets by its lower
case. That the two fit together is due to the runs: a run of text has no digit in it, and neither
has the beginning of its lower case. So all numbers stand at one place among the texts, which is
where the text `0` stands, and natural order on runs is the lexicographic order of three keys: this
place, the number of digits without leading zeros, and these digits (`Run.compare_eq_keyOrder`).

* `Run.keyOrder` — the order of the keys, which is transitive because each of the three is.
* `naturalOrder_total` — natural order on texts is total.
* `exists_order` — sorting puts items in this order, and those with the same name stay in order.
-/

open Std

namespace TestMatrix.Text

/-! ## The keys of a run -/

namespace Run

/-- Where the run stands among texts. All numbers stand where `0` does. -/
def place (r : Run) : List Char := if r.numeric then ['0'] else lowerList r.text

/-- The digits of a number, without leading zeros. -/
def digits (r : Run) : List Char := if r.numeric then r.text.dropWhile (· == '0') else []

/-- The lexicographic order of the place, the number of digits and the digits. -/
def keyOrder : Run → Run → Ordering :=
  compareLex (compareOn place)
    (compareLex (compareOn fun r => r.digits.length) (compareOn digits))

instance : TransCmp keyOrder :=
  inferInstanceAs (TransCmp (compareLex (compareOn place)
    (compareLex (compareOn fun r => r.digits.length) (compareOn digits))))

end Run

/-- What is told apart by the first comparison needs no second. -/
theorem then_of_ne_eq {o o' : Ordering} (h : o ≠ .eq) : o.then o' = o := by
  cases o with
  | lt => rfl
  | eq => exact absurd rfl h
  | gt => rfl

/-- To a character that is no digit, all digits compare alike. -/
theorem compare_of_isDigit {c d : Char} (hc : c.isDigit = true) (hd : d.isDigit = false) :
    compare d c = compare d '0' ∧ compare d '0' ≠ .eq := by
  have h48 : 48 ≤ c.toNat := (Char.isDigit_iff_toNat.mp hc).1
  have h57 : c.toNat ≤ 57 := (Char.isDigit_iff_toNat.mp hc).2
  have hzero : '0'.toNat = 48 := rfl
  have hlt : d < c ↔ d < '0' := by
    rw [Char.lt_def, Char.lt_def, UInt32.lt_iff_toNat_lt, UInt32.lt_iff_toNat_lt, Char.toNat_val,
      Char.toNat_val, Char.toNat_val]
    have := isDigit_eq_false_iff.mp hd
    omega
  have hne : d ≠ c := by
    rintro rfl
    simp [hc] at hd
  have hne' : d ≠ '0' := by
    rintro rfl
    exact absurd hd (by decide)
  refine ⟨?_, fun heq => hne' (LawfulEqCmp.compare_eq_iff_eq.mp heq)⟩
  change compareOfLessAndEq d c = compareOfLessAndEq d '0'
  simp only [compareOfLessAndEq, hlt, if_neg hne, if_neg hne']

namespace Run

variable {a b : Run}

/-- To a text, all numbers compare alike. -/
theorem compare_place (ha : a.WellFormed) (hb : b.WellFormed) (htext : a.numeric = false)
    (hnumber : b.numeric = true) :
    Ord.compare (lowerList a.text) (lowerList b.text) = Ord.compare (lowerList a.text) ['0'] ∧
      Ord.compare (lowerList a.text) ['0'] ≠ .eq := by
  obtain ⟨c, cs, hcs⟩ := List.exists_cons_of_ne_nil ha.ne_nil
  obtain ⟨e, es, hes⟩ := List.exists_cons_of_ne_nil hb.ne_nil
  have hc : c.isDigit = false := (ha.isDigit_eq c (by simp [hcs])).trans htext
  have he : e.isDigit = true := (hb.isDigit_eq e (by simp [hes])).trans hnumber
  obtain ⟨d, ds, hlower, hd⟩ := lowerList_of_not_isDigit hc cs
  obtain ⟨fs, hlower'⟩ := lowerList_of_isDigit he es
  obtain ⟨hcompare, hne⟩ := compare_of_isDigit he hd
  -- The first characters differ, so they decide.
  rw [hcs, hes, hlower, hlower', List.compare_eq_compareLex, List.compareLex_cons_cons,
    List.compareLex_cons_cons, hcompare, then_of_ne_eq hne, then_of_ne_eq hne]
  exact ⟨rfl, hne⟩

/-- A text and a number are compared by their places. -/
theorem compare_eq_keyOrder_of_text_number (ha : a.WellFormed) (hb : b.WellFormed)
    (htext : a.numeric = false) (hnumber : b.numeric = true) : a.compare b = keyOrder a b := by
  obtain ⟨hplace, hne⟩ := compare_place ha hb htext hnumber
  have hkey : keyOrder a b = (Ord.compare (lowerList a.text) ['0']).then
      (compareLex (compareOn fun r => r.digits.length) (compareOn digits) a b) := by
    simp [keyOrder, compareLex, compareOn, place, htext, hnumber]
  have hcompare : a.compare b = Ord.compare (lowerList a.text) (lowerList b.text) := by
    simp [Run.compare, htext]
  rw [hkey, hcompare, hplace, then_of_ne_eq hne]

/-- Against a run of text, turning a comparison around turns its result around. -/
theorem compare_swap (htext : a.numeric = false) : b.compare a = (a.compare b).swap := by
  simp only [Run.compare, htext, Bool.and_false, Bool.false_and, Bool.false_eq_true, if_false]
  exact OrientedCmp.eq_swap

/-- Natural order on runs is the order of their keys. -/
theorem compare_eq_keyOrder (ha : a.WellFormed) (hb : b.WellFormed) :
    a.compare b = keyOrder a b := by
  -- Runs of one kind are compared as the key is; of different kinds, by their first characters.
  cases hkind : a.numeric <;> cases hkind' : b.numeric
  case false.false =>
    simp [Run.compare, keyOrder, compareLex, compareOn, place, digits, hkind, hkind']
  case false.true => exact compare_eq_keyOrder_of_text_number ha hb hkind hkind'
  case true.false =>
    rw [compare_swap hkind', compare_eq_keyOrder_of_text_number hb ha hkind' hkind]
    exact OrientedCmp.eq_swap.symm
  case true.true =>
    simp [Run.compare, compareDigits, keyOrder, compareLex, compareOn, place, digits, hkind, hkind']

end Run

/-! ## Texts -/

/-- Run by run, texts are in the lexicographic order of the keys. -/
theorem compareRuns_eq_compareLex {as bs : List Run} (has : ∀ r ∈ as, r.WellFormed)
    (hbs : ∀ r ∈ bs, r.WellFormed) : compareRuns as bs = List.compareLex Run.keyOrder as bs := by
  induction as generalizing bs with
  | nil => cases bs <;> rfl
  | cons a as ih =>
    cases bs with
    | nil => rfl
    | cons b bs =>
      rw [List.forall_mem_cons] at has hbs
      rw [compareRuns, List.compareLex_cons_cons, Run.compare_eq_keyOrder has.1 hbs.1,
        ih has.2 hbs.2]

/-- The order of the keys of all runs. -/
def runOrder (a b : List Char) : Ordering := List.compareLex Run.keyOrder (runs a) (runs b)

instance : TransCmp runOrder where
  eq_swap {a b} := @OrientedCmp.eq_swap _ (List.compareLex Run.keyOrder) _ (runs a) (runs b)
  isLE_trans {a b c} :=
    @TransCmp.isLE_trans _ (List.compareLex Run.keyOrder) _ (runs a) (runs b) (runs c)

/-- The order goes by the runs first and by the texts themselves where these are equal. -/
theorem naturalOrderList_eq : naturalOrderList = compareLex runOrder compare := by
  funext a b
  rw [naturalOrderList, compareRuns_eq_compareLex wellFormed_of_mem_runs wellFormed_of_mem_runs]
  rfl

instance : TransCmp naturalOrderList := by
  rw [naturalOrderList_eq]
  infer_instance

instance : TransCmp naturalOrder where
  eq_swap {a b} := @OrientedCmp.eq_swap _ naturalOrderList _ a.toList b.toList
  isLE_trans {a b c} := @TransCmp.isLE_trans _ naturalOrderList _ a.toList b.toList c.toList

/-- Texts that agree in all runs are told apart by their characters. -/
instance : LawfulEqCmp naturalOrder where
  eq_of_compare h :=
    String.toList_inj.mp (LawfulEqCmp.eq_of_compare (Ordering.then_eq_eq.mp h).2)

/-- Natural order is total: of two texts, one comes first unless they are the same, and what comes
before a text also comes before what follows that text. -/
theorem naturalOrder_total (a b c : String) :
    naturalOrder a b = (naturalOrder b a).swap ∧
      (naturalOrder a b = .eq ↔ a = b) ∧
      (naturalOrder a b = .lt → naturalOrder b c = .lt → naturalOrder a c = .lt) := by
  exact ⟨OrientedCmp.eq_swap, LawfulEqCmp.compare_eq_iff_eq, TransCmp.lt_trans⟩

/-- Leading zeros and capitals count only between texts that agree in all else. -/
theorem naturalOrder_total_zeros :
    naturalOrder "Java 08" "java 8" = .lt ∧ naturalOrder "java 8" "Java 11" = .lt ∧
      naturalOrder "Java 08" "Java 11" = .lt ∧ naturalOrder "Java 11" "Java 08" = .gt := by
  have hzeros : naturalOrder "Java 08" "java 8" = .lt := by decide +kernel
  have hvalue : naturalOrder "java 8" "Java 11" = .lt := by decide +kernel
  obtain ⟨-, -, htrans⟩ := naturalOrder_total "Java 08" "java 8" "Java 11"
  obtain ⟨hswap, -, -⟩ := naturalOrder_total "Java 11" "Java 08" "java 8"
  have hlt : naturalOrder "Java 08" "Java 11" = .lt := htrans hzeros hvalue
  exact ⟨hzeros, hvalue, hlt, by rw [hswap, hlt, Ordering.swap_lt]⟩

/-! ## Sorting -/

variable {α : Type} {name : α → String}

/-- Of two items with their positions, the first belongs before the second: by name, or by position
if they have the same name. -/
def Precedes (name : α → String) (a b : α × Nat) : Prop :=
  naturalOrder (name a.1) (name b.1) = .lt ∨ name a.1 = name b.1 ∧ a.2 < b.2

/-- Comparing the positions of items with the same name puts items in their places. -/
theorem precedes_of_zipIdxLE {a b : α × Nat} (hne : a.2 ≠ b.2)
    (hle : List.zipIdxLE (fun a b => (naturalOrder (name a) (name b)).isLE) a b = true) :
    Precedes name a b := by
  rw [List.zipIdxLE] at hle
  cases horder : naturalOrder (name a.1) (name b.1) with
  | lt => exact .inl horder
  | eq =>
    have hname : name a.1 = name b.1 := LawfulEqCmp.eq_of_compare horder
    have hle : a.2 ≤ b.2 := by simpa [hname, ReflCmp.compare_self] using hle
    exact .inr ⟨hname, Nat.lt_of_le_of_ne hle hne⟩
  | gt => simp [horder] at hle

/-- What precedes is not greater by name. -/
theorem Precedes.ne_gt {a b : α × Nat} (h : Precedes name a b) :
    naturalOrder (name a.1) (name b.1) ≠ .gt := by
  rcases h with h | ⟨h, -⟩
  · simp [h]
  · simp [h, ReflCmp.compare_self]

theorem nodup_zipIdx (items : List α) : (items.zipIdx.map (·.2)).Nodup := by
  rw [List.zipIdx_map_snd]
  exact List.nodup_range'

/-- Sorting puts the items in natural order of their names, and of those with the same name the
earlier one first. -/
theorem exists_order (name : α → String) (items : List α) : ∃ order : List (α × Nat),
    order.map (·.1) = naturalSort name items ∧ order.Perm items.zipIdx ∧
      order.Pairwise (Precedes name) := by
  let le (a b : α) : Bool := (naturalOrder (name a) (name b)).isLE
  have htrans : ∀ a b c, le a b = true → le b c = true → le a c = true :=
    fun a b c => TransCmp.isLE_trans
  have htotal : ∀ a b, (le a b || le b a) = true := by
    intro a b
    have hswap : naturalOrder (name b) (name a) = (naturalOrder (name a) (name b)).swap :=
      OrientedCmp.eq_swap
    simp only [le, hswap]
    cases naturalOrder (name a) (name b) <;> rfl
  have hperm := List.mergeSort_perm items.zipIdx (List.zipIdxLE le)
  have hsorted := List.pairwise_mergeSort (List.zipIdxLE_trans htrans) (List.zipIdxLE_total htotal)
    items.zipIdx
  -- Every place occurs once, so the order of equal names is strict.
  have hpositions : ((items.zipIdx.mergeSort (List.zipIdxLE le)).map (·.2)).Nodup :=
    (hperm.map _).nodup_iff.mpr (nodup_zipIdx items)
  refine ⟨_, List.mergeSort_zipIdx, hperm, ?_⟩
  exact (hsorted.and (List.pairwise_map.mp hpositions)).imp fun h => precedes_of_zipIdxLE h.2 h.1

end TestMatrix.Text

import Mathlib.Data.List.Basic
import TestMatrix.Text.Case

/-!
# Digits in lower case

Lower case neither makes digits nor changes them. A text that begins with a digit begins with the
same digit in lower case (`lowerList_of_isDigit`), and a text that begins with another character
begins with another character in lower case, too (`lowerList_of_not_isDigit`). Nothing is lost on
the way: no character vanishes (`lowerChar_ne_nil`).

The reason is that everything that the tables map to lies above the digits.
-/

namespace TestMatrix.Text

/-- What is no digit comes before the digits or behind them. -/
theorem isDigit_eq_false_iff {c : Char} : c.isDigit = false ↔ c.toNat < 48 ∨ 57 < c.toNat := by
  rw [← Bool.not_eq_true, Char.isDigit_iff_toNat, not_and_or, Nat.not_le, Nat.not_le]
  rfl

/-- No digit lies above `9`; what is not the number of a character stands for the null character. -/
theorem isDigit_ofNat {n : Nat} (h : 57 < n) : (Char.ofNat n).isDigit = false := by
  by_cases hv : n.isValidChar
  · have hn : (Char.ofNat n).toNat = n := by rw [Char.ofNat, dif_pos hv]; rfl
    exact isDigit_eq_false_iff.mpr (.inr (hn.symm ▸ h))
  · rw [Char.ofNat, dif_neg hv]
    decide

/-! ## The tables -/

/-- No range of the table leads into the digits or in front of them. -/
theorem image_lowerRuns : ∀ r ∈ lowerRuns, 57 < r.image := by decide +kernel

/-- Nor does a character that becomes several, of which there is one at least. -/
theorem image_lowerExpansions : ∀ e ∈ lowerExpansions, e.2 ≠ [] ∧ ∀ n ∈ e.2, 57 < n := by decide

/-- So it is for each entry that is found. -/
theorem image_of_lookup {c : Nat} {image : List Nat}
    (h : lowerExpansions.lookup c = some image) : image ≠ [] ∧ ∀ n ∈ image, 57 < n := by
  obtain ⟨before, after, hsplit, -⟩ := List.lookup_eq_some_iff.mp h
  exact image_lowerExpansions (c, image) (by simp [hsplit])

/-- What the table makes of a character is no digit unless the character is one. -/
theorem isDigit_mapByRuns {c : Char} (h : c.isDigit = false) :
    (mapByRuns lowerRuns c).isDigit = false := by
  unfold mapByRuns
  split
  · next r hr =>
    have himage : 57 < r.image := image_lowerRuns r (List.mem_of_find?_eq_some hr)
    exact isDigit_ofNat (Nat.lt_of_lt_of_le himage (Nat.le_add_right _ _))
  · exact h

/-! ## Single characters -/

/-- A digit has no other case. -/
theorem toLower_of_isDigit {c : Char} (h : c.isDigit = true) : c.toLower = c := by
  have h57 : c.toNat ≤ 57 := (Char.isDigit_iff_toNat.mp h).2
  refine dif_neg fun hupper => ?_
  have h65 : 65 ≤ c.toNat := UInt32.le_iff_toNat_le.mp hupper.1
  omega

/-- The lower case of what is no digit is none either. -/
theorem isDigit_toLower {c : Char} (h : c.isDigit = false) : c.toLower.isDigit = false := by
  unfold Char.toLower
  split
  · next hupper =>
    have h65 : 65 ≤ c.val.toNat := UInt32.le_iff_toNat_le.mp hupper.1
    have h90 : c.val.toNat ≤ 90 := UInt32.le_iff_toNat_le.mp hupper.2
    have h32 : (32 : UInt32).toNat = 32 := rfl
    refine isDigit_eq_false_iff.mpr (.inr ?_)
    change 57 < (c.val + 32).toNat
    rw [UInt32.toNat_add, h32]
    omega
  · exact h

/-- A digit is not expanded. -/
theorem lowerChar_of_isDigit {c : Char} (h : c.isDigit = true) : lowerChar c = [c] := by
  have h57 : c.toNat ≤ 57 := (Char.isDigit_iff_toNat.mp h).2
  rw [lowerChar, if_pos (by omega), toLower_of_isDigit h]

/-- No digit is among the characters that another becomes. -/
theorem isDigit_of_mem_lowerChar {c d : Char} (hc : c.isDigit = false) (hd : d ∈ lowerChar c) :
    d.isDigit = false := by
  unfold lowerChar mapCase at hd
  split at hd
  · rw [List.mem_singleton.mp hd]
    exact isDigit_toLower hc
  · split at hd
    · next image himage =>
      obtain ⟨n, hn, rfl⟩ := List.mem_map.mp hd
      exact isDigit_ofNat ((image_of_lookup himage).2 n hn)
    · rw [List.mem_singleton.mp hd]
      exact isDigit_mapByRuns hc

/-- No character vanishes. -/
theorem lowerChar_ne_nil (c : Char) : lowerChar c ≠ [] := by
  unfold lowerChar mapCase
  split
  · exact List.cons_ne_nil _ _
  · split
    · next image himage => simpa using (image_of_lookup himage).1
    · exact List.cons_ne_nil _ _

/-! ## Texts -/

/-- Neither form of the small sigma is a digit. -/
theorem isDigit_lowerSigma (before after : List Char) :
    (lowerSigma before after).isDigit = false := by
  unfold lowerSigma
  split <;> decide

/-- A leading digit is kept. -/
theorem lowerList_of_isDigit {c : Char} (h : c.isDigit = true) (rest : List Char) :
    ∃ ds, lowerList (c :: rest) = c :: ds := by
  have hsigma : c ≠ 'Σ' := by
    rintro rfl
    exact absurd h (by decide)
  rw [lowerList, lowerAfter, if_neg hsigma, lowerChar_of_isDigit h]
  exact ⟨_, rfl⟩

/-- No leading digit comes into being. -/
theorem lowerList_of_not_isDigit {c : Char} (h : c.isDigit = false) (rest : List Char) :
    ∃ d ds, lowerList (c :: rest) = d :: ds ∧ d.isDigit = false := by
  rw [lowerList, lowerAfter]
  split
  · exact ⟨_, _, rfl, isDigit_lowerSigma [] rest⟩
  · obtain ⟨d, ds, hds⟩ := List.exists_cons_of_ne_nil (lowerChar_ne_nil c)
    rw [hds]
    exact ⟨d, _, rfl, isDigit_of_mem_lowerChar h (by simp [hds])⟩

end TestMatrix.Text

import TestMatrix.Proofs.Text.LowerCase

/-!
# Controls in upper case

All that the tables of upper case map to lies above the digits and the punctuation before `A`. So a
line feed, or any other character before `A`, is in the upper case of a text only if it is in the
text itself (`mem_of_mem_upperList`). The null character is left out, because it also stands for
numbers that are not those of a character.
-/

namespace TestMatrix.Text

/-! ## The tables -/

/-- No range of the table leads in front of the capital letters. -/
theorem image_upperRuns : ∀ r ∈ upperRuns, 65 ≤ r.image := by decide +kernel

/-- Nor does a character that becomes several. -/
theorem image_upperExpansions : ∀ e ∈ upperExpansions, ∀ n ∈ e.2, 65 ≤ n := by decide +kernel

/-- The character of a number is not below it, unless it is the null character. -/
theorem le_toNat_ofNat {n : Nat} (h : 0 < (Char.ofNat n).toNat) : n ≤ (Char.ofNat n).toNat := by
  by_cases hv : n.isValidChar
  · have hsame : (Char.ofNat n).toNat = n := by rw [Char.ofNat, dif_pos hv]; rfl
    exact Nat.le_of_eq hsame.symm
  · rw [Char.ofNat, dif_neg hv] at h
    exact absurd h (by decide)

/-- A number from that of `A` on is not that of a character before it. -/
theorem not_lt_toNat_ofNat {n : Nat} (hn : 65 ≤ n) (hpos : 0 < (Char.ofNat n).toNat) :
    ¬(Char.ofNat n).toNat < 65 :=
  Nat.not_lt.mpr (Nat.le_trans hn (le_toNat_ofNat hpos))

/-! ## Single characters -/

variable {c d : Char} {cs : List Char}

/-- What is in front of the capital letters afterwards was there before, and is no letter. -/
theorem toUpper_of_lt (h : c.toUpper.toNat < 65) : c.toUpper = c := by
  unfold Char.toUpper at h ⊢
  split
  · next hlower =>
    have h97 : 97 ≤ c.val.toNat := UInt32.le_iff_toNat_le.mp hlower.1
    have h122 : c.val.toNat ≤ 122 := UInt32.le_iff_toNat_le.mp hlower.2
    have hshift : ('A'.val - 'a'.val).toNat = 4294967264 := rfl
    -- The shift is a difference that wraps around; it leads to one of the capitals, from 65 on.
    rw [dif_pos hlower] at h
    change (c.val + ('A'.val - 'a'.val)).toNat < 65 at h
    rw [UInt32.toNat_add, hshift] at h
    omega
  · rfl

/-- The table leaves such a character alone. -/
theorem mapByRuns_of_lt (hpos : 0 < (mapByRuns upperRuns c).toNat)
    (hlt : (mapByRuns upperRuns c).toNat < 65) : mapByRuns upperRuns c = c := by
  unfold mapByRuns at hpos hlt ⊢
  split at hpos
  · next r hr =>
    simp only [hr] at hlt
    have himage : 65 ≤ r.image := image_upperRuns r (List.mem_of_find?_eq_some hr)
    exact absurd hlt (not_lt_toNat_ofNat (Nat.le_trans himage (Nat.le_add_right _ _)) hpos)
  · rfl

/-- A character before `A` is in the upper case of none but itself. -/
theorem eq_of_mem_upperChar (h : d ∈ upperChar c) (hpos : 0 < d.toNat) (hlt : d.toNat < 65) :
    d = c := by
  unfold upperChar mapCase at h
  split at h
  · obtain rfl := List.mem_singleton.mp h
    exact toUpper_of_lt hlt
  · split at h
    · next image himage =>
      obtain ⟨n, hn, rfl⟩ := List.mem_map.mp h
      obtain ⟨before, after, hsplit, -⟩ := List.lookup_eq_some_iff.mp himage
      have hn65 : 65 ≤ n := image_upperExpansions (c.toNat, image) (by simp [hsplit]) n hn
      exact absurd hlt (not_lt_toNat_ofNat hn65 hpos)
    · obtain rfl := List.mem_singleton.mp h
      exact mapByRuns_of_lt hpos hlt

/-! ## Texts -/

/-- Upper case brings no characters before `A` into a text. -/
theorem mem_of_mem_upperList (h : d ∈ upperList cs) (hpos : 0 < d.toNat) (hlt : d.toNat < 65) :
    d ∈ cs := by
  obtain ⟨c, hc, hd⟩ := List.mem_flatMap.mp h
  rwa [eq_of_mem_upperChar hd hpos hlt]

end TestMatrix.Text

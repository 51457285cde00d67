import Mathlib.Data.List.Induction
import Mathlib.Data.String.Basic
import TestMatrix.Dictionary

/-!
# Dictionaries stay in order

`put` and `without` keep the keys of a dictionary in ascending order (`Sorted.put`,
`Sorted.without`), and pairs that are in order are the dictionary that is made of them
(`ofPairs_of_sorted`).
-/

namespace TestMatrix.Dictionary

variable {α : Type} {d : Dictionary α} {key : String} {value : α} {e : String × α}

/-- The keys are in ascending order, each key once. -/
def Sorted (d : Dictionary α) : Prop := d.Pairwise fun e e' => e.1 < e'.1

theorem sorted_nil : Sorted ([] : Dictionary α) := List.Pairwise.nil

theorem sorted_cons : Sorted (e :: d) ↔ (∀ e' ∈ d, e.1 < e'.1) ∧ Sorted d := List.pairwise_cons

/-- What is in the dictionary after a `put` was there before, or it is what was put. -/
theorem mem_put (h : e ∈ put key value d) : e = (key, value) ∨ e ∈ d := by
  induction d with
  | nil => exact .inl (List.mem_singleton.mp h)
  | cons first rest ih =>
    obtain ⟨k, v⟩ := first
    rw [put] at h
    split at h
    · exact List.mem_cons.mp h
    · split at h
      · rcases List.mem_cons.mp h with h | h
        · exact .inl h
        · exact .inr (List.mem_cons_of_mem _ h)
      · rcases List.mem_cons.mp h with h | h
        · exact .inr (h ▸ List.mem_cons_self)
        · exact (ih h).imp id (List.mem_cons_of_mem _)

/-- A key is put into its place. -/
theorem Sorted.put (h : Sorted d) (key : String) (value : α) : Sorted (put key value d) := by
  induction d with
  | nil => exact sorted_cons.mpr ⟨by simp, h⟩
  | cons first rest ih =>
    obtain ⟨k, v⟩ := first
    obtain ⟨hfirst, hrest⟩ := sorted_cons.mp h
    rw [Dictionary.put]
    split
    · next hlt =>
      refine sorted_cons.mpr ⟨?_, h⟩
      rw [List.forall_mem_cons]
      exact ⟨hlt, fun e he => lt_trans hlt (hfirst e he)⟩
    · next hnot =>
      split
      · next heq =>
        refine sorted_cons.mpr ⟨fun e he => ?_, hrest⟩
        rw [heq]
        exact hfirst e he
      · next hne =>
        -- The key belongs behind the first one, so nothing that is put there comes before that.
        have hlt : k < key := lt_of_le_of_ne (not_lt.mp hnot) (Ne.symm hne)
        refine sorted_cons.mpr ⟨fun e he => ?_, ih hrest⟩
        rcases mem_put he with rfl | he
        · exact hlt
        · exact hfirst e he

/-- Leaving out a key does not disturb the order. -/
theorem Sorted.without (h : Sorted d) (key : String) : Sorted (d.without key) := h.filter _

/-- Taking out a key leaves the others alone. -/
theorem valueOf?_without_of_ne {other : String} (h : other ≠ key) (d : Dictionary α) :
    (d.without key).valueOf? other = d.valueOf? other := by
  rw [valueOf?, valueOf?, without, List.find?_filter]
  congr 2
  funext e
  by_cases he : e.1 = other
  · simp [he, h]
  · simp [he]

/-- A key that is taken out has no value. -/
theorem valueOf?_without_self (key : String) (d : Dictionary α) :
    (d.without key).valueOf? key = none := by
  rw [valueOf?, without, List.find?_filter, Option.map_eq_none_iff, List.find?_eq_none]
  simp

theorem mem_of_mem_without (h : e ∈ d.without key) : e ∈ d := List.mem_of_mem_filter h

/-- The keys of a dictionary are those that have a value. -/
theorem mem_keys_iff : key ∈ d.map (·.1) ↔ (d.valueOf? key).isSome = true := by
  rw [valueOf?, Option.isSome_map, List.find?_isSome, List.mem_map]
  simp only [beq_iff_eq]

/-- No key comes twice. -/
theorem Sorted.nodup_keys (h : Sorted d) : (d.map (·.1)).Nodup :=
  List.pairwise_map.mpr (h.imp ne_of_lt)

/-- A key behind all others is put at the end. -/
theorem put_of_forall_lt (h : ∀ e ∈ d, e.1 < key) : put key value d = d ++ [(key, value)] := by
  induction d with
  | nil => rfl
  | cons first rest ih =>
    obtain ⟨k, v⟩ := first
    rw [List.forall_mem_cons] at h
    rw [put, if_neg (lt_asymm h.1), if_neg (ne_of_gt h.1), ih h.2]
    rfl

/-- Pairs that are in order are the dictionary that is made of them. -/
theorem ofPairs_of_sorted (h : Sorted d) : ofPairs d = d := by
  induction d using List.reverseRecOn with
  | nil => rfl
  | append_singleton d e ih =>
    obtain ⟨hd, -, hlast⟩ := List.pairwise_append.mp h
    rw [ofPairs_concat, ih hd]
    exact put_of_forall_lt fun e' he' => hlast e' he' e (List.mem_singleton_self e)

end TestMatrix.Dictionary

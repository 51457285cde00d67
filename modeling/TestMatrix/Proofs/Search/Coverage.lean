import Mathlib.Data.List.Basic
import TestMatrix.Proofs.Search.Choice

/-!
# What a search covers

`Leads` is the tree that a search walks: from a path on, the branches lead to the paths and
in the end to the tuples below it. A search that ends with a tuple has come to that tuple
(`run_found`), and a search that ends exhausted has come to all of them (`run_exhausted`): none of
them is accepted, and a repeated one was met if there is one. Both hold whatever is drawn.
-/

namespace TestMatrix.Search

/-! ## The tree -/

/-- From a path, the branches lead on over some further indices. -/
inductive Leads (branches : List Nat → List Nat) : List Nat → List Nat → Prop
  /-- Every path leads to itself. -/
  | nil (path : List Nat) : Leads branches path []
  /-- A branch leads to what is below it. -/
  | cons {path rest : List Nat} {index : Nat} (hindex : index ∈ branches path)
      (hrest : Leads branches (path ++ [index]) rest) : Leads branches path (index :: rest)

/-- The branches lead to a complete tuple. -/
def Problem.IsTuple (p : Problem) (tuple : List Nat) : Prop :=
  Leads p.branches [] tuple ∧ tuple.length = p.levels.length

/-- Every index on the way is a branch of the path before it. -/
theorem leads_iff (branches : List Nat → List Nat) (path rest : List Nat) :
    Leads branches path rest ↔
      ∀ k index, rest[k]? = some index → index ∈ branches (path ++ rest.take k) := by
  constructor
  -- Along the path, by induction on the way that is led.
  · intro h
    induction h with
    | nil path => simp
    | @cons path rest index hindex _ ih =>
      intro k v hk
      cases k with
      | zero =>
        obtain rfl : index = v := by simpa using hk
        simpa using hindex
      | succ k => simpa using ih k v (by simpa using hk)
  -- Back again, by induction on what is left of the path, whose beginning grows.
  · intro h
    induction rest generalizing path with
    | nil => exact .nil path
    | cons index rest ih =>
      refine .cons (by simpa using h 0 index (by simp)) (ih (path ++ [index]) ?_)
      intro k v hk
      simpa using h (k + 1) v (by simpa using hk)

/-! ## One level -/

/-- A tuple is found below one of the branches. -/
theorem Tries.found {maxBacktracks : Nat} {inner : Nat → Tally → Outcome → Prop}
    {branches tuple : List Nat} {t : Tally} {o : Outcome}
    (h : Tries maxBacktracks inner branches t o) (ho : o.ending = .found tuple) :
    ∃ index ∈ branches, ∃ t o, inner index t o ∧ o.ending = .found tuple := by
  induction h with
  | nothing t => exact absurd ho (by simp)
  | @decided branches rest index t o hperm hinner hending =>
    exact ⟨index, hperm.mem_iff.mpr List.mem_cons_self, t.draw, o, hinner, ho⟩
  | spent => exact absurd ho (by simp)
  | next hperm hinner hending hmax hrest ih =>
    obtain ⟨index, hindex, hfound⟩ := ih ho
    exact ⟨index, hperm.mem_iff.mpr (List.mem_cons_of_mem _ hindex), hfound⟩

/-- A level that ends exhausted has been exhausted below each of its branches, and has met a
repeated tuple just if one of them did. `Met index` says that there is one below a branch. -/
theorem Tries.exhausted {maxBacktracks : Nat} {inner : Nat → Tally → Outcome → Prop}
    {Met : Nat → Prop} {branches : List Nat} {t : Tally} {o : Outcome}
    (hinner : ∀ index t o, inner index t o → o.ending = .exhausted →
      (o.tally.sawRepeat = true ↔ t.sawRepeat = true ∨ Met index))
    (h : Tries maxBacktracks inner branches t o) (ho : o.ending = .exhausted) :
    (∀ index ∈ branches, ∃ t o, inner index t o ∧ o.ending = .exhausted) ∧
      (o.tally.sawRepeat = true ↔ t.sawRepeat = true ∨ ∃ index ∈ branches, Met index) := by
  induction h with
  | nothing t => simp
  | decided hperm hdone hending => exact absurd ho hending
  | spent => exact absurd ho (by simp)
  | @next branches rest index t o o' hperm hdone hending hmax hrest ih =>
    -- The branch that was drawn comes first, and the induction hypothesis speaks of the others.
    obtain ⟨hall, hrepeat⟩ := ih ho
    have hmem : ∀ i, i ∈ branches ↔ i = index ∨ i ∈ rest := fun i => by
      rw [hperm.mem_iff, List.mem_cons]
    refine ⟨?_, ?_⟩
    · intro i hi
      rcases (hmem i).mp hi with rfl | hi
      · exact ⟨t.draw, o, hdone, hending⟩
      · exact hall i hi
    · have hhere : o.tally.sawRepeat = true ↔ t.sawRepeat = true ∨ Met index :=
        hinner index t.draw o hdone hending
      rw [hrepeat, Tally.backtrack_sawRepeat, hhere, or_assoc]
      simp only [hmem, or_and_right, exists_or, exists_eq_left]

/-! ## All levels -/

/-- What is found is an accepted tuple that the branches lead to. -/
theorem Explores.found {p : Problem} {maxBacktracks levels : Nat} {path tuple : List Nat}
    {t : Tally} {o : Outcome} (h : Explores p maxBacktracks levels path t o)
    (ho : o.ending = .found tuple) :
    ∃ rest, Leads p.branches path rest ∧ rest.length = levels ∧ tuple = path ++ rest ∧
      p.leaf tuple = .accepted := by
  induction levels generalizing path t o with
  | zero =>
    rw [Explores, explore] at h
    cases hleaf : p.leaf path with
    | accepted =>
      simp only [hleaf] at h
      obtain rfl : path = tuple := by simpa [h] using ho
      exact ⟨[], .nil path, rfl, (List.append_nil path).symm, hleaf⟩
    | rejected => simp [h, hleaf] at ho
    | repeated => simp [h, hleaf] at ho
  | succ levels ih =>
    obtain ⟨index, hindex, t', o', hbelow, hfound⟩ := Tries.found h ho
    obtain ⟨rest, hlead, hlength, rfl, hleaf⟩ := ih hbelow hfound
    exact ⟨index :: rest, .cons hindex hlead, by rw [List.length_cons, hlength], by simp,
      hleaf⟩

/-- Exhausted means that no tuple below the path is accepted, and a repeated one was met exactly if
there is one. -/
theorem Explores.exhausted {p : Problem} {maxBacktracks levels : Nat} {path : List Nat} {t : Tally}
    {o : Outcome} (h : Explores p maxBacktracks levels path t o) (ho : o.ending = .exhausted) :
    (∀ rest, Leads p.branches path rest → rest.length = levels →
        p.leaf (path ++ rest) ≠ .accepted) ∧
      (o.tally.sawRepeat = true ↔ t.sawRepeat = true ∨ ∃ rest, Leads p.branches path rest ∧
        rest.length = levels ∧ p.leaf (path ++ rest) = .repeated) := by
  induction levels generalizing path t o with
  | zero =>
    -- No level is left, so the path itself is the only tuple.
    have hnil : ∀ rest : List Nat, rest.length = 0 ↔ rest = [] := fun _ => List.length_eq_zero_iff
    rw [Explores, explore] at h
    simp only [hnil]
    cases hleaf : p.leaf path with
    | accepted => simp [h, hleaf] at ho
    | rejected =>
      simp only [hleaf] at h
      subst h
      refine ⟨fun rest _ hrest => by simp [hrest, hleaf], ?_⟩
      simp +contextual [Tally.note, hleaf]
    | repeated =>
      simp only [hleaf] at h
      subst h
      refine ⟨fun rest _ hrest => by simp [hrest, hleaf], ?_⟩
      exact iff_of_true (by simp [Tally.note])
        (.inr ⟨[], .nil path, rfl, by rwa [List.append_nil]⟩)
  | succ levels ih =>
    have hmet : ∀ index t o, Explores p maxBacktracks levels (path ++ [index]) t o →
        o.ending = .exhausted → (o.tally.sawRepeat = true ↔ t.sawRepeat = true ∨
          ∃ rest, Leads p.branches (path ++ [index]) rest ∧ rest.length = levels ∧
            p.leaf (path ++ [index] ++ rest) = .repeated) :=
      fun index t o hinner hending => (ih hinner hending).2
    obtain ⟨hall, hrepeat⟩ := Tries.exhausted hmet h ho
    refine ⟨?_, hrepeat.trans (or_congr_right ?_)⟩
    -- A tuple below the path goes on with one of the branches, and that branch is exhausted.
    · intro rest hlead hlength
      cases hlead with
      | nil => simp at hlength
      | @cons _ rest index hindex hlead =>
        obtain ⟨t', o', hinner, hending⟩ := hall index hindex
        have hnone := (ih hinner hending).1 rest hlead (by simpa using hlength)
        simpa using hnone
    · constructor
      · rintro ⟨index, hindex, rest, hlead, hlength, hleaf⟩
        exact ⟨index :: rest, .cons hindex hlead, by simp [hlength], by simpa using hleaf⟩
      · rintro ⟨rest, hlead, hlength, hleaf⟩
        cases hlead with
        | nil => simp at hlength
        | @cons _ rest index hindex hlead =>
          exact ⟨index, hindex, rest, hlead, by simpa using hlength, by simpa using hleaf⟩

/-! ## One search, and several -/

/-- A search finds accepted tuples only. -/
theorem run_found {p : Problem} {maxBacktracks : Nat} {stream : RandomStream} {tuple : List Nat}
    (h : (run p maxBacktracks stream).ending = .found tuple) :
    p.IsTuple tuple ∧ p.leaf tuple = .accepted := by
  rw [run] at h
  split at h
  · exact absurd h (by simp)
  · obtain ⟨rest, hlead, hlength, rfl, hleaf⟩ :=
      (explores_explore p maxBacktracks p.levels [] { stream }).found h
    exact ⟨⟨hlead, hlength⟩, hleaf⟩

/-- A search that ends exhausted has met all tuples. -/
theorem run_exhausted {p : Problem} {maxBacktracks : Nat} {stream : RandomStream}
    (hlevels : p.levels ≠ []) (h : (run p maxBacktracks stream).ending = .exhausted) :
    (∀ tuple, p.IsTuple tuple → p.leaf tuple ≠ .accepted) ∧
      ((run p maxBacktracks stream).tally.sawRepeat = true ↔
        ∃ tuple, p.IsTuple tuple ∧ p.leaf tuple = .repeated) := by
  rw [run, if_neg (by simpa using hlevels)] at h ⊢
  obtain ⟨hnone, hrepeat⟩ := (explores_explore p maxBacktracks p.levels [] { stream }).exhausted h
  refine ⟨fun tuple htuple => hnone tuple htuple.1 htuple.2, hrepeat.trans ?_⟩
  simp [Problem.IsTuple, and_assoc]

/-- What several searches find, one of them finds. -/
theorem retry_found {p : Problem} {maxBacktracks attempts : Nat} {stream : RandomStream}
    {sawRepeat : Bool} {tuple : List Nat}
    (h : (retry p maxBacktracks attempts stream sawRepeat).ending = .found tuple) :
    p.IsTuple tuple ∧ p.leaf tuple = .accepted := by
  induction attempts generalizing stream sawRepeat with
  | zero => exact absurd h (by simp [retry])
  | succ attempts ih =>
    rw [retry] at h
    cases hrun : (run p maxBacktracks stream).ending with
    | found found =>
      obtain rfl : found = tuple := by simpa [hrun] using h
      exact run_found hrun
    | exhausted => simp [hrun] at h
    | outOfBudget =>
      simp only [hrun] at h
      exact ih h

/-- If the first search ends within its budget, it decides. -/
theorem retry_ending_of_run {p : Problem} {maxBacktracks attempts : Nat} {stream : RandomStream}
    {sawRepeat : Bool} (h : (run p maxBacktracks stream).ending ≠ .outOfBudget) :
    (retry p maxBacktracks (attempts + 1) stream sawRepeat).ending =
      (run p maxBacktracks stream).ending := by
  rw [retry]
  cases hrun : (run p maxBacktracks stream).ending with
  | found tuple => rfl
  | exhausted => rfl
  | outOfBudget => exact absurd hrun h

end TestMatrix.Search

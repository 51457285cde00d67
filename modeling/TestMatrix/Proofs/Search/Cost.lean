import Mathlib.Algebra.BigOperators.Ring.List
import Mathlib.Algebra.Ring.Nat
import TestMatrix.Proofs.Search.Choice

/-!
# What a search costs

Each branch that a search follows costs it one draw, and each that it comes back from costs it one
backtrack step. When it ends, the branches that it has followed and not come back from are those on
the way to the place where it is, so that its draws are its backtrack steps and the depth of that
place (`Spends`). An exhausted search is back where it began and one that has found a tuple stands
below all levels, so that both know their draws exactly; one that runs out of budget has just come
back to some level (`Explores.spends`).

A search draws every branch of its tree at most once. If the levels have at most `sizes` branches,
then these are `prefixCount sizes` at most, and with a backtrack step for each of them a search
always comes to a decision (`run_ne_outOfBudget`).
-/

namespace TestMatrix

namespace RandomStream

/-- At most `n` draws lead from `s` to `s'`. -/
def Reaches (s : RandomStream) (n : Nat) (s' : RandomStream) : Prop :=
  ∃ draws ≤ n, s' = s.skip draws

variable {s s' s'' : RandomStream} {m n : Nat}

theorem Reaches.refl (s : RandomStream) (n : Nat) : s.Reaches n s :=
  ⟨0, Nat.zero_le n, s.skip_zero.symm⟩

theorem Reaches.mono (h : s.Reaches m s') (hmn : m ≤ n) : s.Reaches n s' := by
  obtain ⟨draws, hdraws, heq⟩ := h
  exact ⟨draws, hdraws.trans hmn, heq⟩

theorem Reaches.trans (h : s.Reaches m s') (h' : s'.Reaches n s'') : s.Reaches (m + n) s'' := by
  obtain ⟨draws, hdraws, rfl⟩ := h
  obtain ⟨draws', hdraws', rfl⟩ := h'
  refine ⟨draws + draws', ?_, s.skip_skip draws draws'⟩
  omega

end RandomStream

namespace Search

/-! ## The size of the tree -/

/-- The number of paths other than the empty one, in a tree with as many branches on each level as
the sizes say: `n₁ + n₁ n₂ + ⋯ + n₁ n₂ ⋯ nₖ`. -/
def prefixCount (sizes : List Nat) : Nat :=
  ((List.range sizes.length).map fun k => (sizes.take (k + 1)).prod).sum

/-- Every choice on the first level is one beginning, and goes on as the other levels allow. -/
theorem prefixCount_cons (n : Nat) (sizes : List Nat) :
    prefixCount (n :: sizes) = n * (1 + prefixCount sizes) := by
  have htake : ∀ k, ((n :: sizes).take (k + 1 + 1)).prod = n * (sizes.take (k + 1)).prod :=
    fun k => by rw [List.take_succ_cons, List.prod_cons]
  have hsum :=
    List.sum_map_mul_left (List.range sizes.length) (fun k => (sizes.take (k + 1)).prod) n
  rw [prefixCount, List.length_cons, List.range_succ_eq_map, List.map_cons, List.map_map,
    List.sum_cons, Function.comp_def]
  simp only [Nat.succ_eq_add_one, htake, hsum]
  simp [prefixCount, Nat.mul_add]

/-- The branch that is drawn takes its share of the cost with it. -/
theorem length_mul_of_perm {branches rest : List Nat} {index cost : Nat}
    (h : branches.Perm (index :: rest)) :
    branches.length * (1 + cost) = 1 + cost + rest.length * (1 + cost) := by
  rw [h.length_eq, List.length_cons, Nat.succ_mul, Nat.add_comm]

/-! ## What is spent -/

/-- A search through some levels, which began with the tally `t`, has taken as many draws. It has
come back from all branches that it followed but for those on the way to the depth where it ends. -/
structure Spends (maxBacktracks levels : Nat) (t : Tally) (o : Outcome) (draws : Nat) : Prop where
  stream_eq : o.tally.stream = t.stream.skip draws
  /-- A tuple is found below all levels. -/
  found : ∀ tuple, o.ending = .found tuple →
    t.backtracks + draws = o.tally.backtracks + levels ∧ o.tally.backtracks ≤ maxBacktracks
  /-- An exhausted search has come back from every branch. -/
  exhausted : o.ending = .exhausted →
    t.backtracks + draws = o.tally.backtracks ∧ o.tally.backtracks ≤ maxBacktracks
  /-- The first step that is too many is the last, and it leads back to one of the levels. -/
  outOfBudget : o.ending = .outOfBudget → o.tally.backtracks = maxBacktracks + 1 ∧
    ∃ depth < levels, t.backtracks + draws = o.tally.backtracks + depth

variable {maxBacktracks levels draws : Nat} {t : Tally} {o : Outcome}

/-! ## One level -/

/-- What decides a search below a branch decides it above, one level higher and one draw later. -/
theorem Spends.of_branch (h : Spends maxBacktracks levels t.draw o draws)
    (hending : o.ending ≠ .exhausted) : Spends maxBacktracks (levels + 1) t o (1 + draws) := by
  refine ⟨?_, ?_, fun ho => absurd ho hending, ?_⟩
  · rw [h.stream_eq, Tally.draw, RandomStream.skip_skip]
  · intro tuple ho
    have hfound := h.found tuple ho
    rw [Tally.draw_backtracks] at hfound
    omega
  · intro ho
    obtain ⟨hspent, depth, hdepth, heq⟩ := h.outOfBudget ho
    rw [Tally.draw_backtracks] at heq
    exact ⟨hspent, depth + 1, by omega, by omega⟩

/-- Coming back from a branch that leads nowhere makes up for the draw that led to it. -/
theorem Spends.backtrack (h : Spends maxBacktracks levels t.draw o draws)
    (hending : o.ending = .exhausted) :
    o.tally.backtrack.stream = t.stream.skip (1 + draws) ∧
      t.backtracks + (1 + draws) = o.tally.backtrack.backtracks ∧
      o.tally.backtrack.backtracks ≤ maxBacktracks + 1 := by
  have hexhausted := h.exhausted hending
  rw [Tally.draw_backtracks] at hexhausted
  refine ⟨?_, ?_, ?_⟩
  · rw [← RandomStream.skip_skip]
    exact h.stream_eq
  · rw [Tally.backtrack_backtracks]
    omega
  · rw [Tally.backtrack_backtracks]
    omega

/-- If the search below each branch takes at most `cost` draws, then the level takes one more for
every branch. -/
theorem Tries.spends {cost : Nat} {inner : Nat → Tally → Outcome → Prop}
    (hinner : ∀ index t o, inner index t o → t.backtracks ≤ maxBacktracks →
      ∃ draws ≤ cost, Spends maxBacktracks levels t o draws)
    {branches : List Nat} (h : Tries maxBacktracks inner branches t o)
    (ht : t.backtracks ≤ maxBacktracks) :
    ∃ draws ≤ branches.length * (1 + cost), Spends maxBacktracks (levels + 1) t o draws := by
  -- Over the draws on one level; a branch that is explored costs its own draw and what is spent
  -- below.
  induction h with
  | nothing t =>
    refine ⟨0, Nat.zero_le _, t.stream.skip_zero.symm, ?_, fun _ => ⟨rfl, ht⟩, ?_⟩
    · intro tuple ho
      exact absurd ho (by simp)
    · intro ho
      exact absurd ho (by simp)
  | @decided branches rest index t o hperm hdone hending =>
    obtain ⟨draws, hdraws, hspends⟩ := hinner index t.draw o hdone ht
    refine ⟨1 + draws, ?_, hspends.of_branch hending⟩
    rw [length_mul_of_perm hperm]
    omega
  | @spent branches rest index t o hperm hdone hending hmax =>
    obtain ⟨draws, hdraws, hspends⟩ := hinner index t.draw o hdone ht
    obtain ⟨hstream, hcount, hle⟩ := hspends.backtrack hending
    refine ⟨1 + draws, ?_, hstream, ?_, ?_, ?_⟩
    · rw [length_mul_of_perm hperm]
      omega
    · intro tuple ho
      exact absurd ho (by simp)
    · intro ho
      exact absurd ho (by simp)
    · intro _
      -- The step back was one too many, so the budget is spent exactly.
      exact ⟨Nat.le_antisymm hle hmax, 0, Nat.succ_pos levels, hcount⟩
  | @next branches rest index t o o' hperm hdone hending hmax hrest ih =>
    obtain ⟨draws, hdraws, hspends⟩ := hinner index t.draw o hdone ht
    obtain ⟨hstream, hcount, -⟩ := hspends.backtrack hending
    obtain ⟨draws', hdraws', hspends'⟩ := ih hmax
    refine ⟨1 + draws + draws', ?_, ?_, ?_, ?_, ?_⟩
    · rw [length_mul_of_perm hperm]
      omega
    · rw [hspends'.stream_eq, hstream, RandomStream.skip_skip]
    · intro tuple ho
      have hfound := hspends'.found tuple ho
      omega
    · intro ho
      have hexhausted := hspends'.exhausted ho
      omega
    · intro ho
      obtain ⟨hspent, depth, hdepth, heq⟩ := hspends'.outOfBudget ho
      exact ⟨hspent, depth, hdepth, by omega⟩

/-! ## All levels -/

/-- A search takes at most one draw for each path that it may come to. -/
theorem Explores.spends {p : Problem} {sizes path : List Nat}
    (hsizes : ∀ rest n, sizes[rest.length]? = some n → (p.branches (path ++ rest)).length ≤ n)
    (h : Explores p maxBacktracks sizes.length path t o) (ht : t.backtracks ≤ maxBacktracks) :
    ∃ draws ≤ prefixCount sizes, Spends maxBacktracks sizes.length t o draws := by
  induction sizes generalizing path t o with
  | nil =>
    -- The only tuple is the path itself, and nothing is drawn to come to it.
    rw [List.length_nil, Explores, explore] at h
    refine ⟨0, Nat.zero_le _, ?_⟩
    cases hleaf : p.leaf path with
    | accepted =>
      simp only [hleaf] at h
      subst h
      exact ⟨t.stream.skip_zero.symm, fun _ _ => ⟨rfl, ht⟩, by simp, by simp⟩
    | rejected =>
      simp only [hleaf] at h
      subst h
      exact ⟨t.stream.skip_zero.symm, by simp, fun _ => ⟨rfl, ht⟩, by simp⟩
    | repeated =>
      simp only [hleaf] at h
      subst h
      exact ⟨t.stream.skip_zero.symm, by simp, fun _ => ⟨rfl, ht⟩, by simp⟩
  | cons n sizes ih =>
    -- Below each branch is a tree with the sizes of the levels that follow.
    have hinner : ∀ index t o, Explores p maxBacktracks sizes.length (path ++ [index]) t o →
        t.backtracks ≤ maxBacktracks →
        ∃ draws ≤ prefixCount sizes, Spends maxBacktracks sizes.length t o draws := by
      intro index t o hbelow
      refine ih (fun rest m hm => ?_) hbelow
      have hbound := hsizes (index :: rest) m (by simpa using hm)
      simpa using hbound
    have hlength : (p.branches path).length ≤ n := by simpa using hsizes [] n (by simp)
    obtain ⟨draws, hdraws, hspends⟩ := Tries.spends hinner h ht
    refine ⟨draws, hdraws.trans ?_, hspends⟩
    rw [prefixCount_cons]
    exact Nat.mul_le_mul_right _ hlength

/-! ## One search, and several -/

/-- One search of the whole space spends what its tally says. -/
theorem run_spends {p : Problem} {sizes : List Nat} (hlength : p.levels.length = sizes.length)
    (hsizes : ∀ path n, sizes[path.length]? = some n → (p.branches path).length ≤ n)
    (maxBacktracks : Nat) (stream : RandomStream) :
    ∃ draws ≤ prefixCount sizes,
      Spends maxBacktracks sizes.length { stream } (run p maxBacktracks stream) draws := by
  rw [run]
  split
  · exact ⟨0, Nat.zero_le _, rfl, by simp, fun _ => ⟨rfl, Nat.zero_le _⟩, by simp⟩
  · have hrun := explores_explore p maxBacktracks p.levels [] { stream }
    rw [hlength] at hrun
    exact hrun.spends (by simpa using hsizes) (Nat.zero_le _)

/-- However a search ends, its draws stay within its levels and its budget. -/
theorem Spends.draws_le {stream : RandomStream}
    (h : Spends maxBacktracks levels { stream } o draws) : draws ≤ levels + maxBacktracks := by
  -- The draws that were not taken back are at most one for every level.
  cases hending : o.ending with
  | found tuple =>
    have hfound := h.found tuple hending
    dsimp only at hfound
    omega
  | exhausted =>
    have hexhausted := h.exhausted hending
    dsimp only at hexhausted
    omega
  | outOfBudget =>
    obtain ⟨hspent, depth, hdepth, heq⟩ := h.outOfBudget hending
    dsimp only at heq
    omega

/-- A search whose budget has a step for each path comes to a decision. -/
theorem run_ne_outOfBudget {p : Problem} {sizes : List Nat}
    (hlength : p.levels.length = sizes.length)
    (hsizes : ∀ path n, sizes[path.length]? = some n → (p.branches path).length ≤ n)
    (hmax : prefixCount sizes ≤ maxBacktracks) (stream : RandomStream) :
    (run p maxBacktracks stream).ending ≠ .outOfBudget := by
  -- To be out of budget takes more backtrack steps than there are draws.
  intro hending
  obtain ⟨draws, hdraws, hspends⟩ := run_spends hlength hsizes maxBacktracks stream
  obtain ⟨hspent, depth, -, heq⟩ := hspends.outOfBudget hending
  dsimp only at heq
  omega

/-- Several searches draw as often as each of them may, at most. -/
theorem reaches_retry {p : Problem} {cost : Nat}
    (hrun : ∀ stream : RandomStream, stream.Reaches cost (run p maxBacktracks stream).tally.stream)
    (attempts : Nat) (stream : RandomStream) (sawRepeat : Bool) :
    stream.Reaches (attempts * cost)
      (retry p maxBacktracks attempts stream sawRepeat).tally.stream := by
  induction attempts generalizing stream sawRepeat with
  | zero =>
    rw [retry]
    exact .refl stream _
  | succ attempts ih =>
    have hfirst : cost ≤ (attempts + 1) * cost := Nat.le_mul_of_pos_left cost (Nat.succ_pos _)
    rw [retry]
    cases hending : (run p maxBacktracks stream).ending with
    | found tuple => exact (hrun stream).mono hfirst
    | exhausted => exact (hrun stream).mono hfirst
    | outOfBudget =>
      rw [Nat.succ_mul, Nat.add_comm]
      exact (hrun stream).trans (ih _ _)

end Search

end TestMatrix

import TestMatrix.Proofs.Plan.Forcing

/-!
# How far a plan moves its stream

The rows of a plan are drawn from one stream, so what one row costs decides where the next one
begins. A search for a row costs what `Search.Spends` says, with as many levels as the plan has axes
and as many branches as they have settings. Forcing a row and filling a plan make a bounded number
of searches, and `draws_exact` puts the bounds together. They need nothing of the plan, neither that
its records agree nor that it has any axes.
-/

namespace TestMatrix.Plan

variable {p : Plan} {s : Selector}

/-! ## One search -/

theorem length_sizes (p : Plan) : p.sizes.length = p.axes.length := List.length_map ..

/-- The levels of the search are the axes, and its branches are settings. -/
theorem run_spends (p : Plan) (s : Selector) (maxBacktracks : Nat) (stream : RandomStream) :
    ∃ draws ≤ Search.prefixCount p.sizes, Search.Spends maxBacktracks p.axes.length { stream }
      (Search.run (p.problem s) maxBacktracks stream) draws := by
  rw [← length_sizes]
  refine Search.run_spends ?_ ?_ maxBacktracks stream
  · rw [length_levels, length_sizes]
  · intro path n hn
    obtain ⟨a, ha, rfl⟩ : ∃ a, p.axes[path.length]? = some a ∧ a.settings.length = n := by
      simpa [sizes] using hn
    exact length_branches_le ha

/-! ## Several searches -/

/-- The most draws that one row costs. -/
def rowCost (p : Plan) : Nat :=
  max 1 p.budget.maxAttempts * (p.axes.length + p.budget.maxBacktracks)

/-- The searches for a row draw no more than its cost. -/
theorem reaches_search (p : Plan) (s : Selector) :
    p.stream.Reaches p.rowCost (p.search s).tally.stream := by
  have hrun : ∀ stream : RandomStream, stream.Reaches (p.axes.length + p.budget.maxBacktracks)
      (Search.run (p.problem s) p.budget.maxBacktracks stream).tally.stream := by
    intro stream
    obtain ⟨draws, -, hspends⟩ := p.run_spends s p.budget.maxBacktracks stream
    exact ⟨draws, hspends.draws_le, hspends.stream_eq⟩
  rw [search, rowCost, Nat.max_comm]
  exact Search.reaches_retry hrun _ p.stream false

/-- So forcing a row does not either. -/
theorem reaches_force (p : Plan) (s : Selector) :
    p.stream.Reaches p.rowCost (p.force s).1.stream := by
  have hforced := p.forced_force s
  generalize p.force s = outcome at hforced ⊢
  cases hforced with
  | refused hknown => exact .refl p.stream _
  | covered hknown hempty hcovered => exact .refl p.stream _
  | made hknown hneeded hending => exact p.reaches_search s
  | excused hknown hneeded hending hexcuse => exact p.reaches_search s
  | failed hknown hneeded hending hrepeat hstrict => exact p.reaches_search s

/-- A row that is entered leaves the axes and the budget as they are, so the next one costs no
more. -/
theorem reaches_fill (count : Nat) (p : Plan) :
    p.stream.Reaches (count * p.rowCost) (p.fill count).stream := by
  induction count generalizing p with
  | zero => exact .refl p.stream _
  | succ count ih =>
    rw [Nat.succ_mul, Nat.add_comm]
    rcases p.search_found_or_not {} with ⟨picks, hpicks⟩ | hnone
    · rw [fill_of_found count hpicks]
      exact (p.reaches_search {}).trans
        (ih { p.enter picks with stream := (p.search {}).tally.stream })
    · rw [fill_of_not_found count hnone]
      exact (p.reaches_search {}).mono (Nat.le_add_right _ _)

/-! ## All together -/

/-- A search ends, whatever its budget, and how it ends says how many draws it has taken. If it
finds a row, it has drawn once for each axis and once for each backtrack step; if it ends exhausted,
once for each backtrack step; and these steps are within the budget. If it runs out of budget, it
has taken one step too many, and its draws are more than the budget by at most the number of axes.
Its draws are never more than there are ways to pick settings for the first axes, for one axis or
more. Forcing a row and filling a plan therefore move the stream by a bounded number of draws. -/
theorem draws_exact (p : Plan) :
    (∀ (s : Selector) (maxBacktracks : Nat) (stream : RandomStream),
      let o := Search.run (p.problem s) maxBacktracks stream
      ∃ draws, o.tally.stream = stream.skip draws ∧ draws ≤ Search.prefixCount p.sizes ∧
        match o.ending with
        | .found _ => draws = p.axes.length + o.tally.backtracks ∧
            o.tally.backtracks ≤ maxBacktracks
        | .exhausted => draws = o.tally.backtracks ∧ o.tally.backtracks ≤ maxBacktracks
        | .outOfBudget => maxBacktracks + 1 ≤ draws ∧ draws ≤ p.axes.length + maxBacktracks) ∧
    (∀ s : Selector, ∃ draws ≤
        max 1 p.budget.maxAttempts * (p.axes.length + p.budget.maxBacktracks),
      (p.force s).1.stream = p.stream.skip draws) ∧
    ∀ count : Nat, ∃ draws ≤
        count * (max 1 p.budget.maxAttempts * (p.axes.length + p.budget.maxBacktracks)),
      (p.fill count).stream = p.stream.skip draws := by
  refine ⟨fun s maxBacktracks stream => ?_, p.reaches_force, fun count => p.reaches_fill count⟩
  obtain ⟨draws, hdraws, hspends⟩ := p.run_spends s maxBacktracks stream
  refine ⟨draws, hspends.stream_eq, hdraws, ?_⟩
  -- One draw for every step down: those that were taken back, and those that lead to the tuple.
  have hle := hspends.draws_le
  split
  · next picks hending =>
    have hfound := hspends.found picks hending
    dsimp only at hfound
    omega
  · next hending =>
    have hexhausted := hspends.exhausted hending
    dsimp only at hexhausted
    omega
  · next hending =>
    obtain ⟨hspent, depth, -, heq⟩ := hspends.outOfBudget hending
    dsimp only at heq
    omega

end TestMatrix.Plan

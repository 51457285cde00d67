import TestMatrix.Proofs.Plan.Forcing
import TestMatrix.Proofs.Search.Budget

/-!
# Plans with more budget

A larger budget does not reshuffle a matrix, unless the smaller one was hit. A search for a row that
comes to a decision does so in the same way whatever further backtrack steps or searches it might
have taken. So a row that is forced under some number of searches is forced under every larger
number, at the same cost, and a plan that can be filled under the one is filled with the same rows
under the other (`budget_only_cuts_off`).
-/

namespace TestMatrix.Plan

/-- The plan with another number of searches for one row. -/
def withAttempts (p : Plan) (attempts : Nat) : Plan := { p with budget.maxAttempts := attempts }

variable {p : Plan} {s : Selector} {attempts : Nat}

/-- Searches for a row that come to a decision do not see how many more might have been made. -/
theorem search_withAttempts (hle : p.budget.maxAttempts ≤ attempts)
    (h : (p.search s).ending ≠ .outOfBudget) :
    (p.withAttempts attempts).search s = p.search s := by
  have hmax : max p.budget.maxAttempts 1 ≤ max attempts 1 := by omega
  exact Search.retry_mono hmax h

/-- A row that is found is found by the same search if more attempts are allowed. -/
theorem search_withAttempts_of_found (hle : p.budget.maxAttempts ≤ attempts) {picks : List Nat}
    (h : (p.search s).ending = .found picks) : (p.withAttempts attempts).search s = p.search s :=
  search_withAttempts hle (by rw [h]; simp)

/-- A row that is forced is forced as well if more searches may be made. -/
theorem force_withAttempts (hle : p.budget.maxAttempts ≤ attempts) {r : Row}
    (h : (p.force s).2 = .ok (some r)) :
    (p.withAttempts attempts).force s = ((p.force s).1.withAttempts attempts, .ok (some r)) := by
  have hforced := p.forced_force s
  generalize p.force s = outcome at h hforced ⊢
  cases hforced with
  | refused hknown => exact absurd h (by simp)
  | covered hknown hempty hcovered => exact absurd h (by simp)
  | @made picks hknown hneeded hending =>
    obtain rfl : p.row picks = r := Option.some.inj (Except.ok.inj h)
    have hsearch := search_withAttempts_of_found hle hending
    have hforce := force_of_found (p := p.withAttempts attempts) hknown hneeded (hsearch ▸ hending)
    rw [hforce, hsearch]
    rfl
  | excused hknown hneeded hending hexcuse => exact absurd h (by simp)
  | failed hknown hneeded hending hrepeat hstrict => exact absurd h (by simp)

/-- A plan that can be filled is filled with the same rows if more searches may be made. -/
theorem fill_withAttempts {count : Nat} {p : Plan} (hle : p.budget.maxAttempts ≤ attempts)
    (h : (p.fill count).entries.length = p.entries.length + count) :
    (p.withAttempts attempts).fill count = (p.fill count).withAttempts attempts := by
  induction count generalizing p with
  | zero => rfl
  | succ count ih =>
    rcases p.search_found_or_not {} with ⟨picks, hpicks⟩ | hnone
    · have hsearch := search_withAttempts_of_found hle hpicks
      rw [fill_of_found count hpicks] at h ⊢
      rw [fill_of_found count (hsearch ▸ hpicks), hsearch]
      have hentries : (p.enter picks).entries.length = p.entries.length + 1 := by simp [enter]
      refine ih (p := { p.enter picks with stream := (p.search {}).tally.stream }) hle ?_
      rw [h, hentries, Nat.add_assoc, Nat.add_comm 1 count]
    · -- A search that finds nothing would be the end of the rows.
      rw [fill_of_not_found count hnone] at h
      dsimp only at h
      omega

/-- The budget is only a cut-off. A search that ends within some number of backtrack steps, with a
row or exhausted, is the same under every larger number, down to the place where it leaves the
stream. If a row can be forced, or a plan filled with as many rows as asked for, then more searches
for each row change nothing: the plan comes to the same rows, and its stream to the same place. -/
theorem budget_only_cuts_off (p : Plan) :
    (∀ (s : Selector) (stream : RandomStream) (maxBacktracks maxBacktracks' : Nat),
      maxBacktracks ≤ maxBacktracks' →
      (Search.run (p.problem s) maxBacktracks stream).ending ≠ .outOfBudget →
      Search.run (p.problem s) maxBacktracks' stream =
        Search.run (p.problem s) maxBacktracks stream) ∧
    ∀ attempts, p.budget.maxAttempts ≤ attempts →
      (∀ s r, (p.force s).2 = .ok (some r) →
        (p.withAttempts attempts).force s = ((p.force s).1.withAttempts attempts, .ok (some r))) ∧
      ∀ count, (p.fill count).rows.length = p.rows.length + count →
        (p.withAttempts attempts).fill count = (p.fill count).withAttempts attempts := by
  refine ⟨fun s stream maxBacktracks maxBacktracks' hmax h => Search.run_mono hmax h,
    fun attempts hle => ⟨fun s r h => force_withAttempts hle h, fun count h => ?_⟩⟩
  refine fill_withAttempts hle ?_
  rwa [rows, rows, List.length_map, List.length_map] at h

/-- The first search for a row that is left in the small plan takes two backtrack steps. If it may
take none, then the second search finds that row, or for a selector the third. -/
theorem budget_only_cuts_off_encryption :
    let p := encryption.act (.setBudget ⟨3, 0⟩)
    let s := Selector.having {} "gss" "off"
    (Search.run (p.problem {}) 1 p.stream).ending = .outOfBudget ∧
    (Search.run (p.problem {}) 2 p.stream).ending = .found [0, 1] ∧
    Search.run (p.problem {}) 4096 p.stream = Search.run (p.problem {}) 2 p.stream ∧
    ((p.withAttempts 1).fill 1).rows.length = 2 ∧
    (p.fill 1).rows.length = 3 ∧
    (p.withAttempts 32).fill 1 = (p.fill 1).withAttempts 32 ∧
    (p.force s).2 = .ok (some (p.row [0, 1])) ∧
    (p.withAttempts 32).force s = ((p.force s).1.withAttempts 32, .ok (some (p.row [0, 1]))) := by
  intro p s
  have hspent : (Search.run (p.problem {}) 1 p.stream).ending = .outOfBudget := by decide +kernel
  have hfound : (Search.run (p.problem {}) 2 p.stream).ending = .found [0, 1] := by decide +kernel
  have hdecided : (Search.run (p.problem {}) 2 p.stream).ending ≠ .outOfBudget := by simp [hfound]
  have hnone : ((p.withAttempts 1).fill 1).rows.length = 2 := by decide +kernel
  have hrow : (p.fill 1).rows.length = 3 := by decide +kernel
  have hcount : (p.fill 1).rows.length = p.rows.length + 1 := by decide +kernel
  have hforce : (p.force s).2 = .ok (some (p.row [0, 1])) := by
    have hknown : p.Knows s := by decide +kernel
    have hneeded : p.isCovered s = false := by decide +kernel
    have hending : (p.search s).ending = .found [0, 1] := by decide +kernel
    rw [force_of_found hknown (.inr hneeded) hending]
  obtain ⟨hrun, hmore⟩ := budget_only_cuts_off p
  obtain ⟨hforced, hfilled⟩ := hmore 32 (by decide)
  exact ⟨hspent, hfound, hrun {} p.stream 2 4096 (by decide) hdecided, hnone, hrow,
    hfilled 1 hcount, hforce, hforced s _ hforce⟩

end TestMatrix.Plan

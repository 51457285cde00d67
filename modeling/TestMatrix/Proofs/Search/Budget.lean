import TestMatrix.Proofs.Search.Choice

/-!
# Searches with more budget

Nothing that a search draws depends on its budget, which is only looked at when a backtrack step has
been taken. So two searches that start alike go on alike up to the step that the smaller budget does
not allow. A search that ends otherwise is the same search under every larger budget: it ends alike,
with the same tally and at the same place of the stream (`run_mono`). In the same way, leave for
further searches changes nothing if one of those before has come to a decision (`retry_mono`).
-/

namespace TestMatrix.Search

variable {p : Problem} {maxBacktracks maxBacktracks' : Nat}

/-- A level that is decided within the budget is decided in the same way within a larger one, if
that is so below each of its branches. -/
theorem tryBranches_mono (hmax : maxBacktracks ≤ maxBacktracks') {weight : Nat → Float}
    {inner inner' : Nat → Tally → Outcome}
    (hinner : ∀ index t, (inner index t).ending ≠ .outOfBudget → inner' index t = inner index t)
    {branches : List Nat} {t : Tally}
    (h : (tryBranches maxBacktracks weight inner branches t).ending ≠ .outOfBudget) :
    tryBranches maxBacktracks' weight inner' branches t =
      tryBranches maxBacktracks weight inner branches t := by
  fun_induction tryBranches maxBacktracks weight inner branches t with
  | case1 t => rw [tryBranches]
  | case2 t c cs slot slot_lt outcome hending t' hspent => exact absurd rfl h
  | case3 t c cs slot slot_lt outcome hending t' hleft ih =>
    -- The branch leads nowhere, which is a decision, and both budgets allow the step back from it.
    have hsame : inner' (c :: cs)[slot] t.draw = outcome := by
      refine hinner _ t.draw fun hspent => ?_
      rw [hending] at hspent
      exact absurd hspent (by simp)
    have hleft' : ¬maxBacktracks' < t'.backtracks := fun hspent =>
      hleft (Nat.lt_of_le_of_lt hmax hspent)
    rw [tryBranches, hsame, hending]
    exact (if_neg hleft').trans (ih h)
  | case4 t c cs slot slot_lt outcome hending =>
    have hsame : inner' (c :: cs)[slot] t.draw = outcome := hinner _ t.draw h
    rw [tryBranches, hsame]
    cases hcase : outcome.ending with
    | exhausted => exact absurd hcase hending
    | found tuple => rfl
    | outOfBudget => rfl

/-- A search below a path that ends within its budget goes the same way under any larger one. -/
theorem explore_mono (hmax : maxBacktracks ≤ maxBacktracks') {levels : List (Nat → Float)}
    {path : List Nat} {t : Tally}
    (h : (explore p maxBacktracks levels path t).ending ≠ .outOfBudget) :
    explore p maxBacktracks' levels path t = explore p maxBacktracks levels path t := by
  -- Down the levels: a branch that was explored within the smaller budget comes out the same.
  induction levels generalizing path t with
  | nil => rw [explore, explore]
  | cons weight below ih =>
    rw [explore] at h
    rw [explore, explore]
    exact tryBranches_mono hmax (fun _ _ hbelow => ih hbelow) h

/-- A search that comes to a decision is the same under every larger budget. -/
theorem run_mono (hmax : maxBacktracks ≤ maxBacktracks') {stream : RandomStream}
    (h : (run p maxBacktracks stream).ending ≠ .outOfBudget) :
    run p maxBacktracks' stream = run p maxBacktracks stream := by
  rw [run] at h
  rw [run, run]
  split
  · rfl
  · next hlevels =>
    rw [if_neg hlevels] at h
    exact explore_mono hmax h

/-- Searches of which one comes to a decision are the same if more of them may be made. -/
theorem retry_mono {attempts attempts' : Nat} (hle : attempts ≤ attempts') {stream : RandomStream}
    {sawRepeat : Bool}
    (h : (retry p maxBacktracks attempts stream sawRepeat).ending ≠ .outOfBudget) :
    retry p maxBacktracks attempts' stream sawRepeat =
      retry p maxBacktracks attempts stream sawRepeat := by
  induction attempts generalizing attempts' stream sawRepeat with
  | zero => exact absurd rfl h
  | succ attempts ih =>
    obtain ⟨more, rfl⟩ := Nat.exists_eq_add_of_le' hle
    rw [retry] at h
    rw [← Nat.add_assoc, retry, retry]
    cases hrun : (run p maxBacktracks stream).ending with
    | found tuple => rfl
    | exhausted => rfl
    | outOfBudget =>
      simp only [hrun] at h ⊢
      exact ih (Nat.le_add_left attempts more) h

end TestMatrix.Search

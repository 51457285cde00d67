import TestMatrix.Proofs.Search.Coverage

/-!
# Searches of the same tree

A search asks for the branches of paths that branches lead to, and for the leaves of complete
tuples, and for nothing else. Two problems that answer these questions alike have the same tree
(`Problem.SameTree`), even if they differ elsewhere. Then the same draws are made among the same
branches all the way, so that the searches end alike, with the same tally and at the same place of
the stream (`run_congr`, `retry_congr`).
-/

namespace TestMatrix.Search

variable {p q : Problem} {maxBacktracks : Nat}

/-! ## The same tree -/

/-- A path that branches lead to goes on with one of its own branches. -/
theorem Leads.concat {branches : List Nat → List Nat} {path rest : List Nat} {index : Nat}
    (h : Leads branches path rest) (hindex : index ∈ branches (path ++ rest)) :
    Leads branches path (rest ++ [index]) := by
  induction h with
  | nil path =>
    rw [List.append_nil] at hindex
    exact .cons hindex (.nil _)
  | @cons path rest first hfirst hrest ih =>
    refine .cons hfirst (ih ?_)
    rwa [List.append_assoc, List.singleton_append]

/-- The two problems have the same levels, the same branches of all paths that branches lead to, and
the same leaves at the ends of these paths. -/
structure Problem.SameTree (p q : Problem) : Prop where
  levels_eq : q.levels = p.levels
  branches_eq : ∀ path, Leads p.branches [] path → q.branches path = p.branches path
  leaf_eq : ∀ tuple, p.IsTuple tuple → q.leaf tuple = p.leaf tuple

/-! ## The same search -/

/-- Only what the branches lead to counts for a level. -/
theorem tryBranches_congr {weight : Nat → Float} {inner inner' : Nat → Tally → Outcome}
    {branches : List Nat} (h : ∀ index ∈ branches, ∀ t, inner' index t = inner index t)
    (t : Tally) :
    tryBranches maxBacktracks weight inner' branches t =
      tryBranches maxBacktracks weight inner branches t := by
  fun_induction tryBranches maxBacktracks weight inner branches t with
  | case1 t => rw [tryBranches]
  | case2 t c cs slot slot_lt outcome hending t' hmax =>
    have hsame : inner' (c :: cs)[slot] t.draw = outcome := h _ (List.getElem_mem slot_lt) t.draw
    rw [tryBranches, hsame, hending]
    exact if_pos hmax
  | case3 t c cs slot slot_lt outcome hending t' hmax ih =>
    have hsame : inner' (c :: cs)[slot] t.draw = outcome := h _ (List.getElem_mem slot_lt) t.draw
    rw [tryBranches, hsame, hending]
    refine (if_neg hmax).trans (ih fun index hindex => ?_)
    exact h index (List.mem_of_mem_eraseIdx hindex)
  | case4 t c cs slot slot_lt outcome hending =>
    have hsame : inner' (c :: cs)[slot] t.draw = outcome := h _ (List.getElem_mem slot_lt) t.draw
    rw [tryBranches, hsame]
    cases hcase : outcome.ending with
    | exhausted => exact absurd hcase hending
    | found tuple => rfl
    | outOfBudget => rfl

/-- Below a path that the first search may take, both searches do the same. -/
theorem explore_congr (h : p.SameTree q) {levels : List (Nat → Float)} {path : List Nat}
    (hpath : Leads p.branches [] path) (hlength : path.length + levels.length = p.levels.length)
    (t : Tally) :
    explore q maxBacktracks levels path t = explore p maxBacktracks levels path t := by
  induction levels generalizing path t with
  | nil =>
    rw [explore, explore, h.leaf_eq path ⟨hpath, hlength⟩]
  | cons weight below ih =>
    rw [explore, explore, h.branches_eq path hpath]
    -- The path goes on along a branch, so it is still one where the spaces agree.
    refine tryBranches_congr (fun index hindex t => ?_) t
    refine ih (hpath.concat hindex) ?_ t
    rw [List.length_append, List.length_singleton, ← hlength, List.length_cons]
    omega

/-- So they do from the start. -/
theorem run_congr (h : p.SameTree q) (maxBacktracks : Nat) (stream : RandomStream) :
    run q maxBacktracks stream = run p maxBacktracks stream := by
  rw [run, run, h.levels_eq, explore_congr h (.nil []) (Nat.zero_add _)]

/-- Nor do they part ways when they are started again. -/
theorem retry_congr (h : p.SameTree q) (maxBacktracks attempts : Nat) (stream : RandomStream)
    (sawRepeat : Bool) :
    retry q maxBacktracks attempts stream sawRepeat =
      retry p maxBacktracks attempts stream sawRepeat := by
  induction attempts generalizing stream sawRepeat with
  | zero => rw [retry, retry]
  | succ attempts ih => simp only [retry, run_congr h, ih]

end TestMatrix.Search

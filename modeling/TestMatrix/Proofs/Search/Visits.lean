import TestMatrix.Proofs.Search.Coverage

/-!
# The tuples that a search comes to

`visited` lists the complete tuples that a search comes to before it ends, in the order in which it
does, and `starts` lists where in the stream each of several searches begins. They hold a search to
what it says of itself: it has seen a repeated tuple exactly if it came to one (`sawRepeat_run`),
whether or not it ended within its budget.
-/

namespace TestMatrix.Search

/-- The tuples below the branches of one level, given those below each branch. The branches are
drawn as `tryBranches` draws them, and up to the same end. -/
def visitedBelow (maxBacktracks : Nat) (weight : Nat → Float) (inner : Nat → Tally → Outcome)
    (visited : Nat → Tally → List (List Nat)) (branches : List Nat) (t : Tally) :
    List (List Nat) :=
  match branches with
  | [] => []
  | c :: cs =>
    let slot := t.slot weight (c :: cs)
    have slot_lt : slot < (c :: cs).length := t.slot_lt weight c cs
    let index := (c :: cs)[slot]
    let outcome := inner index t.draw
    let t' := outcome.tally.backtrack
    visited index t.draw ++
      if outcome.ending = .exhausted ∧ t'.backtracks ≤ maxBacktracks then
        visitedBelow maxBacktracks weight inner visited ((c :: cs).eraseIdx slot) t'
      else []
termination_by branches.length
decreasing_by exact t.length_eraseIdx_slot weight c cs

/-- The tuples that begin with `path` and that `explore` comes to. -/
def visitedFrom (p : Problem) (maxBacktracks : Nat) :
    List (Nat → Float) → List Nat → Tally → List (List Nat)
  | [], path, _ => [path]
  | weight :: below, path, t =>
    visitedBelow maxBacktracks weight
      (fun index t => explore p maxBacktracks below (path ++ [index]) t)
      (fun index t => visitedFrom p maxBacktracks below (path ++ [index]) t) (p.branches path) t

/-- The tuples that one search of the whole space comes to. -/
def visited (p : Problem) (maxBacktracks : Nat) (stream : RandomStream) : List (List Nat) :=
  if p.levels.isEmpty then [] else visitedFrom p maxBacktracks p.levels [] { stream }

/-- Where the searches begin of which `retry` makes at most `attempts`. -/
def starts (p : Problem) (maxBacktracks : Nat) : Nat → RandomStream → List RandomStream
  | 0, _ => []
  | attempts + 1, stream =>
    let outcome := run p maxBacktracks stream
    stream :: match outcome.ending with
      | .outOfBudget => starts p maxBacktracks attempts outcome.tally.stream
      | _ => []

/-- Whether one of the tuples has been found before. -/
def Problem.hasRepeat (p : Problem) (tuples : List (List Nat)) : Bool :=
  tuples.any (p.leaf · == .repeated)

/-- There is a repeat among tuples if one of them is one. -/
theorem Problem.hasRepeat_eq_true_iff {p : Problem} {tuples : List (List Nat)} :
    p.hasRepeat tuples = true ↔ ∃ tuple ∈ tuples, p.leaf tuple = .repeated := by
  simp [hasRepeat]

variable {p : Problem} {maxBacktracks : Nat}

theorem Problem.hasRepeat_nil (p : Problem) : p.hasRepeat [] = false := rfl

theorem Problem.hasRepeat_append (p : Problem) (tuples tuples' : List (List Nat)) :
    p.hasRepeat (tuples ++ tuples') = (p.hasRepeat tuples || p.hasRepeat tuples') :=
  List.any_append

/-! ## Where they are -/

/-- What is visited from one level on is visited below one of its branches. -/
theorem mem_visitedBelow {weight : Nat → Float} {inner : Nat → Tally → Outcome}
    {visited : Nat → Tally → List (List Nat)} {branches tuple : List Nat} {t : Tally}
    (h : tuple ∈ visitedBelow maxBacktracks weight inner visited branches t) :
    ∃ index ∈ branches, ∃ t, tuple ∈ visited index t := by
  fun_induction visitedBelow maxBacktracks weight inner visited branches t with
  | case1 t => exact absurd h List.not_mem_nil
  | case2 t c cs slot slot_lt index outcome t' ih =>
    rw [List.mem_append] at h
    rcases h with h | h
    · exact ⟨index, List.getElem_mem slot_lt, t.draw, h⟩
    · split at h
      · obtain ⟨index', hindex', hbelow⟩ := ih h
        exact ⟨index', List.mem_of_mem_eraseIdx hindex', hbelow⟩
      · exact absurd h List.not_mem_nil

/-- The branches lead to what is visited. -/
theorem leads_of_mem_visitedFrom {levels : List (Nat → Float)} {path tuple : List Nat} {t : Tally}
    (h : tuple ∈ visitedFrom p maxBacktracks levels path t) :
    ∃ rest, Leads p.branches path rest ∧ rest.length = levels.length ∧ tuple = path ++ rest := by
  induction levels generalizing path t with
  | nil =>
    rw [visitedFrom, List.mem_singleton] at h
    exact ⟨[], .nil path, rfl, by rw [h, List.append_nil]⟩
  | cons weight below ih =>
    rw [visitedFrom] at h
    obtain ⟨index, hindex, t', hbelow⟩ := mem_visitedBelow h
    obtain ⟨rest, hlead, hlength, rfl⟩ := ih hbelow
    exact ⟨index :: rest, .cons hindex hlead, by rw [List.length_cons, hlength, List.length_cons],
      by rw [List.append_assoc, List.singleton_append]⟩

/-- Only tuples of the space are visited. -/
theorem isTuple_of_mem_visited {stream : RandomStream} {tuple : List Nat}
    (h : tuple ∈ visited p maxBacktracks stream) : p.IsTuple tuple := by
  rw [visited] at h
  split at h
  · exact absurd h List.not_mem_nil
  · obtain ⟨rest, hlead, hlength, rfl⟩ := leads_of_mem_visitedFrom h
    exact ⟨hlead, hlength⟩

/-- What a level finds is visited, if it is found below a branch where it is visited. -/
theorem mem_visitedBelow_of_found {weight : Nat → Float} {inner : Nat → Tally → Outcome}
    {visited : Nat → Tally → List (List Nat)} {tuple : List Nat}
    (hinner : ∀ index t, (inner index t).ending = .found tuple → tuple ∈ visited index t)
    {branches : List Nat} {t : Tally}
    (h : (tryBranches maxBacktracks weight inner branches t).ending = .found tuple) :
    tuple ∈ visitedBelow maxBacktracks weight inner visited branches t := by
  -- Only two of the four cases end with a tuple: this branch has it, or a later one.
  fun_induction tryBranches maxBacktracks weight inner branches t with
  | case1 t => exact absurd h (by simp)
  | case2 t c cs slot slot_lt outcome hending t' hmax => exact absurd h (by simp)
  | case3 t c cs slot slot_lt outcome hending t' hmax ih =>
    have hnext : outcome.ending = .exhausted ∧ t'.backtracks ≤ maxBacktracks :=
      ⟨hending, Nat.le_of_not_lt hmax⟩
    rw [visitedBelow, if_pos hnext]
    exact List.mem_append_right _ (ih h)
  | case4 t c cs slot slot_lt outcome hending =>
    rw [visitedBelow]
    exact List.mem_append_left _ (hinner _ t.draw h)

/-- A tuple that is found below a path was visited there. -/
theorem mem_visitedFrom_of_found {levels : List (Nat → Float)} {path tuple : List Nat} {t : Tally}
    (h : (explore p maxBacktracks levels path t).ending = .found tuple) :
    tuple ∈ visitedFrom p maxBacktracks levels path t := by
  induction levels generalizing path t with
  | nil =>
    rw [explore] at h
    split at h
    · rw [visitedFrom, Ending.found.inj h]
      exact List.mem_singleton_self tuple
    · exact absurd h (by simp)
  | cons weight below ih =>
    rw [explore] at h
    rw [visitedFrom]
    exact mem_visitedBelow_of_found (fun index t hbelow => ih hbelow) h

/-- A search comes to what it finds. -/
theorem mem_visited_of_found {stream : RandomStream} {tuple : List Nat}
    (h : (run p maxBacktracks stream).ending = .found tuple) :
    tuple ∈ visited p maxBacktracks stream := by
  rw [run] at h
  rw [visited]
  split at h
  · exact absurd h (by simp)
  · next hlevels =>
    rw [if_neg hlevels]
    exact mem_visitedFrom_of_found h

/-! ## What a search has seen -/

/-- Branches note a repeat exactly if one of the tuples visited below them is one. -/
theorem sawRepeat_tryBranches {weight : Nat → Float} {inner : Nat → Tally → Outcome}
    {visited : Nat → Tally → List (List Nat)} (hinner : ∀ index t,
      (inner index t).tally.sawRepeat = (t.sawRepeat || p.hasRepeat (visited index t)))
    (branches : List Nat) (t : Tally) :
    (tryBranches maxBacktracks weight inner branches t).tally.sawRepeat =
      (t.sawRepeat ||
        p.hasRepeat (visitedBelow maxBacktracks weight inner visited branches t)) := by
  -- The cases are those of the loop: no branch left, the budget spent, a further branch, and an
  -- end.
  fun_induction tryBranches maxBacktracks weight inner branches t with
  | case1 t => rw [visitedBelow, Problem.hasRepeat_nil, Bool.or_false]
  | case2 t c cs slot slot_lt outcome hending t' hmax =>
    have hstop : ¬(outcome.ending = .exhausted ∧ t'.backtracks ≤ maxBacktracks) := by omega
    rw [visitedBelow, if_neg hstop, List.append_nil]
    exact hinner _ t.draw
  | case3 t c cs slot slot_lt outcome hending t' hmax ih =>
    have hnext : outcome.ending = .exhausted ∧ t'.backtracks ≤ maxBacktracks :=
      ⟨hending, Nat.le_of_not_lt hmax⟩
    have hhere : t'.sawRepeat = (t.sawRepeat || p.hasRepeat (visited _ t.draw)) := hinner _ t.draw
    rw [visitedBelow, if_pos hnext, Problem.hasRepeat_append, ← Bool.or_assoc, ← hhere]
    exact ih
  | case4 t c cs slot slot_lt outcome hending =>
    have hstop : ¬(outcome.ending = .exhausted ∧
        outcome.tally.backtrack.backtracks ≤ maxBacktracks) := fun h => hending h.1
    rw [visitedBelow, if_neg hstop, List.append_nil]
    exact hinner _ t.draw

/-- So does the search below a path. -/
theorem sawRepeat_explore (levels : List (Nat → Float)) (path : List Nat) (t : Tally) :
    (explore p maxBacktracks levels path t).tally.sawRepeat =
      (t.sawRepeat || p.hasRepeat (visitedFrom p maxBacktracks levels path t)) := by
  induction levels generalizing path t with
  | nil =>
    rw [explore, visitedFrom]
    cases hleaf : p.leaf path <;> simp [Problem.hasRepeat, hleaf, Tally.note]
  | cons weight below ih =>
    rw [explore, visitedFrom]
    exact sawRepeat_tryBranches (fun index t => ih (path ++ [index]) t) (p.branches path) t

/-- A search has seen a repeated tuple if it came to one. -/
theorem sawRepeat_run (stream : RandomStream) :
    (run p maxBacktracks stream).tally.sawRepeat =
      p.hasRepeat (visited p maxBacktracks stream) := by
  rw [run, visited]
  split
  · rfl
  · rw [sawRepeat_explore, Bool.false_or]

/-! ## Several searches -/

/-- Several searches have seen what one of them has. -/
theorem sawRepeat_retry (attempts : Nat) (stream : RandomStream) (sawRepeat : Bool) :
    (retry p maxBacktracks attempts stream sawRepeat).tally.sawRepeat = (sawRepeat ||
      (starts p maxBacktracks attempts stream).any
        fun start => p.hasRepeat (visited p maxBacktracks start)) := by
  induction attempts generalizing stream sawRepeat with
  | zero => simp [retry, starts]
  | succ attempts ih =>
    rw [retry, starts, List.any_cons, ← sawRepeat_run, ← Bool.or_assoc]
    cases hrun : (run p maxBacktracks stream).ending with
    | found tuple => simp
    | exhausted => simp
    | outOfBudget => simp only [ih]

/-- Several searches end as the last of them does. -/
theorem exists_last_start {attempts : Nat} (hattempts : 0 < attempts) (stream : RandomStream)
    (sawRepeat : Bool) : ∃ last, (starts p maxBacktracks attempts stream).getLast? = some last ∧
      (retry p maxBacktracks attempts stream sawRepeat).ending =
        (run p maxBacktracks last).ending := by
  induction attempts generalizing stream sawRepeat with
  | zero => exact absurd hattempts (Nat.lt_irrefl 0)
  | succ attempts ih =>
    rw [retry, starts]
    cases hrun : (run p maxBacktracks stream).ending with
    | found tuple => exact ⟨stream, rfl, by simp [hrun]⟩
    | exhausted => exact ⟨stream, rfl, by simp [hrun]⟩
    | outOfBudget =>
      simp only
      -- This search is the last one only if no further one may be made.
      rcases Nat.eq_zero_or_pos attempts with rfl | hpos
      · exact ⟨stream, rfl, by simp [retry, hrun]⟩
      · obtain ⟨last, hlast, hend⟩ := ih hpos _ _
        exact ⟨last, by rw [List.getLast?_cons, hlast]; rfl, hend⟩

/-- Several searches end exhausted if one of them does. -/
theorem retry_exhausted {attempts : Nat} {stream : RandomStream} {sawRepeat : Bool}
    (h : (retry p maxBacktracks attempts stream sawRepeat).ending = .exhausted) :
    ∃ start ∈ starts p maxBacktracks attempts stream,
      (run p maxBacktracks start).ending = .exhausted := by
  have hattempts : 0 < attempts := by
    rw [Nat.pos_iff_ne_zero]
    rintro rfl
    exact absurd h (by simp [retry])
  -- The searches before the last one were out of budget, so it is the last one that ended so.
  obtain ⟨last, hlast, hend⟩ := exists_last_start hattempts stream sawRepeat
  exact ⟨last, List.mem_of_getLast? hlast, hend.symm.trans h⟩

/-- Several searches run out of budget if all that may be made do. -/
theorem retry_outOfBudget {attempts : Nat} {stream : RandomStream} {sawRepeat : Bool}
    (h : (retry p maxBacktracks attempts stream sawRepeat).ending = .outOfBudget) :
    (starts p maxBacktracks attempts stream).length = attempts ∧
      ∀ start ∈ starts p maxBacktracks attempts stream,
        (run p maxBacktracks start).ending = .outOfBudget := by
  induction attempts generalizing stream sawRepeat with
  | zero => exact ⟨rfl, fun start hstart => absurd hstart List.not_mem_nil⟩
  | succ attempts ih =>
    rw [retry] at h
    rw [starts, List.length_cons, List.forall_mem_cons]
    cases hrun : (run p maxBacktracks stream).ending with
    | found tuple => simp [hrun] at h
    | exhausted => simp [hrun] at h
    | outOfBudget =>
      simp only [hrun] at h
      obtain ⟨hlength, hall⟩ := ih h
      exact ⟨congrArg (· + 1) hlength, rfl, hall⟩

end TestMatrix.Search

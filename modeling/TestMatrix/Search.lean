import TestMatrix.Random.Stream

/-!
# Randomised depth-first search

The search builds a tuple of indices level by level. On every level it draws one of the branches
that are left, by weight, and goes on below; when that leads nowhere it takes a backtrack step and
draws again among the others. It ends with a tuple (`Ending.found`), with the certainty that there
is none (`Ending.exhausted`), or when it has taken more backtrack steps than it may
(`Ending.outOfBudget`).

`explore` recurses on the levels that are left, and `tryBranches` on the branches that are left on
one level, so the search ends even without a bound on its backtrack steps.

## The loop and the recursion

This is the matrix builder's `search`, which is a loop there and a recursion here. The loop keeps a
stack, `frontier`, with the branches that are left on every level it has entered, and an array,
`picks`, with a place for every level, which is open where nothing is drawn. Neither of them is
left:

* The top of the stack is the list that the running `tryBranches` still has. The lists beneath it
  belong to the calls that wait for this one to return.
* The array without its open places is the `path` that is handed down. The loop writes over a place
  when it draws again and clears it when it goes back up; here the path above is simply extended
  anew.
* To push the candidates of the next level is to call `explore` for that level.
* To find the top of the stack empty and pop it is to return `Ending.exhausted`. The loop counts a
  backtrack step then, unless the stack is empty and the search at an end; here the level above
  counts it when the call returns, and the first level has none above it.
* A complete tuple that is turned down costs the loop a backtrack step too. For the last level that
  is one more call that leads nowhere, so there is one place for both counts.

`retry` is the loop over attempts that `generate_row` and `generate_rows` share.
-/

namespace TestMatrix.Search

/-- What is found out about a complete tuple. -/
inductive Leaf where
  /-- The tuple is what was searched for. -/
  | accepted
  /-- The tuple is not valid. -/
  | rejected
  /-- The tuple is valid, but has been found before. -/
  | repeated
deriving DecidableEq, Repr, Inhabited

/-- A space of tuples to search. -/
structure Problem where
  /-- The weight of every index, level by level. -/
  levels : List (Nat → Float)
  /-- The indices that may follow the beginning of a tuple. -/
  branches : List Nat → List Nat
  /-- What is to be said of a complete tuple. -/
  leaf : List Nat → Leaf

/-- What a search has used and seen. -/
structure Tally where
  /-- The stream that choices are drawn from. -/
  stream : RandomStream
  /-- The backtrack steps taken. -/
  backtracks : Nat := 0
  /-- Whether a repeated tuple was met. -/
  sawRepeat : Bool := false
deriving DecidableEq, Repr, Inhabited

/-- How a search ends. -/
inductive Ending where
  /-- With an accepted tuple. -/
  | found (tuple : List Nat)
  /-- With everything tried. -/
  | exhausted
  /-- With too many backtrack steps. -/
  | outOfBudget
deriving DecidableEq, Repr, Inhabited

/-- The end of a search. -/
structure Outcome where
  /-- How the search ended. -/
  ending : Ending
  /-- What it has used and seen. -/
  tally : Tally
deriving DecidableEq, Repr, Inhabited

/-- Counts a draw. -/
def Tally.draw (t : Tally) : Tally := { t with stream := t.stream.skip 1 }

/-- Counts a backtrack step. -/
def Tally.backtrack (t : Tally) : Tally := { t with backtracks := t.backtracks + 1 }

/-- Notes what was found out about a complete tuple. -/
def Tally.note (t : Tally) (leaf : Leaf) : Tally :=
  { t with sawRepeat := t.sawRepeat || leaf == .repeated }

@[simp] theorem Tally.draw_backtracks (t : Tally) : t.draw.backtracks = t.backtracks := rfl

@[simp] theorem Tally.draw_sawRepeat (t : Tally) : t.draw.sawRepeat = t.sawRepeat := rfl

@[simp] theorem Tally.backtrack_backtracks (t : Tally) :
    t.backtrack.backtracks = t.backtracks + 1 := rfl

@[simp] theorem Tally.backtrack_sawRepeat (t : Tally) : t.backtrack.sawRepeat = t.sawRepeat := rfl

/-- The position of the branch that is drawn next. -/
def Tally.slot (t : Tally) (weight : Nat → Float) (branches : List Nat) : Nat :=
  TestMatrix.slot t.stream.value (branches.map weight)

theorem Tally.slot_lt (t : Tally) (weight : Nat → Float) (c : Nat) (cs : List Nat) :
    t.slot weight (c :: cs) < (c :: cs).length := by
  have h := TestMatrix.slot_lt t.stream.value ((c :: cs).map weight) (by simp)
  rwa [List.length_map] at h

/-- Taking the drawn branch away leaves fewer. -/
theorem Tally.length_eraseIdx_slot (t : Tally) (weight : Nat → Float) (c : Nat) (cs : List Nat) :
    ((c :: cs).eraseIdx (t.slot weight (c :: cs))).length < (c :: cs).length := by
  rw [List.length_eraseIdx_of_lt (t.slot_lt weight c cs)]
  exact Nat.lt_succ_self cs.length

/-- Draws among the branches of one level and follows each with `inner`, until one of them leads to
an end other than exhaustion or none is left. Every branch that leads nowhere costs a backtrack
step. -/
def tryBranches (maxBacktracks : Nat) (weight : Nat → Float) (inner : Nat → Tally → Outcome)
    (branches : List Nat) (t : Tally) : Outcome :=
  match branches with
  | [] => ⟨.exhausted, t⟩
  | c :: cs =>
    let slot := t.slot weight (c :: cs)
    have slot_lt : slot < (c :: cs).length := t.slot_lt weight c cs
    let outcome := inner (c :: cs)[slot] t.draw
    match outcome.ending with
    | .exhausted =>
      let t' := outcome.tally.backtrack
      if maxBacktracks < t'.backtracks then ⟨.outOfBudget, t'⟩
      else tryBranches maxBacktracks weight inner ((c :: cs).eraseIdx slot) t'
    | _ => outcome
termination_by branches.length
decreasing_by exact t.length_eraseIdx_slot weight c cs

/-- Searches the tuples that begin with `path` and go on through `levels`. -/
def explore (p : Problem) (maxBacktracks : Nat) :
    List (Nat → Float) → List Nat → Tally → Outcome
  | [], path, t =>
    match p.leaf path with
    | .accepted => ⟨.found path, t⟩
    | leaf => ⟨.exhausted, t.note leaf⟩
  | weight :: below, path, t =>
    tryBranches maxBacktracks weight
      (fun index t => explore p maxBacktracks below (path ++ [index]) t) (p.branches path) t

/-- One search of the whole space, with a fresh count of backtrack steps. A space without levels has
no tuples to find. -/
def run (p : Problem) (maxBacktracks : Nat) (stream : RandomStream) : Outcome :=
  if p.levels.isEmpty then ⟨.exhausted, { stream }⟩
  else explore p maxBacktracks p.levels [] { stream }

/-- Searches at most `attempts` times, until a search ends within its budget. A repeated tuple that
any of the searches met is remembered. -/
def retry (p : Problem) (maxBacktracks : Nat) : Nat → RandomStream → Bool → Outcome
  | 0, stream, sawRepeat => ⟨.outOfBudget, { stream, sawRepeat }⟩
  | attempts + 1, stream, sawRepeat =>
    let outcome := run p maxBacktracks stream
    let sawRepeat := sawRepeat || outcome.tally.sawRepeat
    match outcome.ending with
    | .outOfBudget => retry p maxBacktracks attempts outcome.tally.stream sawRepeat
    | ending => ⟨ending, { outcome.tally with sawRepeat }⟩

end TestMatrix.Search

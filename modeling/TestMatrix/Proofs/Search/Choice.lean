import Mathlib.Data.List.Perm.Basic
import TestMatrix.Search

/-!
# Searches with a free choice of branches

Which branch comes next is drawn by weight, and no guarantee of a search depends on the draw.
`Tries` and `Explores` leave the choice open: of the branches that are left on a level, any may come
next. `explores_explore` says that the search which draws by weight is one of these searches, so
that what is proved of all of them holds for every seed and all weights.
-/

namespace TestMatrix.Search

/-- The branches of a level are followed with `inner`, one after the other and in any order, up to
the first that ends other than exhausted. -/
inductive Tries (maxBacktracks : Nat) (inner : Nat → Tally → Outcome → Prop) :
    List Nat → Tally → Outcome → Prop
  /-- No branch is left. -/
  | nothing (t : Tally) : Tries maxBacktracks inner [] t ⟨.exhausted, t⟩
  /-- A branch decides the search. -/
  | decided {branches rest : List Nat} {index : Nat} {t : Tally} {o : Outcome}
      (hperm : branches.Perm (index :: rest)) (hinner : inner index t.draw o)
      (hending : o.ending ≠ .exhausted) : Tries maxBacktracks inner branches t o
  /-- A branch leads nowhere, and that was one backtrack step too many. -/
  | spent {branches rest : List Nat} {index : Nat} {t : Tally} {o : Outcome}
      (hperm : branches.Perm (index :: rest)) (hinner : inner index t.draw o)
      (hending : o.ending = .exhausted) (hmax : maxBacktracks < o.tally.backtrack.backtracks) :
      Tries maxBacktracks inner branches t ⟨.outOfBudget, o.tally.backtrack⟩
  /-- A branch leads nowhere, and the others are tried. -/
  | next {branches rest : List Nat} {index : Nat} {t : Tally} {o o' : Outcome}
      (hperm : branches.Perm (index :: rest)) (hinner : inner index t.draw o)
      (hending : o.ending = .exhausted) (hmax : o.tally.backtrack.backtracks ≤ maxBacktracks)
      (hrest : Tries maxBacktracks inner rest o.tally.backtrack o') :
      Tries maxBacktracks inner branches t o'

/-- The tuples that begin with `path` and go on through a number of levels are searched, with the
branches of every level in any order. -/
def Explores (p : Problem) (maxBacktracks : Nat) : Nat → List Nat → Tally → Outcome → Prop
  | 0, path, t, o => o = explore p maxBacktracks [] path t
  | levels + 1, path, t, o =>
    Tries maxBacktracks (fun index => Explores p maxBacktracks levels (path ++ [index]))
      (p.branches path) t o

/-- If what follows each branch does what is said of it, then so do all branches of the level. -/
theorem tries_tryBranches {maxBacktracks : Nat} {weight : Nat → Float}
    {inner : Nat → Tally → Outcome} {Inner : Nat → Tally → Outcome → Prop}
    (hinner : ∀ index t, Inner index t (inner index t)) (branches : List Nat) (t : Tally) :
    Tries maxBacktracks Inner branches t (tryBranches maxBacktracks weight inner branches t) := by
  -- The drawn branch and those that are left are the branches of the level in another order.
  fun_induction tryBranches maxBacktracks weight inner branches t with
  | case1 t => exact .nothing t
  | case2 t c cs slot slot_lt outcome hending t' hmax =>
    exact .spent (List.getElem_cons_eraseIdx_perm slot_lt).symm (hinner _ _) hending hmax
  | case3 t c cs slot slot_lt outcome hending t' hmax ih =>
    exact .next (List.getElem_cons_eraseIdx_perm slot_lt).symm (hinner _ _) hending
      (Nat.le_of_not_lt hmax) ih
  | case4 t c cs slot slot_lt outcome hending =>
    exact .decided (List.getElem_cons_eraseIdx_perm slot_lt).symm (hinner _ _) hending

/-- Drawing by weight is one way to choose. -/
theorem explores_explore (p : Problem) (maxBacktracks : Nat) (levels : List (Nat → Float))
    (path : List Nat) (t : Tally) :
    Explores p maxBacktracks levels.length path t (explore p maxBacktracks levels path t) := by
  induction levels generalizing path t with
  | nil => exact rfl
  | cons weight below ih =>
    rw [explore]
    exact tries_tryBranches (fun index t => ih (path ++ [index]) t) (p.branches path) t

end TestMatrix.Search

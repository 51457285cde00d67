import TestMatrix.Proofs.Plan.Picks
import TestMatrix.Proofs.Search.Coverage

/-!
# The tree of picks

A search for a row goes through settings that the pinned selector accepts and that are not bound to
break a constraint. What it comes to is matched by the selector (`isMatch_of_isTuple`), and it
leaves out no valid tuple that is (`isTuple_of_isMatch`). So what it may find is just what is left
for the selector (`mem_remainingFor_of_isTuple`, `isTuple_of_mem_remainingFor`).
-/

namespace TestMatrix.Plan

variable {p : Plan} {pinned : Selector} {picks : List Nat}

theorem length_levels (p : Plan) (pinned : Selector) :
    (p.problem pinned).levels.length = p.axes.length :=
  List.length_map ..

/-- A branch is a setting of the next axis that the pinned selector lets through and that dooms
nothing. -/
theorem mem_branches {index : Nat} :
    index ∈ p.branches pinned picks ↔ ∃ a, p.axes[picks.length]? = some a ∧
      index < a.settings.length ∧ isPinned pinned a index = true ∧
      p.isDoomed (picks ++ [index]) = false := by
  rw [branches]
  cases p.axes[picks.length]? with
  | none => simp
  | some a => simp

/-- A level has at most as many branches as the axis has settings. -/
theorem length_branches_le {a : Axis} (ha : p.axes[picks.length]? = some a) :
    (p.branches pinned picks).length ≤ a.settings.length := by
  simp only [branches, ha]
  exact Nat.le_trans (List.length_filter_le _ _) (Nat.le_of_eq List.length_range)

/-- The branches stay within the axes and their settings. -/
theorem inRange_of_leads {rest : List Nat} (h : Search.Leads (p.branches pinned) picks rest)
    (hpicks : p.InRange picks) : p.InRange (picks ++ rest) := by
  induction h with
  | nil path => rwa [List.append_nil]
  | cons hindex hrest ih =>
    obtain ⟨a, ha, hlt, -⟩ := mem_branches.mp hindex
    simpa using ih (inRange_append_singleton.mpr ⟨hpicks, a, ha, hlt⟩)

/-- The tuples of the space are among those of the plan. -/
theorem mem_tuples_of_isTuple (h : (p.problem pinned).IsTuple picks) : picks ∈ p.tuples := by
  refine mem_tuples.mpr ⟨h.2.trans (length_levels p pinned), ?_⟩
  simpa using inRange_of_leads h.1 (inRange_nil p)

/-- The pick for an axis is accepted by the pinned selector. -/
theorem isPinned_of_isTuple (h : (p.problem pinned).IsTuple picks) {i index : Nat} {a : Axis}
    (ha : p.axes[i]? = some a) (hindex : picks[i]? = some index) :
    isPinned pinned a index = true := by
  have hbranch := (Search.leads_iff _ _ _).mp h.1 i index hindex
  obtain ⟨a', ha', -, hpinned, -⟩ := mem_branches.mp hbranch
  have hlength : ([] ++ picks.take i).length = i := by
    simpa using Nat.min_eq_left (Nat.le_of_lt (List.getElem?_eq_some_iff.mp hindex).1)
  rw [hlength] at ha'
  obtain rfl : a = a' := Option.some.inj (ha.symm.trans ha')
  exact hpinned

/-- The row of the picks is matched by the pinned selector. -/
theorem isMatch_of_isTuple (hp : p.Coherent) (hknown : p.Knows pinned)
    (h : (p.problem pinned).IsTuple picks) : pinned.isMatch (p.row picks).assignment = true := by
  have hlength : picks.length = p.axes.length := h.2.trans (length_levels p pinned)
  rw [assignment_row hp hlength, Selector.isMatch_iff]
  intro entry hentry
  obtain ⟨setting, hsetting⟩ := Option.isSome_iff_exists.mp (hknown.decides hp hlength entry hentry)
  obtain ⟨i, a, index, hi, ha, hindex, rfl⟩ := assignment_eq_some_iff.mp hsetting
  refine ⟨a.settingAt index, hsetting, ?_⟩
  have hname : a.name = entry.1 := by
    obtain ⟨a', ha', hname⟩ := (hp.axisIndex?_eq_some_iff entry.1 i).mp hi
    obtain rfl : a = a' := Option.some.inj (ha.symm.trans ha')
    exact hname
  -- The axis was picked under the condition that the selector has for it.
  have hpinned := isPinned_of_isTuple h ha hindex
  rwa [isPinned, hname, Selector.matcher?_eq_some_iff.mpr hentry] at hpinned

/-- The search leaves out no valid tuple that the pinned selector matches. -/
theorem isTuple_of_isMatch (hp : p.Coherent) (hvalid : p.isInvalid picks = false)
    (htuple : picks ∈ p.tuples) (hmatch : pinned.isMatch (p.row picks).assignment = true) :
    (p.problem pinned).IsTuple picks := by
  obtain ⟨hlength, hrange⟩ := mem_tuples.mp htuple
  refine ⟨(Search.leads_iff _ _ _).mpr fun i index hindex => ?_,
    hlength.trans (length_levels p pinned).symm⟩
  obtain ⟨hi, hget⟩ := List.getElem?_eq_some_iff.mp hindex
  obtain ⟨a, ha, hlt⟩ := hrange i index hindex
  have htake : ([] ++ picks.take i).length = i := by
    simpa using Nat.min_eq_left (Nat.le_of_lt hi)
  refine mem_branches.mpr ⟨a, by rwa [htake], hlt, ?_, ?_⟩
  -- The row matches, so the pinned selector lets every one of its settings through.
  · rw [isPinned]
    cases hm : pinned.matcher? a.name with
    | none => rfl
    | some m =>
      rw [assignment_row hp hlength, Selector.isMatch_iff] at hmatch
      obtain ⟨setting, hsetting, haccepts⟩ := hmatch _ (Selector.matcher?_eq_some_iff.mp hm)
      have hpick : p.assignment picks a.name = some (a.settingAt index) :=
        assignment_eq_some_iff.mpr
          ⟨i, a, index, (hp.axisIndex?_eq_some_iff _ i).mpr ⟨a, ha, rfl⟩, ha, hindex, rfl⟩
      obtain rfl : a.settingAt index = setting := Option.some.inj (hpick.symm.trans hsetting)
      exact haccepts
  · -- Were the picks so far doomed, the complete picks would be invalid.
    have hsplit : [] ++ picks.take i ++ [index] ++ picks.drop (i + 1) = picks := by
      rw [List.nil_append, ← hget, List.take_append_getElem, List.take_append_drop]
    rw [← Bool.not_eq_true]
    intro hdoomed
    have hinvalid := isInvalid_of_isDoomed hp (by rw [hsplit, hlength]) hdoomed
    rw [hsplit, hvalid] at hinvalid
    exact absurd hinvalid Bool.false_ne_true

/-! ## What is said of complete picks -/

/-- A tuple is accepted if it is valid and there is no row for it. -/
theorem leaf_eq_accepted_iff (hp : p.Coherent) : p.leaf picks = .accepted ↔
    p.isInvalid picks = false ∧ picks ∉ p.entries.map (·.picks) := by
  rw [← hp.isSeen_eq_true_iff, leaf]
  cases p.isInvalid picks <;> cases p.isSeen picks <;> simp

/-- It is repeated if it is valid and there is one. -/
theorem leaf_eq_repeated_iff (hp : p.Coherent) : p.leaf picks = .repeated ↔
    p.isInvalid picks = false ∧ picks ∈ p.entries.map (·.picks) := by
  rw [← hp.isSeen_eq_true_iff, leaf]
  cases p.isInvalid picks <;> cases p.isSeen picks <;> simp

/-- A search comes to tuples only that are left for its selector. -/
theorem mem_remainingFor_of_isTuple (hp : p.Coherent) (hknown : p.Knows pinned)
    (h : (p.problem pinned).IsTuple picks) (hleaf : p.leaf picks = .accepted) :
    picks ∈ p.remainingFor pinned := by
  refine mem_remainingFor.mpr ⟨mem_remaining.mpr ⟨mem_tuples_of_isTuple h, ?_⟩, ?_⟩
  · exact (leaf_eq_accepted_iff hp).mp hleaf
  · exact isMatch_of_isTuple hp hknown h

/-- A search comes to all tuples that are left for its selector. -/
theorem isTuple_of_mem_remainingFor (hp : p.Coherent) (h : picks ∈ p.remainingFor pinned) :
    (p.problem pinned).IsTuple picks ∧ p.leaf picks = .accepted := by
  obtain ⟨hremaining, hmatch⟩ := mem_remainingFor.mp h
  obtain ⟨htuple, hvalid, hnew⟩ := mem_remaining.mp hremaining
  exact ⟨isTuple_of_isMatch hp hvalid htuple hmatch, (leaf_eq_accepted_iff hp).mpr ⟨hvalid, hnew⟩⟩

end TestMatrix.Plan

import TestMatrix.Proofs.Plan.Forcing
import TestMatrix.Proofs.Plan.LiveConstraints

/-!
# What complete picks are rejected for

The constraints are looked at twice. On every level a search leaves out the settings with which the
picks would be bound to break one, and when there is a pick for each axis it asks whether the row
breaks one. On the last level both look at the same settings, those of the row
(`exists_last_branch`, `assignment_row`), and constraints that are made of selectors ask for nothing
else. So the row keeps them already (`not_isBroken_of_isTuple`), and what the second look finds is a
test of whole rows, or that there is a row with these picks (`visited_keeps_selectors`).
-/

namespace TestMatrix

/-- A rule other than a test of whole rows has a trigger. -/
theorem Constraint.exists_trigger? {c : Constraint}
    (h : ∀ label test, c ≠ .excludeRow label test) : ∃ s, c.trigger? = some s := by
  cases c with
  | exclude selector => exact ⟨selector, rfl⟩
  | excludeRow label test => exact absurd rfl (h label test)
  | imply condition requirement => exact ⟨condition, rfl⟩

namespace Plan

variable {p : Plan} {s : Selector} {picks : List Nat}

/-! ## The last level -/

/-- Complete picks end with a branch of those before it. -/
theorem exists_last_branch (haxes : p.axes ≠ []) (h : (p.problem s).IsTuple picks) :
    ∃ path index, picks = path ++ [index] ∧ path.length + 1 = p.axes.length ∧
      index ∈ p.branches s path := by
  have hlength : picks.length = p.axes.length := h.2.trans (length_levels p s)
  rcases List.eq_nil_or_concat picks with rfl | ⟨path, index, rfl⟩
  · exact absurd (List.eq_nil_of_length_eq_zero hlength.symm) haxes
  · rw [List.concat_eq_append] at h hlength
    -- A tuple is led to level by level, so its last index is a branch of what comes before.
    have hbranch := (Search.leads_iff _ _ _).mp h.1 path.length index (by simp)
    rw [List.nil_append, List.take_left] at hbranch
    exact ⟨path, index, List.concat_eq_append, by simpa using hlength, hbranch⟩

/-- The row of complete picks breaks no constraint that is made of selectors. -/
theorem not_isBroken_of_isTuple (hp : p.Coherent) (haxes : p.axes ≠ [])
    (h : (p.problem s).IsTuple picks) {c : Constraint} (hc : c ∈ p.constraints)
    (hselectors : ∀ label test, c ≠ .excludeRow label test) :
    c.isBrokenBy (p.row picks) = false := by
  have hlength : picks.length = p.axes.length := h.2.trans (length_levels p s)
  obtain ⟨path, index, rfl, -, hbranch⟩ := exists_last_branch haxes h
  -- When the last index was tried, all axes were set, so the test of the branch is that of the row.
  obtain ⟨-, -, -, -, hdoomed⟩ := mem_branches.mp hbranch
  obtain ⟨trigger, htrigger⟩ := Constraint.exists_trigger? hselectors
  rw [Constraint.isBrokenBy_eq_isBroken htrigger, assignment_row hp hlength]
  exact (Bool.not_eq_true _).mp (List.any_eq_false.mp hdoomed c hc)

/-! ## All levels -/

/-- A test of whole rows excludes the row. -/
def RulesOut (p : Plan) (r : Row) : Prop :=
  ∃ label test, Constraint.excludeRow label test ∈ p.constraints ∧ test r = true

/-- Only a test of whole rows makes complete picks invalid. -/
theorem isInvalid_iff_of_isTuple (hp : p.Coherent) (haxes : p.axes ≠ [])
    (h : (p.problem s).IsTuple picks) :
    p.isInvalid picks = true ↔ p.RulesOut (p.row picks) := by
  constructor
  · intro hinvalid
    obtain ⟨c, hc, hbroken⟩ := List.any_eq_true.mp hinvalid
    by_cases hselectors : ∀ label test, c ≠ .excludeRow label test
    · rw [not_isBroken_of_isTuple hp haxes h hc hselectors] at hbroken
      exact absurd hbroken Bool.false_ne_true
    · simp only [not_forall, not_not] at hselectors
      obtain ⟨label, test, rfl⟩ := hselectors
      exact ⟨label, test, hc, hbroken⟩
  · rintro ⟨label, test, hc, hpass⟩
    exact List.any_eq_true.mpr ⟨_, hc, hpass⟩

/-- A plan without axes has no tuple that could be visited. -/
theorem axes_ne_nil_of_mem_visited {maxBacktracks : Nat} {stream : RandomStream}
    (h : picks ∈ Search.visited (p.problem s) maxBacktracks stream) : p.axes ≠ [] := by
  intro haxes
  have hlevels : (p.problem s).levels.isEmpty = true := by simp [problem, haxes]
  rw [Search.visited, if_pos hlevels] at h
  exact absurd h List.not_mem_nil

/-- When the last axis is probed, each name has the setting that it has in the row which the picks
describe. So the row of any complete picks that a search comes to keeps all constraints that are
made of selectors, and the search turns the picks down exactly if a test of whole rows rules their
row out or there is a row with these picks already. What a search finds is among the picks that it
comes to. -/
theorem visited_keeps_selectors (hp : p.Reachable) (pinned : Selector) (maxBacktracks : Nat)
    (stream : RandomStream) :
    (∀ picks, (Search.run (p.problem pinned) maxBacktracks stream).ending = .found picks →
      picks ∈ Search.visited (p.problem pinned) maxBacktracks stream) ∧
    ∀ picks ∈ Search.visited (p.problem pinned) maxBacktracks stream,
      (∃ path index, picks = path ++ [index] ∧ path.length + 1 = p.axes.length ∧
        index ∈ p.branches pinned path ∧
        ∀ name, p.assignment (path ++ [index]) name = (p.row picks).setting? name) ∧
      (∀ c ∈ p.constraints, (∀ label test, c ≠ .excludeRow label test) →
        c.isBrokenBy (p.row picks) = false ∧ c.Holds (p.row picks)) ∧
      (p.leaf picks = .rejected ↔ p.RulesOut (p.row picks)) ∧
      (p.leaf picks ≠ .accepted ↔ p.RulesOut (p.row picks) ∨ picks ∈ p.seen) := by
  refine ⟨fun picks h => Search.mem_visited_of_found h, fun picks hvisited => ?_⟩
  have haxes := axes_ne_nil_of_mem_visited hvisited
  have htuple := Search.isTuple_of_mem_visited hvisited
  have hlength : picks.length = p.axes.length := htuple.2.trans (length_levels p pinned)
  have hinvalid := isInvalid_iff_of_isTuple hp.coherent haxes htuple
  refine ⟨?_, fun c hc hselectors => ?_, ?_, ?_⟩
  · obtain ⟨path, index, rfl, hpath, hbranch⟩ := exists_last_branch haxes htuple
    refine ⟨path, index, rfl, hpath, hbranch, fun name => ?_⟩
    exact (congrFun (assignment_row hp.coherent hlength) name).symm
  -- The constraint names axes of the plan only, so on a complete row kept means that it holds.
  · have hkept := not_isBroken_of_isTuple hp.coherent haxes htuple hc hselectors
    refine ⟨hkept, (Constraint.isBrokenBy_eq_false_iff fun selector hselector => ?_).mp hkept⟩
    rw [assignment_row hp.coherent hlength]
    exact (hp.wellFormed.knows c hc selector hselector).decides hp.coherent hlength
  · rw [← not_iff_not, ← ne_eq, leaf_ne_rejected_iff, ← Bool.not_eq_true, not_iff_not]
    exact hinvalid
  · rw [ne_eq, leaf_eq_accepted_iff hp.coherent, ← hp.coherent.mem_seen, not_and_or, not_not,
      Bool.not_eq_false]
    exact or_congr_left hinvalid

/-- A plan without `gss` off, beside the exclusion of both axes off: a search comes to picks with
`gss` off, which only the test rules out, and to those of a row. -/
theorem visited_keeps_selectors_encryption :
    let p := encryption.act
      (.constrain (.excludeRow "gss is off" fun r => r.tokenOf "gss" == "off"))
    p.Reachable ∧
      Search.visited (p.problem {}) 4096 (.ofSeed 9) = [[0, 1], [0, 0], [1, 0]] ∧
      p.leaf [0, 1] = .rejected ∧ p.RulesOut (p.row [0, 1]) ∧
      [0, 0] ∈ p.seen ∧ p.leaf [0, 0] ≠ .accepted ∧
      (∀ c ∈ p.constraints, (∀ label test, c ≠ .excludeRow label test) →
        c.isBrokenBy (p.row [0, 1]) = false ∧ c.Holds (p.row [0, 1])) := by
  intro p
  have hp : p.Reachable := reachable_encryption.act _
  have hvisited : Search.visited (p.problem {}) 4096 (.ofSeed 9) = [[0, 1], [0, 0], [1, 0]] := by
    decide +kernel
  have hrejected : p.leaf [0, 1] = .rejected := by decide +kernel
  have hseen : [0, 0] ∈ p.seen := by decide +kernel
  have hvisits := (visited_keeps_selectors hp {} 4096 (.ofSeed 9)).2
  obtain ⟨-, hkept, hruled, -⟩ := hvisits [0, 1] (by simp [hvisited])
  obtain ⟨-, -, -, hrefused⟩ := hvisits [0, 0] (by simp [hvisited])
  exact ⟨hp, hvisited, hrejected, hruled.mp hrejected, hseen, hrefused.mpr (.inr hseen), hkept⟩

end Plan

end TestMatrix

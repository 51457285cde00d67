import TestMatrix.Proofs.Plan.Decision
import TestMatrix.Proofs.Search.Visits

/-!
# What forcing a row comes to

`Forced` says once how the forcing of a row may end, and under which conditions it ends in each way
(`forced_force`). From it follows what an end is evidence of. In a strict plan, success means that
the selector is covered (`isCovered_of_force`): the excuse that only rows of the plan match is never
needed, because such a row would have covered the selector before. And the two reasons for a failure
are told truthfully (`shortfall_truthful`).
-/

namespace TestMatrix

/-- How the searches end if a row is missing for this reason. -/
def Shortfall.ending : Shortfall → Search.Ending
  | .noCombination => .exhausted
  | .budgetSpent => .outOfBudget

namespace Plan

variable {p : Plan} {s : Selector} {picks : List Nat}

/-! ## The ways in which it ends -/

/-- The plan after forcing a row, with what is reported. -/
inductive Forced (p : Plan) (s : Selector) : Plan × Except PlanError (Option Row) → Prop
  /-- The selector names an axis that the plan does not have. -/
  | refused {e : ConfigError} (hknown : ¬p.Knows s) : Forced p s (p, .error (.config e))
  /-- A row of the plan matches already. -/
  | covered (hknown : p.Knows s) (hempty : s.isEmpty = false) (hcovered : p.isCovered s = true) :
      Forced p s (p, .ok none)
  /-- A row is found and entered. -/
  | made {picks : List Nat} (hknown : p.Knows s)
      (hneeded : s.isEmpty = true ∨ p.isCovered s = false)
      (hending : (p.search s).ending = .found picks) :
      Forced p s
        ({ p.enter picks with stream := (p.search s).tally.stream }, .ok (some (p.row picks)))
  /-- No row is found, which is no fault if rows of the plan match or if the plan is not strict. -/
  | excused (hknown : p.Knows s) (hneeded : s.isEmpty = true ∨ p.isCovered s = false)
      (hending : ∀ picks, (p.search s).ending ≠ .found picks)
      (hexcuse : (p.search s).tally.sawRepeat = true ∨ p.strict = false) :
      Forced p s ({ p with stream := (p.search s).tally.stream }, .ok none)
  /-- No row is found, and that is a fault. -/
  | failed {reason : Shortfall} (hknown : p.Knows s)
      (hneeded : s.isEmpty = true ∨ p.isCovered s = false)
      (hending : (p.search s).ending = reason.ending)
      (hrepeat : (p.search s).tally.sawRepeat = false) (hstrict : p.strict = true) :
      Forced p s
        ({ p with stream := (p.search s).tally.stream }, .error (.unsatisfiable s reason))

/-- Both reasons for a missing row are excused in the same way. -/
theorem forced_missing {reason : Shortfall} (hknown : p.Knows s)
    (hneeded : s.isEmpty = true ∨ p.isCovered s = false)
    (hending : (p.search s).ending = reason.ending) :
    p.Forced s ({ p with stream := (p.search s).tally.stream },
      if (p.search s).tally.sawRepeat || !p.strict then .ok none
      else .error (.unsatisfiable s reason)) := by
  split
  · next hexcuse =>
    rw [Bool.or_eq_true, Bool.not_eq_true'] at hexcuse
    refine .excused hknown hneeded (fun picks hfound => ?_) hexcuse
    rw [hfound] at hending
    cases reason <;> simp [Shortfall.ending] at hending
  · next hexcuse =>
    rw [Bool.or_eq_true, not_or, Bool.not_eq_true, Bool.not_eq_true', Bool.not_eq_false] at hexcuse
    exact .failed hknown hneeded hending hexcuse.1 hexcuse.2

/-- The forcing of a row ends in one of these ways. -/
theorem forced_force (p : Plan) (s : Selector) : p.Forced s (p.force s) := by
  rw [force]
  split
  · next e hrequire =>
    refine .refused fun hknown => ?_
    rw [(requireAxes_eq_ok_iff p _ s).mpr hknown] at hrequire
    exact absurd hrequire (by simp)
  · next hrequire =>
    have hknown : p.Knows s := (requireAxes_eq_ok_iff p _ s).mp hrequire
    split
    · next hskip =>
      rw [Bool.and_eq_true, Bool.not_eq_true'] at hskip
      exact .covered hknown hskip.1 hskip.2
    · next hskip =>
      have hneeded : s.isEmpty = true ∨ p.isCovered s = false := by
        rw [Bool.and_eq_true, not_and_or, Bool.not_eq_true', Bool.not_eq_false,
          Bool.not_eq_true] at hskip
        exact hskip
      cases hending : (p.search s).ending with
      | found picks =>
        simp only [hending]
        exact .made hknown hneeded hending
      | exhausted =>
        simp only [hending]
        exact forced_missing hknown hneeded hending
      | outOfBudget =>
        simp only [hending]
        exact forced_missing hknown hneeded hending

/-! ## The tuples that fit a selector -/

/-- The picks are one for each axis, their row matches the selector, and all constraints hold of it.
There may be a row with these picks already. -/
structure Fits (p : Plan) (s : Selector) (picks : List Nat) : Prop where
  mem_tuples : picks ∈ p.tuples
  isMatch : s.Matches (p.row picks).assignment
  holds : ∀ c ∈ p.constraints, c.Holds (p.row picks)

/-- In a well-formed plan, the row of complete picks is valid if all constraints hold of it. -/
theorem isInvalid_eq_false_iff_holds (hp : p.Coherent) (hwf : p.WellFormed)
    (htuple : picks ∈ p.tuples) :
    p.isInvalid picks = false ↔ ∀ c ∈ p.constraints, c.Holds (p.row picks) := by
  have hlength : picks.length = p.axes.length := (Plan.mem_tuples.mp htuple).1
  rw [isInvalid_eq_false_iff, Keeps]
  refine forall_congr' fun c => forall_congr' fun hc => ?_
  refine Constraint.isBrokenBy_eq_false_iff fun selector hselector => ?_
  rw [assignment_row hp hlength]
  exact (hwf.knows c hc selector hselector).decides hp hlength

/-- A tuple is not rejected if its row keeps the constraints, be it new or not. -/
theorem leaf_ne_rejected_iff : p.leaf picks ≠ .rejected ↔ p.isInvalid picks = false := by
  rw [leaf]
  cases p.isInvalid picks <;> cases p.isSeen picks <;> simp

/-- A search may come to what fits, and does not reject it. -/
theorem Fits.isTuple (hp : p.Coherent) (hwf : p.WellFormed) (h : p.Fits s picks) :
    (p.problem s).IsTuple picks ∧ p.leaf picks ≠ .rejected := by
  have hvalid : p.isInvalid picks = false :=
    (isInvalid_eq_false_iff_holds hp hwf h.mem_tuples).mpr h.holds
  have hmatch := (Selector.isMatch_iff s _).mpr h.isMatch
  exact ⟨isTuple_of_isMatch hp hvalid h.mem_tuples hmatch, leaf_ne_rejected_iff.mpr hvalid⟩

/-- What a search comes to and does not reject fits. -/
theorem fits_of_isTuple (hp : p.Coherent) (hwf : p.WellFormed) (hknown : p.Knows s)
    (h : (p.problem s).IsTuple picks) (hleaf : p.leaf picks ≠ .rejected) : p.Fits s picks := by
  have htuple : picks ∈ p.tuples := mem_tuples_of_isTuple h
  refine ⟨htuple, (Selector.isMatch_iff s _).mp (isMatch_of_isTuple hp hknown h), ?_⟩
  exact (isInvalid_eq_false_iff_holds hp hwf htuple).mp (leaf_ne_rejected_iff.mp hleaf)

/-- Nothing fits if a search ended exhausted and saw no repeated tuple. -/
theorem not_fits_of_exhausted (hp : p.Coherent) (hwf : p.WellFormed) (haxes : p.axes ≠ [])
    {maxBacktracks : Nat} {stream : RandomStream}
    (h : (Search.run (p.problem s) maxBacktracks stream).ending = .exhausted)
    (hrepeat : (Search.run (p.problem s) maxBacktracks stream).tally.sawRepeat = false) :
    ¬p.Fits s picks := by
  intro hfits
  -- A setting for every axis that fits would be a tuple of the space. The search went through all
  -- of them and met neither a new one nor, as nothing was repeated, a known one.
  obtain ⟨hnone, hsaw⟩ := Search.run_exhausted (levels_ne_nil haxes s) h
  obtain ⟨htuple, hleaf⟩ := hfits.isTuple hp hwf
  have hfound : p.leaf picks = .accepted ∨ p.leaf picks = .repeated := by
    cases hcase : p.leaf picks with
    | accepted => exact .inl rfl
    | repeated => exact .inr rfl
    | rejected => exact absurd hcase hleaf
  rcases hfound with haccepted | hrepeated
  · exact hnone picks htuple haccepted
  · have hmet := hsaw.mpr ⟨picks, htuple, hrepeated⟩
    rw [hrepeat] at hmet
    exact absurd hmet Bool.false_ne_true

/-! ## Repeated tuples -/

/-- Where the searches for one row begin. -/
def searchStarts (p : Plan) (s : Selector) : List RandomStream :=
  Search.starts (p.problem s) p.budget.maxBacktracks (max p.budget.maxAttempts 1) p.stream

/-- A selector is covered if a row matches it. -/
theorem isCovered_iff : p.isCovered s = true ↔ ∃ r ∈ p.rows, s.Matches r.assignment := by
  simp only [isCovered, List.any_eq_true, Selector.isMatch_iff]

/-- If a search comes to a repeated tuple, then a row of the plan fits. -/
theorem exists_entry_fits (hp : p.Coherent) (hwf : p.WellFormed) (hknown : p.Knows s)
    (h : (p.search s).tally.sawRepeat = true) : ∃ e ∈ p.entries, p.Fits s e.picks := by
  rw [search, Search.sawRepeat_retry, Bool.false_or, List.any_eq_true] at h
  obtain ⟨start, -, hrepeat⟩ := h
  obtain ⟨tuple, hvisited, hleaf⟩ := Search.Problem.hasRepeat_eq_true_iff.mp hrepeat
  have htuple : (p.problem s).IsTuple tuple := Search.isTuple_of_mem_visited hvisited
  obtain ⟨e, he, rfl⟩ := List.mem_map.mp ((leaf_eq_repeated_iff hp).mp hleaf).2
  have hleaf : p.leaf e.picks = .repeated := hleaf
  exact ⟨e, he, fits_of_isTuple hp hwf hknown htuple (by simp [hleaf])⟩

/-- A row of the plan that fits a selector covers it. -/
theorem isCovered_of_fits (hp : p.Coherent) (hwf : p.WellFormed) {e : Entry} (he : e ∈ p.entries)
    (h : p.Fits s e.picks) : p.isCovered s = true := by
  have hlength : e.picks.length = p.axes.length := (Plan.mem_tuples.mp h.mem_tuples).1
  have hmatch : s.Matches (p.row e.picks).assignment := h.isMatch
  rw [assignment_row hp hlength, ← assignment_of_cells hp hlength (hwf.cells_eq e he)] at hmatch
  exact isCovered_iff.mpr ⟨e.row, List.mem_map_of_mem he, hmatch⟩

/-- The searches for a selector that no row matches come to no repeated tuple. -/
theorem sawRepeat_of_not_covered (hp : p.Coherent) (hwf : p.WellFormed) (hknown : p.Knows s)
    (h : p.isCovered s = false) : (p.search s).tally.sawRepeat = false := by
  rw [← Bool.not_eq_true]
  intro hrepeat
  obtain ⟨e, he, hfits⟩ := exists_entry_fits hp hwf hknown hrepeat
  rw [isCovered_of_fits hp hwf he hfits] at h
  exact absurd h (by simp)

/-! ## Success -/

/-- A row that is entered for a selector covers it. -/
theorem isCovered_enter (hp : p.Coherent) (hknown : p.Knows s)
    (h : (p.search s).ending = .found picks) : (p.enter picks).isCovered s = true := by
  have hleft : picks ∈ p.remainingFor s := search_found hp hknown h
  have hmatch := (Selector.isMatch_iff s _).mp (mem_remainingFor.mp hleft).2
  have hrow : p.row picks ∈ (p.enter picks).rows := by simp [enter, rows]
  exact isCovered_iff.mpr ⟨p.row picks, hrow, hmatch⟩

/-- In a strict plan, a selector that was forced without a fault is covered. -/
theorem isCovered_of_force (hp : p.Reachable) (hstrict : p.strict = true)
    (hempty : s.isEmpty = false) {result : Option Row} (h : (p.force s).2 = .ok result) :
    (p.force s).1.isCovered s = true := by
  have hforced := p.forced_force s
  generalize p.force s = outcome at h hforced
  cases hforced with
  | refused hknown => exact absurd h (by simp)
  | covered hknown hempty hcovered => exact hcovered
  | made hknown hneeded hending => exact isCovered_enter hp.coherent hknown hending
  | excused hknown hneeded hending hexcuse =>
    -- Under the strict setting only a repeated tuple excuses a missing row, and that tuple belongs
    -- to a row that matches.
    have hcovered : p.isCovered s = false :=
      hneeded.resolve_left (by simp [hempty])
    rw [sawRepeat_of_not_covered hp.coherent hp.wellFormed hknown hcovered, hstrict] at hexcuse
    exact absurd hexcuse (by simp)
  | failed hknown hneeded hending hrepeat hstrict => exact absurd h (by simp)

/-! ## Failure -/

/-- The two reasons are told by different ends. -/
theorem Shortfall.ending_injective : Function.Injective Shortfall.ending := by
  intro reason reason' h
  cases reason <;> cases reason' <;> simp [Shortfall.ending] at h ⊢

/-- A fault is reported if a row is needed, all searches end without one and none of them sees a
repeated tuple. -/
theorem force_eq_unsatisfiable_iff {s' : Selector} {reason : Shortfall} :
    (p.force s).2 = .error (.unsatisfiable s' reason) ↔
      s' = s ∧ p.Knows s ∧ (s.isEmpty = true ∨ p.isCovered s = false) ∧
        (p.search s).ending = reason.ending ∧ (p.search s).tally.sawRepeat = false ∧
        p.strict = true := by
  have hforced := p.forced_force s
  generalize p.force s = outcome at hforced ⊢
  cases hforced with
  | refused hunknown => simp [hunknown]
  | covered hknown hempty hcovered => simp [hempty, hcovered]
  | made hknown hneeded hending => cases reason <;> simp [hending, Shortfall.ending]
  | excused hknown hneeded hending hexcuse =>
    refine iff_of_false (by simp) ?_
    rintro ⟨-, -, -, -, hrepeat, hstrict⟩
    simp [hrepeat, hstrict] at hexcuse
  | @failed reason' hknown hneeded hending hrepeat hstrict =>
    simp only [Except.error.injEq, PlanError.unsatisfiable.injEq, hknown, hneeded, hending,
      hrepeat, hstrict, Shortfall.ending_injective.eq_iff, true_and, and_true]
    exact and_congr_left fun _ => eq_comm

/-- If none of the searches saw a repeated tuple, then none came to one. -/
theorem hasRepeat_of_sawRepeat (h : (p.search s).tally.sawRepeat = false) {start : RandomStream}
    (hstart : start ∈ p.searchStarts s) :
    (p.problem s).hasRepeat
      (Search.visited (p.problem s) p.budget.maxBacktracks start) = false := by
  rw [search, Search.sawRepeat_retry, Bool.false_or, List.any_eq_false] at h
  exact (Bool.not_eq_true _).mp (h start hstart)

/-- If it is said that there is no combination, then nothing fits. -/
theorem not_fits_of_noCombination (hp : p.Reachable) (haxes : p.axes ≠ []) {s' : Selector}
    (h : (p.force s).2 = .error (.unsatisfiable s' .noCombination)) (picks : List Nat) :
    ¬p.Fits s picks := by
  obtain ⟨-, -, -, hending, hrepeat, -⟩ := force_eq_unsatisfiable_iff.mp h
  obtain ⟨start, hstart, hexhausted⟩ := Search.retry_exhausted hending
  refine not_fits_of_exhausted hp.coherent hp.wellFormed haxes hexhausted ?_
  rw [Search.sawRepeat_run]
  exact hasRepeat_of_sawRepeat hrepeat hstart

/-- If it is said that the budget is spent, then it was spent by as many searches as may be made,
and the rows that they came to again would be valid no longer. -/
theorem outOfBudget_of_budgetSpent (hp : p.Reachable) {s' : Selector}
    (h : (p.force s).2 = .error (.unsatisfiable s' .budgetSpent)) :
    (p.searchStarts s).length = max p.budget.maxAttempts 1 ∧ ∀ start ∈ p.searchStarts s,
      (Search.run (p.problem s) p.budget.maxBacktracks start).ending = .outOfBudget ∧
      ∀ e ∈ p.entries, e.picks ∈ Search.visited (p.problem s) p.budget.maxBacktracks start →
        ∃ c ∈ p.constraints, ¬c.Holds (p.row e.picks) := by
  obtain ⟨-, -, -, hending, hrepeat, -⟩ := force_eq_unsatisfiable_iff.mp h
  obtain ⟨hlength, hspent⟩ := Search.retry_outOfBudget hending
  refine ⟨hlength, fun start hstart => ⟨hspent start hstart, fun e he hvisited => ?_⟩⟩
  have hleaf : p.leaf e.picks ≠ .repeated := by
    intro hleaf
    have hmet : (p.problem s).hasRepeat _ = true :=
      Search.Problem.hasRepeat_eq_true_iff.mpr ⟨e.picks, hvisited, hleaf⟩
    rw [hasRepeat_of_sawRepeat hrepeat hstart] at hmet
    exact absurd hmet Bool.false_ne_true
  -- The picks are those of a row, so were they valid, they would be repeated ones.
  have hinvalid : p.isInvalid e.picks ≠ false := fun hvalid =>
    hleaf ((leaf_eq_repeated_iff hp.coherent).mpr ⟨hvalid, List.mem_map_of_mem he⟩)
  have hbroken := mt (isInvalid_eq_false_iff_holds hp.coherent hp.wellFormed
    (hp.wellFormed.mem_tuples e he)).mpr hinvalid
  simpa only [not_forall, exists_prop] using hbroken

/-- If nothing fits, then a strict plan reports a fault. -/
theorem unsatisfiable_of_not_fits (hp : p.Reachable) (hstrict : p.strict = true)
    (hknown : p.Knows s) (hnone : ∀ picks, ¬p.Fits s picks)
    (hneeded : s.isEmpty = true ∨ p.isCovered s = false) :
    ∃ reason, (p.force s).2 = .error (.unsatisfiable s reason) := by
  have hforced := p.forced_force s
  generalize p.force s = outcome at hforced ⊢
  cases hforced with
  | refused hunknown => exact absurd hknown hunknown
  | covered hknown hempty hcovered => simp [hempty, hcovered] at hneeded
  | @made picks hknown hneeded hending =>
    obtain ⟨htuple, hleaf⟩ := Search.retry_found hending
    have hleaf : p.leaf picks = .accepted := hleaf
    exact absurd (fits_of_isTuple hp.coherent hp.wellFormed hknown htuple (by simp [hleaf]))
      (hnone picks)
  | excused hknown hneeded hending hexcuse =>
    have hrepeat : (p.search s).tally.sawRepeat = true :=
      hexcuse.resolve_right (by simp [hstrict])
    obtain ⟨e, -, hfits⟩ := exists_entry_fits hp.coherent hp.wellFormed hknown hrepeat
    exact absurd hfits (hnone e.picks)
  | @failed reason hknown hneeded hending hrepeat hstrict => exact ⟨reason, rfl⟩

/-- The reason for a failure is the true one. There is no combination only if no picks fit the
selector, whether there is a row for them or not. The budget is spent only if all the searches spent
theirs and met no row that would still be valid. And if no picks fit, then forcing a row fails. -/
theorem shortfall_truthful (hp : p.Reachable) (haxes : p.axes ≠ []) (hstrict : p.strict = true)
    (hknown : p.Knows s) :
    (∀ s' reason, (p.force s).2 = .error (.unsatisfiable s' reason) →
      (reason.message = "no combination satisfies the registered constraints" →
        ∀ picks, ¬p.Fits s picks) ∧
      (reason.message = "search budget exhausted" →
        (p.searchStarts s).length = max p.budget.maxAttempts 1 ∧
        ∀ start ∈ p.searchStarts s,
          (Search.run (p.problem s) p.budget.maxBacktracks start).ending = .outOfBudget ∧
          ∀ e ∈ p.entries, e.picks ∈ Search.visited (p.problem s) p.budget.maxBacktracks start →
            ∃ c ∈ p.constraints, ¬c.Holds (p.row e.picks))) ∧
    ((∀ picks, ¬p.Fits s picks) → s.isEmpty = true ∨ p.isCovered s = false →
      ∃ reason, (p.force s).2 = .error (.unsatisfiable s reason)) := by
  refine ⟨fun s' reason h => ?_, unsatisfiable_of_not_fits hp hstrict hknown⟩
  cases reason with
  | noCombination =>
    refine ⟨fun _ => not_fits_of_noCombination hp haxes h, fun hmessage => ?_⟩
    exact absurd hmessage (by decide)
  | budgetSpent =>
    refine ⟨fun hmessage => ?_, fun _ => outOfBudget_of_budgetSpent hp h⟩
    exact absurd hmessage (by decide)

/-- The two axes of the small plan both off, which its constraint rules out. -/
def bothOff : Selector := Selector.having (.having {} "ssl" "off") "gss" "off"

/-- With a budget, the small plan says that there is no combination, and without one that the budget
is spent. -/
theorem shortfall_truthful_encryption :
    let p := encryption.act (.setStrict true)
    let q := p.act (.setBudget ⟨2, 0⟩)
    p.Reachable ∧ q.Reachable ∧ p.axes ≠ [] ∧ p.strict = true ∧ p.Knows bothOff ∧
      (p.force bothOff).2 = .error (.unsatisfiable bothOff .noCombination) ∧
      (∀ picks, ¬p.Fits bothOff picks) ∧
      (q.force bothOff).2 = .error (.unsatisfiable bothOff .budgetSpent) ∧
      (q.searchStarts bothOff).length = 2 := by
  intro p q
  have hp : p.Reachable := reachable_encryption.act _
  have hq : q.Reachable := hp.act _
  have haxes : p.axes ≠ [] := List.ne_nil_of_length_pos (by decide +kernel)
  have hknown : p.Knows bothOff := by decide +kernel
  have hforce : (p.force bothOff).2 = .error (.unsatisfiable bothOff .noCombination) :=
    force_eq_unsatisfiable_iff.mpr ⟨rfl, by decide +kernel⟩
  have hforce' : (q.force bothOff).2 = .error (.unsatisfiable bothOff .budgetSpent) :=
    force_eq_unsatisfiable_iff.mpr ⟨rfl, by decide +kernel⟩
  have hnone := ((shortfall_truthful hp haxes rfl hknown).1 _ _ hforce).1 rfl
  have hspent := ((shortfall_truthful hq haxes rfl hknown).1 _ _ hforce').2 rfl
  exact ⟨hp, hq, haxes, rfl, hknown, hforce, hnone, hforce', hspent.1⟩

end Plan

end TestMatrix

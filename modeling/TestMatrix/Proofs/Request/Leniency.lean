import TestMatrix.Proofs.Request.Sufficiency

/-!
# Strictness only refuses

A strict plan searches for the same rows as one that is not strict, and makes the same. It differs
in one thing only: where a row cannot be had, it reports that as a fault (`Plan.force_lenient`). So
a strict run that succeeds is the lenient run (`Request.generate_lenient`), and a lenient run fails
only if it has no rows at all (`Request.exists_report_of_lenient`).
-/

namespace TestMatrix

namespace Plan

variable {p : Plan} {s : Selector} {selectors : List Selector}

/-- The plan without strictness. -/
def lenient (p : Plan) : Plan := { p with strict := false }

/-- A selector that a row matches already has nothing done about it. -/
theorem force_of_covered (hknown : p.Knows s) (hempty : s.isEmpty = false)
    (hcovered : p.isCovered s = true) : p.force s = (p, .ok none) := by
  have hskip : (!s.isEmpty && p.isCovered s) = true := by simp [hempty, hcovered]
  simp only [force, (requireAxes_eq_ok_iff p _ s).mpr hknown, hskip, if_true]

/-- A row that cannot be had is no fault of a lenient plan. -/
theorem force_of_not_strict (hstrict : p.strict = false) (hknown : p.Knows s)
    (hneeded : s.isEmpty = true ∨ p.isCovered s = false)
    (h : ∀ picks, (p.search s).ending ≠ .found picks) :
    p.force s = ({ p with stream := (p.search s).tally.stream }, .ok none) := by
  have hskip : (!s.isEmpty && p.isCovered s) = false := by
    rcases hneeded with h | h <;> simp [h]
  simp only [force, (requireAxes_eq_ok_iff p _ s).mpr hknown, hskip, hstrict, Bool.not_false,
    Bool.or_true, Bool.false_eq_true, if_true, if_false]
  cases hending : (p.search s).ending with
  | found picks => exact absurd hending (h picks)
  | exhausted => rfl
  | outOfBudget => rfl

/-- What a plan makes of a selector without a fault, it makes of it without strictness. -/
theorem force_lenient {row : Option Row} (h : (p.force s).2 = .ok row) :
    p.lenient.force s = ((p.force s).1.lenient, .ok row) := by
  have hforced := p.forced_force s
  generalize p.force s = outcome at hforced h ⊢
  cases hforced with
  | refused hknown => simp at h
  | covered hknown hempty hcovered =>
    obtain rfl := Except.ok.inj h
    exact force_of_covered hknown hempty hcovered
  | made hknown hneeded hending =>
    obtain rfl := Except.ok.inj h
    exact force_of_found hknown hneeded hending
  | excused hknown hneeded hending hexcuse =>
    -- Without strictness a row may be missing whatever the excuse was.
    obtain rfl := Except.ok.inj h
    exact force_of_not_strict rfl hknown hneeded hending
  | failed hknown hneeded hending hrepeat hstrict => simp at h

/-- Selectors that are forced without a fault are forced likewise without strictness. -/
theorem forceAll_lenient {count : Nat} (h : (p.forceAll selectors).2 = .ok count) :
    p.lenient.forceAll selectors = ((p.forceAll selectors).1.lenient, .ok count) := by
  induction selectors generalizing p count with
  | nil =>
    obtain rfl := Except.ok.inj h
    rfl
  | cons s rest ih =>
    rw [forceAll_cons] at h ⊢
    cases hforce : (p.force s).2 with
    | error e => simp [hforce] at h
    | ok row =>
      rw [forceAll_cons, force_lenient hforce, hforce]
      rw [hforce] at h
      dsimp only at h ⊢
      cases hrest : ((p.force s).1.forceAll rest).2 with
      | error e => simp [hrest, Except.map] at h
      | ok count' =>
        rw [ih hrest]
        rw [hrest] at h
        rw [← h]

/-- Filling a plan does not depend on how strict it is. -/
theorem fill_lenient (count : Nat) (p : Plan) : p.lenient.fill count = (p.fill count).lenient := by
  induction count generalizing p with
  | zero => rfl
  | succ count ih =>
    rcases p.search_found_or_not {} with ⟨picks, hpicks⟩ | hnone
    · rw [fill_of_found count hpicks, fill_of_found (p := p.lenient) count hpicks, ← ih]
      rfl
    · rw [fill_of_not_found count hnone, fill_of_not_found (p := p.lenient) count hnone]
      rfl

/-! ## Lenient plans -/

/-- Forcing a row leaves the axes alone. -/
theorem Knows.force {s' : Selector} (h : p.Knows s') (s : Selector) : (p.force s).1.Knows s' := by
  rcases force_cases p s with ⟨picks, stream, -, -, hforce⟩ | ⟨stream, hforce, -⟩
  · rw [hforce]
    exact h
  · rw [hforce]
    exact h

/-- A lenient plan finds no fault with selectors whose axes it has. -/
theorem exists_ok_of_forceAll (hstrict : p.strict = false)
    (hknown : ∀ s ∈ selectors, p.Knows s) : ∃ count, (p.forceAll selectors).2 = .ok count := by
  induction selectors generalizing p with
  | nil => exact ⟨0, rfl⟩
  | cons s rest ih =>
    rw [List.forall_mem_cons] at hknown
    have hrow : ∃ row, (p.force s).2 = .ok row := by
      have hforced := p.forced_force s
      generalize p.force s = outcome at hforced ⊢
      cases hforced with
      | refused hunknown => exact absurd hknown.1 hunknown
      | covered => exact ⟨_, rfl⟩
      | made => exact ⟨_, rfl⟩
      | excused => exact ⟨_, rfl⟩
      | failed _ _ _ _ hstrict' => simp [hstrict] at hstrict'
    obtain ⟨row, hrow⟩ := hrow
    obtain ⟨count, hcount⟩ := ih (p := (p.force s).1) ((strict_force p s).trans hstrict)
      fun s' hs' => (hknown.2 s' hs').force s
    rw [forceAll_cons, hrow]
    dsimp only
    rw [hcount]
    exact ⟨_, rfl⟩

end Plan

/-- Nor do the goals of a profile. -/
theorem Profile.goals_lenient (profile : Profile) (p : Plan) :
    profile.goals p.lenient = profile.goals p :=
  profile.goals_settings p false p.budget p.stream

namespace Request

variable {r : Request} {report : Report}

/-- A lenient request lays down the plan of the strict one, made lenient. -/
theorem plan_lenient (r : Request) :
    { r with strict := false }.plan = (r.plan.1.lenient, r.plan.2) := by
  rw [plan_eq, plan_eq]
  dsimp only [Plan.lenient]

/-- A strict run that succeeds is the run that is not strict. -/
theorem generate_lenient (h : r.generate = .ok report) :
    { r with strict := false }.generate = .ok report := by
  obtain ⟨hplan, count, rows, stream, hcount, hresult, rfl⟩ := generate_eq_ok_iff.mp h
  have hforced : { r with strict := false }.forced = (r.forced.1.lenient, .ok count) := by
    rw [forced, plan_lenient]
    dsimp only
    rw [Profile.goals_lenient]
    exact Plan.forceAll_lenient hcount
  have hfilled : { r with strict := false }.filled = r.filled.lenient := by
    rw [filled, hforced]
    exact Plan.fill_lenient r.jobs r.forced.1
  refine generate_eq_ok_iff.mpr ⟨?_, count, rows, stream, ?_, ?_, ?_⟩
  · rw [plan_lenient]
    exact hplan
  · rw [hforced]
  · rw [hfilled]
    exact hresult
  · rw [hfilled, hforced]
    dsimp only [Plan.lenient]

/-- A run that is not strict fails only if it has no rows. -/
theorem exists_report_of_lenient (hstrict : r.strict = false) (hrows : r.filled.entries ≠ []) :
    ∃ report, r.generate = .ok report := by
  -- Every goal fits some row, so it names axes of the plan.
  have hknown : ∀ s ∈ r.profile.goals r.plan.1, r.plan.1.Knows s := by
    intro s hs
    obtain ⟨picks, hfits⟩ := r.exists_fits_of_mem_goals s hs
    exact hfits.knows r.reachable_plan.1.coherent
  obtain ⟨count, hcount⟩ :=
    Plan.exists_ok_of_forceAll (r.reachable_plan.2.trans hstrict) hknown
  have hplan : r.plan.2 = .ok () := by rw [plan_eq]
  exact ⟨_, generate_eq_ok_iff.mpr
    ⟨hplan, count, _, _, hcount, Plan.result_eq_ok_iff.mpr ⟨hrows, rfl, rfl⟩, rfl⟩⟩

end Request

end TestMatrix

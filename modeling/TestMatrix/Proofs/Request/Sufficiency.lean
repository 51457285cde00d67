import Mathlib.Data.List.Forall2
import TestMatrix.Proofs.Plan.Validity
import TestMatrix.Proofs.Profile.Laying
import TestMatrix.Proofs.Request.Growth

/-!
# Runs with a sufficient budget

With a budget that has a step for every path of the tree, a selector that something fits is covered
once it is forced: either a row is found, or all that fits has been made into rows already
(`Affords.isCovered_force`). Forcing rows takes nothing away from what fits the other selectors, so
that the goals can be forced one after the other, in any order (`Serves.forceAll`).

For every goal of the two profiles there is a sample that fits it (`exists_sample`). So a run with
such a budget succeeds and covers its goals, whatever the seed, the number of jobs and the
strictness (`sufficient_budget_covers`).
-/

namespace TestMatrix

namespace Plan

variable {p q : Plan} {s : Selector} {picks : List Nat}

/-! ## Forcing a row with a sufficient budget -/

/-- Only axes that the plan has are named by a selector that something fits. -/
theorem Fits.knows (h : p.Fits s picks) (hp : p.Coherent) : p.Knows s := by
  have hmatch := h.isMatch
  rw [assignment_row hp (Plan.mem_tuples.mp h.mem_tuples).1] at hmatch
  exact knows_of_matches hmatch

/-- If something fits and no row can be found, then there is a row already. -/
theorem Affords.isCovered_of_fits (h : p.Affords) (hp : p.Reachable) (haxes : p.axes ≠ [])
    (hnone : ∀ picks, (p.search s).ending ≠ .found picks) (hfits : p.Fits s picks) :
    p.isCovered s = true := by
  have hvalid : p.isInvalid picks = false :=
    (isInvalid_eq_false_iff_holds hp.coherent hp.wellFormed hfits.mem_tuples).mpr hfits.holds
  have hempty : p.remainingFor s = [] := h.remainingFor_eq_nil hp.coherent haxes hnone
  -- The search would have found what fits if it were new, so there is a row of it.
  have hseen : picks ∈ p.entries.map (·.picks) := by
    by_contra hnew
    have hleft : picks ∈ p.remainingFor s :=
      mem_remainingFor.mpr ⟨mem_remaining.mpr ⟨hfits.mem_tuples, hvalid, hnew⟩,
        (Selector.isMatch_iff s _).mpr hfits.isMatch⟩
    rw [hempty] at hleft
    exact List.not_mem_nil hleft
  obtain ⟨e, he, rfl⟩ := List.mem_map.mp hseen
  exact Plan.isCovered_of_fits hp.coherent hp.wellFormed he hfits

/-- A selector that something fits is covered once it is forced. -/
theorem Affords.isCovered_force (h : p.Affords) (hp : p.Reachable) (haxes : p.axes ≠ [])
    (hempty : s.isEmpty = false) (hfits : p.Fits s picks) :
    ∃ row, (p.force s).2 = .ok row ∧ (p.force s).1.isCovered s = true := by
  -- Had the searches failed, there would have been no need for them.
  have hfound (hneeded : s.isEmpty = true ∨ p.isCovered s = false)
      (hnone : ∀ picks, (p.search s).ending ≠ .found picks) : False := by
    have hcovered := h.isCovered_of_fits hp haxes hnone hfits
    simp [hempty, hcovered] at hneeded
  have hforced := p.forced_force s
  generalize p.force s = outcome at hforced ⊢
  cases hforced with
  | refused hunknown => exact absurd (hfits.knows hp.coherent) hunknown
  | covered hknown hempty hcovered => exact ⟨none, rfl, hcovered⟩
  | made hknown hneeded hending =>
    exact ⟨_, rfl, isCovered_enter hp.coherent hknown hending⟩
  | excused hknown hneeded hending hexcuse => exact (hfound hneeded hending).elim
  | @failed reason hknown hneeded hending hrepeat hstrict =>
    refine (hfound hneeded fun picks hpicks => ?_).elim
    rw [hpicks] at hending
    cases reason <;> simp [Shortfall.ending] at hending

/-! ## Forcing one row after the other -/

/-- The plan can be made to cover the selectors: something fits each of them, and the budget lets
every search come to an end. -/
structure Serves (p : Plan) (selectors : List Selector) : Prop where
  reachable : p.Reachable
  axes_ne_nil : p.axes ≠ []
  affords : p.Affords
  isEmpty_eq_false : ∀ s ∈ selectors, s.isEmpty = false
  exists_fits : ∀ s ∈ selectors, ∃ picks, p.Fits s picks

/-- Forcing a row for whatever selector takes nothing away from what fits. -/
theorem Serves.force {selectors : List Selector} (h : p.Serves selectors) (s : Selector) :
    (p.force s).1.Serves selectors := by
  have hreach : (p.force s).1.Reachable := h.reachable.act (.force s)
  obtain ⟨added, stream, hforce, -⟩ := force_adds h.reachable.coherent s
  rw [hforce] at hreach ⊢
  refine ⟨hreach, h.axes_ne_nil, h.affords, h.isEmpty_eq_false, fun s' hs' => ?_⟩
  obtain ⟨picks, hfits⟩ := h.exists_fits s' hs'
  exact ⟨picks, hfits.mem_tuples, hfits.isMatch, hfits.holds⟩

/-- All of the selectors are covered in the end. -/
theorem Serves.forceAll {selectors : List Selector} (h : p.Serves selectors) :
    ∃ count, (p.forceAll selectors).2 = .ok count ∧
      ∀ s ∈ selectors, (p.forceAll selectors).1.isCovered s = true := by
  induction selectors generalizing p with
  | nil => exact ⟨0, rfl, by simp⟩
  | cons s rest ih =>
    obtain ⟨picks, hfits⟩ := h.exists_fits s List.mem_cons_self
    obtain ⟨row, hrow, hcovered⟩ := h.affords.isCovered_force h.reachable h.axes_ne_nil
      (h.isEmpty_eq_false s List.mem_cons_self) hfits
    have hnext : (p.force s).1.Serves rest :=
      { h.force s with
        isEmpty_eq_false := (List.forall_mem_cons.mp (h.force s).isEmpty_eq_false).2
        exists_fits := (List.forall_mem_cons.mp (h.force s).exists_fits).2 }
    obtain ⟨count, hcount, hrest⟩ := ih hnext
    rw [forceAll_cons, hrow]
    dsimp only
    rw [hcount, List.forall_mem_cons]
    refine ⟨_, rfl, ?_, hrest⟩
    -- A row that covers the first selector stays while the others are forced.
    exact isCovered_mono (reachable_forceAll hnext.reachable rest).2 hcovered

/-! ## Rows that keep the constraints -/

/-- Forcing the goals leaves no row that breaks a constraint, and adds no constraints. -/
theorem AllKeep.forceAll (h : p.AllKeep) (hp : p.Reachable) (selectors : List Selector) :
    (p.forceAll selectors).1.AllKeep ∧
      (p.forceAll selectors).1.constraints = p.constraints := by
  induction selectors generalizing p with
  | nil => exact ⟨h, rfl⟩
  | cons s rest ih =>
    have hsame := constraints_force hp.coherent s
    have hforce : (p.force s).1.AllKeep := h.of_change (change_act hp.coherent (.force s)) hsame
    rw [forceAll_cons]
    cases (p.force s).2 with
    | error e => exact ⟨hforce, hsame⟩
    | ok row =>
      obtain ⟨hrest, hconstraints⟩ := ih hforce (hp.act (.force s))
      exact ⟨hrest, hconstraints.trans hsame⟩

/-! ## Other settings -/

/-- Settings have nothing to do with what fits. -/
theorem fits_settings {strict : Bool} {budget : Budget} {stream : RandomStream}
    (hp : { p with strict, budget, stream }.Reachable) (htuple : picks ∈ p.tuples)
    (hvalid : p.isInvalid picks = false) (hmatch : s.isMatch (p.row picks).assignment = true) :
    { p with strict, budget, stream }.Fits s picks :=
  ⟨htuple, (Selector.isMatch_iff s _).mp hmatch,
    (isInvalid_eq_false_iff_holds hp.coherent hp.wellFormed htuple).mp hvalid⟩

/-! ## Tuples -/

/-- A tuple below some bounds is below each of them in its place. -/
theorem mem_allBelow_iff_forall₂ {tuple bounds : List Nat} :
    tuple ∈ allBelow bounds ↔ List.Forall₂ (· < ·) tuple bounds := by
  induction bounds generalizing tuple with
  | nil => rw [allBelow, List.mem_singleton, List.forall₂_nil_right_iff]
  | cons n bounds ih =>
    simp only [allBelow, List.mem_flatMap, List.mem_range, List.mem_map, ih]
    rw [List.forall₂_cons_right_iff]
    constructor
    · rintro ⟨index, hindex, tail, htail, rfl⟩
      exact ⟨index, tail, hindex, htail, rfl⟩
    · rintro ⟨index, tail, hindex, htail, rfl⟩
      exact ⟨index, hindex, tail, htail, rfl⟩

end Plan

/-! ## Samples -/

namespace Profile

/-- Picks for the axes of the profile that between them meet all goals: a row with every feature on
the oldest versions that go together, the early-access Java, the modes of querying, and what
self-hosted runners can do. -/
def samples (profile : Profile) : List (List Nat) :=
  [[5, 0, 0, 0, 0, 0, 0, 0, 2, 1, 1, 1, 1, 1, 1, 0],
    [3, 4, 12, 0, 0, 0, 1, 0, 0, 0, 0, 0, 0, 0, 0, 0],
    [4, 2, 12, 0, 0, 0, 0, 0, 1, 0, 0, 0, 0, 0, 0, 0],
    [4, 3, 12, 0, 0, 0, 0, 0, 3, 0, 0, 0, 0, 0, 0, 0]] ++
  if profile.selfHosted then [[5, 0, 12, 0, 0, 1, 0, 0, 2, 1, 1, 1, 1, 1, 1, 0]] else []

/-- The goals do not depend on the settings of the plan. -/
theorem goals_settings (profile : Profile) (p : Plan) (strict : Bool) (budget : Budget)
    (stream : RandomStream) :
    profile.goals { p with strict, budget, stream } = profile.goals p :=
  rfl

/-- The samples pick settings that there are and that keep the constraints. -/
theorem valid_of_mem_samples (profile : Profile) : ∀ picks ∈ profile.samples,
    List.Forall₂ (· < ·) picks profile.blueprint.sizes ∧
      profile.blueprint.isInvalid picks = false := by
  obtain ⟨_ | _⟩ := profile <;> decide +kernel

/-- Every goal is met by a sample. -/
theorem exists_sample (profile : Profile) : ∀ s ∈ profile.goals profile.blueprint,
    ∃ picks ∈ profile.samples, s.isMatch (profile.blueprint.row picks).assignment = true := by
  obtain ⟨_ | _⟩ := profile <;> decide +kernel

end Profile

namespace Request

variable (r : Request)

/-- Something fits every goal of a request. -/
theorem exists_fits_of_mem_goals :
    ∀ s ∈ r.profile.goals r.plan.1, ∃ picks, r.plan.1.Fits s picks := by
  have hreach : r.plan.1.Reachable := r.reachable_plan.1
  rw [plan_eq] at hreach ⊢
  intro s hs
  rw [Profile.goals_settings] at hs
  obtain ⟨picks, hpicks, hmatch⟩ := r.profile.exists_sample s hs
  obtain ⟨hbelow, hvalid⟩ := r.profile.valid_of_mem_samples picks hpicks
  exact ⟨picks, Plan.fits_settings hreach (Plan.mem_allBelow_iff_forall₂.mpr hbelow) hvalid hmatch⟩

/-- With a budget for all settings of its axes, the plan of a request can be made to cover the
goals. -/
theorem serves_plan (hbudget : Search.prefixCount (r.profile.axes.map fun a => a.settings.length) ≤
    r.budget.maxBacktracks) : r.plan.1.Serves (r.profile.goals r.plan.1) where
  reachable := r.reachable_plan.1
  axes_ne_nil := by
    rw [plan_eq]
    exact List.cons_ne_nil _ _
  affords := by
    rw [plan_eq]
    exact hbudget
  isEmpty_eq_false := r.profile.isEmpty_of_mem_goals r.plan.1
  exists_fits := r.exists_fits_of_mem_goals

/-- The rows of a run keep the constraints of its profile. -/
theorem allKeep_filled : r.filled.AllKeep ∧ r.filled.constraints = r.profile.constraints := by
  have hreach : r.plan.1.Reachable := r.reachable_plan.1
  have hstart : r.plan.1.AllKeep ∧ r.plan.1.constraints = r.profile.constraints := by
    rw [plan_eq]
    exact ⟨fun e he => absurd he List.not_mem_nil, rfl⟩
  obtain ⟨hforced, hsame⟩ := hstart.1.forceAll hreach (r.profile.goals r.plan.1)
  have hcoherent : r.forced.1.Coherent := r.reachable_forced.coherent
  have hfill := Plan.constraints_fill hcoherent r.jobs
  refine ⟨hforced.of_change (Plan.change_act hcoherent (.fill r.jobs)) hfill, ?_⟩
  exact hfill.trans (hsame.trans hstart.2)

/-- With a budget for all settings, the goals are forced without a fault, and the rows of the run
cover them. -/
theorem isCovered_of_budget
    (hbudget : Search.prefixCount (r.profile.axes.map fun a => a.settings.length) ≤
      r.budget.maxBacktracks) :
    ∃ count, r.forced.2 = .ok count ∧
      ∀ s ∈ r.profile.goals r.plan.1, r.filled.isCovered s = true := by
  have hserves := r.serves_plan hbudget
  obtain ⟨count, hcount, hcovered⟩ := hserves.forceAll
  exact ⟨count, hcount, fun s hs => isCovered_filled_of_forced (hcovered s hs)⟩

/-- With a budget for all settings, a run succeeds. -/
theorem exists_report
    (hbudget : Search.prefixCount (r.profile.axes.map fun a => a.settings.length) ≤
      r.budget.maxBacktracks) :
    ∃ report, r.generate = .ok report := by
  obtain ⟨count, hcount, hcovered⟩ := r.isCovered_of_budget hbudget
  have hgoal : Selector.having {} "hash" "same" ∈ r.profile.goals r.plan.1 := by
    simp [Profile.goals, Profile.each]
  -- There are goals, so there are rows.
  have hne : r.filled.entries ≠ [] := Plan.entries_ne_nil_of_isCovered (hcovered _ hgoal)
  have hplan : r.plan.2 = .ok () := by rw [plan_eq]
  exact ⟨_, generate_eq_ok_iff.mpr
    ⟨hplan, count, _, _, hcount, Plan.result_eq_ok_iff.mpr ⟨hne, rfl, rfl⟩, rfl⟩⟩

end Request

/-- A run whose budget has a step for every path of the tree succeeds, whatever its seed, its number
of jobs, its profile and its strictness. For every goal it has a row that matches it, and all of its
rows keep all constraints of the profile. -/
theorem sufficient_budget_covers (r : Request)
    (hbudget : Search.prefixCount (r.profile.axes.map fun a => a.settings.length) ≤
      r.budget.maxBacktracks) :
    ∃ report rows stream, r.generate = .ok report ∧ r.filled.result = .ok (rows, stream) ∧
      report.document.jobs = (Job.ofRows (Text.naturalSort (·.name) rows) stream).1 ∧
      (∀ s ∈ r.profile.goals r.plan.1, ∃ row ∈ rows, s.Matches row.assignment) ∧
      ∀ row ∈ rows, ∀ c ∈ r.profile.constraints, c.isBrokenBy row = false ∧ c.Holds row := by
  obtain ⟨report, hreport⟩ := r.exists_report hbudget
  obtain ⟨-, count, rows, stream, -, hresult, rfl⟩ := Request.generate_eq_ok_iff.mp hreport
  obtain ⟨-, -, hcovered⟩ := r.isCovered_of_budget hbudget
  obtain ⟨hkeep, hconstraints⟩ := r.allKeep_filled
  have hreach : r.filled.Reachable :=
    (Plan.reachable_forceAll r.reachable_plan.1 _).1.act (.fill r.jobs)
  have hrows : r.filled.rows = rows := Plan.rows_of_result hresult
  refine ⟨_, rows, stream, hreport, hresult, rfl, fun s hs => ?_, ?_⟩
  · rw [← hrows]
    exact Plan.isCovered_iff.mp (hcovered s hs)
  · rw [← hrows, ← hconstraints]
    intro row hrow c hc
    obtain ⟨e, he, rfl⟩ := List.mem_map.mp hrow
    have hkept : c.isBrokenBy e.row = false := hkeep e he c hc
    exact ⟨hkept, Plan.holds_of_isBrokenBy hreach.coherent hreach.wellFormed he hc hkept⟩

/-- A strict request for the goals alone, with one search for each row and steps enough, has a row
for the self-hosted runners. -/
theorem sufficient_budget_covers_selfHosted :
    let r : Request :=
      { seed := 1, jobs := 0, profile := ⟨true⟩, strict := true, budget := ⟨1, 42988566⟩ }
    Search.prefixCount (r.profile.axes.map fun a => a.settings.length) = r.budget.maxBacktracks ∧
      ∃ report rows stream, r.generate = .ok report ∧ r.filled.result = .ok (rows, stream) ∧
        (∃ row ∈ rows, (Selector.having {} "os" "self-hosted").Matches row.assignment) ∧
        ∀ row ∈ rows, ∀ c ∈ r.profile.constraints, c.Holds row := by
  intro r
  have hbudget : Search.prefixCount (r.profile.axes.map fun a => a.settings.length) =
      r.budget.maxBacktracks := by decide +kernel
  have hgoal : Selector.having {} "os" "self-hosted" ∈ r.profile.goals r.plan.1 := by
    simp [Profile.goals, Profile.each, r]
  obtain ⟨report, rows, stream, hreport, hresult, -, hcovers, hkeeps⟩ :=
    sufficient_budget_covers r (Nat.le_of_eq hbudget)
  exact ⟨hbudget, report, rows, stream, hreport, hresult, hcovers _ hgoal,
    fun row hrow c hc => (hkeeps row hrow c hc).2⟩

end TestMatrix

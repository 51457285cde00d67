import TestMatrix.Proofs.Plan.Framing
import TestMatrix.Proofs.Request.Growth
import TestMatrix.Proofs.Request.Rows

/-!
# The counts in a report

A report says how many rows the goals took and how many were added to them. The first number is
counted while the goals are forced, the second is what the plan has grown by afterwards, and the
jobs are made of the rows that are there in the end. `Report.Accounts` says what the numbers have to
do with each other and with the searches of the run: a goal counts if no row matched it when its
turn came and a row was found for it (`Plan.gains`), and if fewer rows were added than asked for,
then the searches for one more came to nothing (`Plan.SearchedInVain`). `accounts_exact` says that
this is so in every run.
-/

namespace TestMatrix

namespace Plan

variable {p : Plan} {s : Selector}

/-! ## Counting forced rows -/

/-- Whether forcing a row for the selector adds one: none matches it yet, and the searches find one.
-/
def gains (p : Plan) (s : Selector) : Bool :=
  !p.isCovered s && match (p.search s).ending with
    | .found _ => true
    | _ => false

/-- The selectors that are forced one after the other, each with the plan that it is forced in. -/
def stages : List Selector → Plan → List (Plan × Selector)
  | [], _ => []
  | s :: rest, p => (p, s) :: stages rest (p.force s).1

/-- A row is reported exactly if one is added. -/
theorem force_gains (hempty : s.isEmpty = false) {row : Option Row} (h : (p.force s).2 = .ok row) :
    row.isSome = p.gains s ∧
      (p.force s).1.entries.length = p.entries.length + if p.gains s then 1 else 0 := by
  have hforced := p.forced_force s
  generalize p.force s = outcome at h hforced
  cases hforced with
  | refused hknown => simp at h
  | covered hknown hempty hcovered =>
    obtain rfl : none = row := Except.ok.inj h
    simp [gains, hcovered]
  | made hknown hneeded hending =>
    obtain rfl := Except.ok.inj h
    have hcovered : p.isCovered s = false := hneeded.resolve_left (by simp [hempty])
    simp [gains, hcovered, hending, enter]
  | excused hknown hneeded hending hexcuse =>
    obtain rfl : none = row := Except.ok.inj h
    have hnone : p.gains s = false := by
      cases hcase : (p.search s).ending with
      | found picks => exact absurd hcase (hending picks)
      | exhausted => simp [gains, hcase]
      | outOfBudget => simp [gains, hcase]
    simp [hnone]
  | failed hknown hneeded hending hrepeat hstrict => simp at h

/-- The number that is counted is that of the selectors that add a row, and the plan grows by it. -/
theorem forceAll_count {selectors : List Selector} {count : Nat}
    (hempty : ∀ s ∈ selectors, s.isEmpty = false) (h : (p.forceAll selectors).2 = .ok count) :
    count = (stages selectors p).countP (fun stage => stage.1.gains stage.2) ∧
      (p.forceAll selectors).1.entries.length = p.entries.length + count := by
  induction selectors generalizing p count with
  | nil =>
    obtain rfl : 0 = count := Except.ok.inj h
    exact ⟨rfl, rfl⟩
  | cons s rest ih =>
    rw [List.forall_mem_cons] at hempty
    rw [forceAll_cons] at h ⊢
    cases hforce : (p.force s).2 with
    | error e => simp [hforce] at h
    | ok row =>
      simp only [hforce] at h ⊢
      cases hrest : ((p.force s).1.forceAll rest).2 with
      | error e => simp [hrest, Except.map] at h
      | ok count' =>
        obtain ⟨hrow, hlength⟩ := force_gains hempty.1 hforce
        obtain ⟨hcount, hlength'⟩ := ih hempty.2 hrest
        rw [hrest, hrow] at h
        obtain rfl := Except.ok.inj h
        refine ⟨?_, ?_⟩
        · rw [stages, List.countP_cons, hcount]
        · rw [hlength', hlength]
          dsimp only
          omega

/-- That a plan has no rows is not what the forcing of a row reports. -/
theorem forceAll_ne_noRows (selectors : List Selector) (p : Plan) :
    (p.forceAll selectors).2 ≠ .error .noRows := by
  induction selectors generalizing p with
  | nil => simp [forceAll]
  | cons s rest ih =>
    rw [forceAll_cons]
    have hforced := p.forced_force s
    generalize p.force s = outcome at hforced
    cases hforced with
    | refused hknown => simp
    | failed hknown hneeded hending hrepeat hstrict => simp
    | covered hknown hempty hcovered => exact mt map_eq_error_iff.mp (ih _)
    | made hknown hneeded hending => exact mt map_eq_error_iff.mp (ih _)
    | excused hknown hneeded hending hexcuse => exact mt map_eq_error_iff.mp (ih _)

/-! ## Filling a plan short -/

/-- If a plan is filled up with fewer rows than asked for, then the searches that moved its stream
last, from where it was at `start`, did not find one. -/
theorem exists_search_of_short (count : Nat) (p : Plan)
    (h : (p.fill count).entries.length < p.entries.length + count) :
    ∃ start, (p.fill count).stream =
        ({ p.fill count with stream := start }.search {}).tally.stream ∧
      ∀ picks, ({ p.fill count with stream := start }.search {}).ending ≠ .found picks := by
  -- As long as rows are found, none is missing; the first search in vain is the last of all.
  induction count generalizing p with
  | zero => exact absurd h (Nat.lt_irrefl _)
  | succ count ih =>
    rcases p.search_found_or_not {} with ⟨picks, hpicks⟩ | hnone
    · rw [fill_of_found count hpicks] at h ⊢
      refine ih _ (h.trans_eq ?_)
      show _ = (p.entries ++ [p.entryOf picks]).length + count
      rw [List.length_append, List.length_singleton]
      omega
    · rw [fill_of_not_found count hnone]
      exact ⟨p.stream, rfl, hnone⟩

/-- The last searches of the plan, which began at `start` and moved the stream to where it is, were
made for any row that the plan does not have. Either the last of them went through the whole space,
and no valid picks are left, or they were as many as may be made, one after the other, and each ran
out of budget. -/
def SearchedInVain (p : Plan) (start : RandomStream) : Prop :=
  let q := { p with stream := start }
  p.stream = (q.search {}).tally.stream ∧
    ((∃ last, (q.searchStarts {}).getLast? = some last ∧
        (Search.run (q.problem {}) p.budget.maxBacktracks last).ending = .exhausted ∧
        p.remaining = []) ∨
      (q.searchStarts {}).length = max p.budget.maxAttempts 1 ∧
        ∀ stream ∈ q.searchStarts {},
          (Search.run (q.problem {}) p.budget.maxBacktracks stream).ending = .outOfBudget)

/-- The searches for one row end as the last of them does. -/
theorem exists_last_search (p : Plan) (s : Selector) :
    ∃ last, (p.searchStarts s).getLast? = some last ∧ (p.search s).ending =
      (Search.run (p.problem s) p.budget.maxBacktracks last).ending :=
  Search.exists_last_start (Nat.le_max_right p.budget.maxAttempts 1) p.stream false

/-- A plan with axes is filled up as far as asked for, unless searches were in vain. -/
theorem searchedInVain_of_short {count : Nat} (hfilled : (p.fill count).Coherent)
    (haxes : (p.fill count).axes ≠ [])
    (h : (p.fill count).entries.length < p.entries.length + count) :
    ∃ start, (p.fill count).SearchedInVain start := by
  obtain ⟨start, hstream, hnone⟩ := exists_search_of_short count p h
  refine ⟨start, hstream, ?_⟩
  generalize p.fill count = q at *
  cases hending : ({ q with stream := start }.search {}).ending with
  | found picks => exact absurd hending (hnone picks)
  | exhausted =>
    obtain ⟨last, hlast, hend⟩ := exists_last_search { q with stream := start } {}
    have hexhausted := hend.symm.trans hending
    refine .inl ⟨last, hlast, hexhausted, ?_⟩
    have hleft := remainingFor_eq_nil (hfilled.of_stream start) haxes hexhausted
    rwa [remainingFor_of_isEmpty rfl] at hleft
  | outOfBudget => exact .inr (Search.retry_outOfBudget hending)

end Plan

/-! ## The counts of a run -/

/-- What the counts in the report of a run say. -/
structure Report.Accounts (report : Report) (r : Request) : Prop where
  /-- Both counts together are the number of jobs. -/
  forced_add_random : report.forced + report.random = report.total
  /-- Every row is made into a job. -/
  total_eq : report.total = r.filled.rows.length
  /-- The rows that are there before the plan is filled up are the forced ones. -/
  forced_eq_length : report.forced = r.forced.1.rows.length
  /-- The goals that count are those that no earlier row matched and that a row was found for. -/
  forced_eq_countP : report.forced = (Plan.stages (r.profile.goals r.plan.1) r.plan.1).countP
    fun stage => stage.1.gains stage.2
  /-- The plan does not shrink while it is filled up, so nothing is lost in the difference. -/
  length_le : r.forced.1.entries.length ≤ r.filled.entries.length
  /-- No more rows are added than are asked for. -/
  random_le : report.random ≤ r.jobs
  /-- The plan may search as much as the request says. -/
  budget_eq : r.filled.budget = r.budget
  /-- If fewer rows were added than asked for, then there was no other way. -/
  searchedInVain : report.random < r.jobs → ∃ start, r.filled.SearchedInVain start

namespace Request

variable {r : Request} {report : Report}

theorem axes_filled_ne_nil (r : Request) : r.filled.axes ≠ [] := by
  obtain ⟨added, stream, hfilled⟩ := r.filled_eq
  rw [hfilled]
  exact List.cons_ne_nil _ _

theorem budget_filled (r : Request) : r.filled.budget = r.budget := by
  obtain ⟨added, stream, hfilled⟩ := r.filled_eq
  rw [hfilled]

/-- A run without rows fails, if nothing else is wrong. -/
theorem generate_eq_noRows_iff : r.generate = .error .noRows ↔
    (∃ count, r.forced.2 = .ok count) ∧ r.filled.rows = [] := by
  have hlaid : r.plan.2.mapError PlanError.config = .ok () := by
    rw [plan_eq]
    rfl
  have hforced : r.forced.2 ≠ .error .noRows := Plan.forceAll_ne_noRows _ _
  have hempty : r.filled.result = .error .noRows ↔ r.filled.rows = [] := by
    rw [Plan.result, Plan.rows, List.map_eq_nil_iff]
    cases r.filled.entries <;> simp
  simp only [generate, bind_eq_error_iff]
  constructor
  -- Of the steps of a run only the last one reports that there are no rows.
  · rintro (h | ⟨-, -, h | ⟨count, hcount, h | ⟨_, -, h⟩⟩⟩)
    · exact absurd (hlaid.symm.trans h) (by simp)
    · exact absurd h hforced
    · exact ⟨⟨count, hcount⟩, hempty.mp h⟩
    · exact absurd h (by simp [pure, Except.pure])
  · rintro ⟨⟨count, hcount⟩, hrows⟩
    exact .inr ⟨(), hlaid, .inr ⟨count, hcount, .inl (hempty.mpr hrows)⟩⟩

/-- The counts of a run are exact. -/
theorem accounts_of_generate (h : r.generate = .ok report) : report.Accounts r := by
  have htotal : report.total = r.filled.rows.length := by
    simpa [Report.total] using (map_bare_jobs h).length_eq
  obtain ⟨-, count, rows, stream, hcount, -, rfl⟩ := generate_eq_ok_iff.mp h
  obtain ⟨hcountP, hlength⟩ :=
    Plan.forceAll_count (r.profile.isEmpty_of_mem_goals r.plan.1) hcount
  -- The plan starts without rows, so what has been forced is all there is before the filling.
  have hforced : count = r.forced.1.entries.length := by
    rw [forced, hlength, plan_eq]
    exact (Nat.zero_add count).symm
  have hle : r.forced.1.entries.length ≤ r.filled.entries.length :=
    (r.reachable_forced.entries_act (.fill r.jobs)).length_le
  have hrows : ∀ p : Plan, p.rows.length = p.entries.length := fun p => List.length_map _
  refine ⟨?_, htotal, by rw [hrows, ← hforced], hcountP, hle, ?_, r.budget_filled,
    fun hshort => ?_⟩
  · rw [htotal, hrows]
    show count + (r.filled.entries.length - r.forced.1.entries.length) = _
    omega
  · have hfill := Plan.length_fill_le r.jobs r.forced.1
    exact Nat.sub_le_iff_le_add'.mpr hfill
  · refine Plan.searchedInVain_of_short r.reachable_filled.coherent r.axes_filled_ne_nil ?_
    exact (Nat.sub_lt_iff_lt_add' hle).mp hshort

end Request

/-- The counts of a run that succeeds are exact, and a run that goes on to its end without a row is
the only one that fails for want of rows. -/
theorem accounts_exact :
    (∀ (r : Request) (report : Report), r.generate = .ok report → report.Accounts r) ∧
    ∀ r : Request, r.generate = .error .noRows ↔
      (∃ count, r.forced.2 = .ok count) ∧ r.filled.rows = [] :=
  ⟨fun _ _ => Request.accounts_of_generate, fun _ => Request.generate_eq_noRows_iff⟩

/-- A request for nothing but the goals has as many jobs as there are forced rows. -/
theorem accounts_exact_goals :
    let r : Request := { seed := 1, jobs := 0 }
    ∃ report, r.generate = .ok report ∧ report.Accounts r ∧ report.forced = 7 ∧
      report.random = 0 ∧ report.total = 7 := by
  intro r
  obtain ⟨report, h, hforced⟩ := exists_report_goals
  have haccounts := accounts_exact.1 r report h
  have hrandom : report.random = 0 := Nat.le_zero.mp haccounts.random_le
  have htotal := haccounts.forced_add_random
  exact ⟨report, h, haccounts, hforced, hrandom, by omega⟩

end TestMatrix

import TestMatrix.Proofs.Plan.Forcing
import TestMatrix.Proofs.Plan.Validity
import TestMatrix.Run

/-!
# Goals of a run

A run lays its matrix down in a new plan, forces a row for each goal and fills the plan up. All of
that is done by operations on the plan, so the plan stays reachable (`reachable_plan`,
`reachable_forceAll`), and rows that it has once are kept. A strict run that succeeds has forced
every goal without a fault, and therefore has a row for each (`strict_success_covers`).
-/

namespace TestMatrix

variable {p q : Plan}

/-! ## Laying the matrix down -/

/-- What every step keeps, also one that fails, is kept by all that are taken. -/
theorem Profile.takeSteps_induct {motive : Plan → Prop}
    {steps : List (Plan → Plan × Except ConfigError Unit)}
    (hsteps : ∀ step ∈ steps, ∀ p, motive p → motive (step p).1) (hp : motive p) :
    motive (takeSteps steps p).1 := by
  induction steps generalizing p with
  | nil => exact hp
  | cons step rest ih =>
    rw [List.forall_mem_cons] at hsteps
    have hkept := hsteps.1 p hp
    rw [takeSteps]
    generalize step p = outcome at hkept ⊢
    obtain ⟨q, e | ⟨⟩⟩ := outcome
    -- The step was refused and is the last one; what it leaves has been kept as well.
    · exact hkept
    · exact ih hsteps.2 hkept

/-- Every step of a profile is an operation on the plan that leaves its settings alone. -/
theorem Profile.action_of_mem_steps (profile : Profile) :
    ∀ step ∈ profile.steps, ∀ p,
      (∃ action, (step p).1 = p.act action) ∧ (step p).1.strict = p.strict := by
  intro step hstep p
  simp only [steps, List.mem_append, List.mem_map, List.mem_singleton] at hstep
  rcases hstep with (⟨a, -, rfl⟩ | rfl) | ⟨c, -, rfl⟩
  · exact ⟨⟨.insertAxis a, rfl⟩, (Plan.insertAxis_refusesUnless p a).induct
      (motive := fun q => q.strict = p.strict) rfl fun _ => rfl⟩
  · exact ⟨⟨.nameBy nameAxes, rfl⟩, (Plan.nameBy_refusesUnless p nameAxes).induct
      (motive := fun q => q.strict = p.strict) rfl fun _ => rfl⟩
  · exact ⟨⟨.constrain c, rfl⟩, (Plan.constrain_refusesUnless p c).induct
      (motive := fun q => q.strict = p.strict) rfl fun _ => rfl⟩

/-- The plan of a request is made by operations, and it is as strict as the request says. -/
theorem Request.reachable_plan (r : Request) : r.plan.1.Reachable ∧ r.plan.1.strict = r.strict := by
  have hnew : (Plan.ofSeed r.seed).Reachable := Plan.reachable_after (.ofSeed r.seed) []
  have hstart := (hnew.act (.setStrict r.strict)).act (.setBudget r.budget)
  refine Profile.takeSteps_induct (motive := fun p => p.Reachable ∧ p.strict = r.strict) ?_
    ⟨hstart, rfl⟩
  rintro step hstep p ⟨hp, hstrict⟩
  obtain ⟨⟨action, haction⟩, hsame⟩ := r.profile.action_of_mem_steps step hstep p
  exact ⟨haction ▸ hp.act action, hsame.trans hstrict⟩

/-! ## Forcing all goals -/

namespace Plan

/-- Operations leave the rows of a plan where they are. -/
theorem Reachable.entries_act (hp : p.Reachable) (action : Action) :
    p.entries <+: (p.act action).entries := by
  obtain ⟨added, hentries, -⟩ := (change_act hp.coherent action).entries
  rw [hentries]
  exact List.prefix_append _ _

/-- What is covered by the first rows of a plan is covered. -/
theorem isCovered_mono {s : Selector} (hentries : p.entries <+: q.entries)
    (h : p.isCovered s = true) : q.isCovered s = true := by
  obtain ⟨r, hr, hmatch⟩ := isCovered_iff.mp h
  have hrows : p.rows <+: q.rows := hentries.map Entry.row
  exact isCovered_iff.mpr ⟨r, hrows.mem hr, hmatch⟩

/-- Only a plan with rows covers anything. -/
theorem entries_ne_nil_of_isCovered {s : Selector} (h : p.isCovered s = true) : p.entries ≠ [] := by
  obtain ⟨r, hr, -⟩ := isCovered_iff.mp h
  obtain ⟨e, he, -⟩ := List.mem_map.mp hr
  exact List.ne_nil_of_mem he

/-- Forcing a row leaves a plan as strict as it was. -/
theorem strict_force (p : Plan) (s : Selector) : (p.force s).1.strict = p.strict := by
  have hforced := p.forced_force s
  generalize p.force s = outcome at hforced ⊢
  cases hforced <;> rfl

/-- The first selector is forced, and unless that fails the others are. -/
theorem forceAll_cons (p : Plan) (s : Selector) (rest : List Selector) :
    p.forceAll (s :: rest) = match (p.force s).2 with
      | .error e => ((p.force s).1, .error e)
      | .ok row => (((p.force s).1.forceAll rest).1,
          ((p.force s).1.forceAll rest).2.map (· + if row.isSome then 1 else 0)) := by
  rw [forceAll]
  rcases p.force s with ⟨q, e | row⟩
  · rfl
  · dsimp only
    rcases q.forceAll rest with ⟨q', e | count⟩ <;> rfl

/-- Forcing rows is a sequence of operations, whether or not it fails on the way. -/
theorem reachable_forceAll (hp : p.Reachable) (selectors : List Selector) :
    (p.forceAll selectors).1.Reachable ∧ p.entries <+: (p.forceAll selectors).1.entries := by
  induction selectors generalizing p with
  | nil => exact ⟨hp, List.prefix_rfl⟩
  | cons s rest ih =>
    have hq : (p.force s).1.Reachable := hp.act (.force s)
    have hentries : p.entries <+: (p.force s).1.entries := hp.entries_act (.force s)
    rw [forceAll_cons]
    cases (p.force s).2 with
    | error e => exact ⟨hq, hentries⟩
    | ok row => exact ⟨(ih hq).1, hentries.trans (ih hq).2⟩

/-- In a strict plan, selectors that were forced without a fault are covered in the end. -/
theorem isCovered_of_forceAll {selectors : List Selector} {count : Nat} (hp : p.Reachable)
    (hstrict : p.strict = true) (hempty : ∀ s ∈ selectors, s.isEmpty = false)
    (h : (p.forceAll selectors).2 = .ok count) :
    ∀ s ∈ selectors, (p.forceAll selectors).1.isCovered s = true := by
  induction selectors generalizing p count with
  | nil => simp
  | cons s rest ih =>
    have hq : (p.force s).1.Reachable := hp.act (.force s)
    have hstrict' : (p.force s).1.strict = true := (strict_force p s).trans hstrict
    rw [List.forall_mem_cons] at hempty ⊢
    rw [forceAll_cons] at h ⊢
    cases hforce : (p.force s).2 with
    | error e => simp [hforce] at h
    | ok row =>
      simp only [hforce] at h ⊢
      cases hrest : ((p.force s).1.forceAll rest).2 with
      | error e => simp [hrest, Except.map] at h
      | ok count' =>
        -- The row that covers the first selector is kept while the others are forced.
        have hcovered := isCovered_of_force hp hstrict hempty.1 hforce
        exact ⟨isCovered_mono (reachable_forceAll hq rest).2 hcovered,
          ih hq hstrict' hempty.2 hrest⟩

end Plan

/-! ## Goals -/

/-- No goal is met by every row: each names an axis. -/
theorem Profile.isEmpty_of_mem_each {axis : String} {tokens : List String} :
    ∀ s ∈ each axis tokens, s.isEmpty = false := by
  intro s hs
  obtain ⟨token, -, rfl⟩ := List.mem_map.mp hs
  rfl

/-- Every goal names an axis. -/
theorem Profile.isEmpty_of_mem_goals (profile : Profile) (plan : Plan) :
    ∀ s ∈ profile.goals plan, s.isEmpty = false := by
  have heach : ∀ {axis tokens}, ∀ s ∈ each axis tokens, s.isEmpty = false := isEmpty_of_mem_each
  have hself : ∀ s ∈ if profile.selfHosted then each "os" ["self-hosted"] else [],
      s.isEmpty = false := by
    split
    · exact heach
    · simp
  simp only [goals, List.forall_mem_append]
  refine ⟨⟨⟨⟨⟨⟨⟨⟨⟨heach, heach⟩, heach⟩, heach⟩, heach⟩, heach⟩, heach⟩, heach⟩, hself⟩, ?_⟩
  intro s hs
  obtain ⟨axis, -, hs⟩ := List.mem_flatMap.mp hs
  exact heach s hs

namespace Request

/-- The plan of a run when all goals have been forced, with how many rows that took. -/
def forced (r : Request) : Plan × Except PlanError Nat :=
  r.plan.1.forceAll (r.profile.goals r.plan.1)

/-- The plan of a run with all of its rows. -/
def filled (r : Request) : Plan := r.forced.1.fill r.jobs

/-- A run succeeds if the matrix can be laid down and every goal is forced without a fault, and
there is a row in the end. -/
theorem generate_eq_ok_iff {r : Request} {report : Report} : r.generate = .ok report ↔
    r.plan.2 = .ok () ∧ ∃ count rows stream, r.forced.2 = .ok count ∧
      r.filled.result = .ok (rows, stream) ∧ report =
        { seed := r.seed
          forced := count
          random := r.filled.entries.length - r.forced.1.entries.length
          document := ⟨(Job.ofRows (Text.naturalSort (·.name) rows) stream).1⟩ } := by
  have hplan : r.plan.2.mapError PlanError.config = .ok () ↔ r.plan.2 = .ok () :=
    mapError_eq_ok_iff
  simp only [generate, bind_eq_ok_iff, forced, filled, ← hplan]
  constructor
  · rintro ⟨_, hlaid, count, hcount, ⟨rows, stream⟩, hrows, hreport⟩
    exact ⟨hlaid, count, rows, stream, hcount, hrows, (Except.ok.inj hreport).symm⟩
  · rintro ⟨hlaid, count, rows, stream, hcount, hrows, rfl⟩
    exact ⟨(), hlaid, count, hcount, (rows, stream), hrows, rfl⟩

end Request

/-- The plan of a run is made by operations. -/
theorem Request.reachable_forced (r : Request) : r.forced.1.Reachable :=
  (Plan.reachable_forceAll r.reachable_plan.1 _).1

/-- The plan of a run, with all its rows, is reachable. -/
theorem Request.reachable_filled (r : Request) : r.filled.Reachable :=
  r.reachable_forced.act (.fill r.jobs)

/-- Filling the plan up keeps what has been covered before. -/
theorem Request.isCovered_filled_of_forced {r : Request} {s : Selector}
    (h : r.forced.1.isCovered s = true) : r.filled.isCovered s = true :=
  Plan.isCovered_mono (r.reachable_forced.entries_act (.fill r.jobs)) h

/-- A strict run that forces all goals without a fault has a row for each of them. -/
theorem Request.isCovered_filled {r : Request} (hstrict : r.strict = true) {count : Nat}
    (h : r.forced.2 = .ok count) : ∀ s ∈ r.profile.goals r.plan.1, r.filled.isCovered s = true := by
  obtain ⟨hp, hsame⟩ := r.reachable_plan
  intro s hs
  have hgoals := r.profile.isEmpty_of_mem_goals r.plan.1
  exact isCovered_filled_of_forced
    (Plan.isCovered_of_forceAll hp (hsame.trans hstrict) hgoals h s hs)

/-- Success means coverage if the plan is strict, whatever the budget and the stream. A selector
that names an axis and is forced without a fault is matched by a row afterwards, and while it is
not, the searches come to no repeated tuple that would excuse them. So a strict run that succeeds
has a row for every goal. -/
theorem strict_success_covers :
    (∀ p : Plan, p.Reachable → p.strict = true → ∀ s : Selector, s.isEmpty = false →
      (p.Knows s → p.isCovered s = false → (p.search s).tally.sawRepeat = false) ∧
      ∀ result, (p.force s).2 = .ok result →
        ∃ row ∈ (p.force s).1.rows, s.Matches row.assignment) ∧
    ∀ r : Request, r.strict = true → ∀ report, r.generate = .ok report →
      ∃ rows stream, r.filled.result = .ok (rows, stream) ∧
        report.document.jobs = (Job.ofRows (Text.naturalSort (·.name) rows) stream).1 ∧
        ∀ s ∈ r.profile.goals r.plan.1, ∃ row ∈ rows, s.Matches row.assignment := by
  refine ⟨fun p hp hstrict s hempty => ⟨?_, fun result hforce => ?_⟩, ?_⟩
  · exact Plan.sawRepeat_of_not_covered hp.coherent hp.wellFormed
  · exact Plan.isCovered_iff.mp (Plan.isCovered_of_force hp hstrict hempty hforce)
  · intro r hstrict report hreport
    obtain ⟨-, count, rows, stream, hcount, hresult, rfl⟩ := Request.generate_eq_ok_iff.mp hreport
    refine ⟨rows, stream, hresult, rfl, fun s hs => ?_⟩
    -- What is covered before the filling stays so, as rows are only added.
    rw [← Plan.rows_of_result hresult]
    exact Plan.isCovered_iff.mp (Request.isCovered_filled hstrict hcount s hs)

/-- The rows of the small plan all have `gss` on, until one with `gss` off is forced. -/
theorem strict_success_covers_encryption :
    let p := Plan.encryption.act (.setStrict true)
    let s := Selector.having {} "gss" "off"
    p.Reachable ∧ p.strict = true ∧ s.isEmpty = false ∧ p.Knows s ∧ p.isCovered s = false ∧
      (p.search s).tally.sawRepeat = false ∧ (p.force s).2 = .ok (some (p.row [0, 1])) ∧
      ∃ row ∈ (p.force s).1.rows, s.Matches row.assignment := by
  intro p s
  have hp : p.Reachable := Plan.reachable_encryption.act _
  have hknown : p.Knows s := by decide +kernel
  have hcovered : p.isCovered s = false := by decide +kernel
  have hending : (p.search s).ending = .found [0, 1] := by decide +kernel
  have hforce : (p.force s).2 = .ok (some (p.row [0, 1])) := by
    rw [Plan.force_of_found hknown (.inr hcovered) hending]
  obtain ⟨hrepeat, hcovers⟩ := strict_success_covers.1 p hp rfl s rfl
  exact ⟨hp, rfl, rfl, hknown, hcovered, hrepeat hknown hcovered, hforce, hcovers _ hforce⟩

end TestMatrix

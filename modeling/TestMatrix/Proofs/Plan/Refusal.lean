import TestMatrix.Proofs.Plan.Picks

/-!
# Operations that may be refused

What is laid down in a plan is checked first, and what does not pass is refused. Each of the three
operations passes the plan on through its checks and updates, and `RefusesUnless` says what comes of
that: which condition all the checks amount to, that a refusal leaves the plan as it was however far
the checks had come, and which plan is left otherwise. It is shown once for each operation
(`insertAxis_refusesUnless`, `constrain_refusesUnless`, `nameBy_refusesUnless`), and whatever is
said of their refusals and successes later on is read off there.
-/

namespace TestMatrix

/-! ## What is let through -/

section Except

variable {ε ε' α β : Type} {x : Except ε α}

/-- A sequence of two steps succeeds if both do. -/
theorem bind_eq_ok_iff {f : α → Except ε β} {b : β} :
    x >>= f = .ok b ↔ ∃ a, x = .ok a ∧ f a = .ok b := by
  cases x <;> simp [bind, Except.bind]

/-- It fails as the first step does, or as the second one if the first succeeds. -/
theorem bind_eq_error_iff {f : α → Except ε β} {e : ε} :
    x >>= f = .error e ↔ x = .error e ∨ ∃ a, x = .ok a ∧ f a = .error e := by
  cases x <;> simp [bind, Except.bind]

/-- What is made of a result afterwards does not change how a step fails. -/
theorem map_eq_error_iff {f : α → β} {e : ε} : x.map f = .error e ↔ x = .error e := by
  cases x <;> simp [Except.map]

/-- Telling a fault in other words does not let anything through. -/
theorem mapError_eq_ok_iff {f : ε → ε'} {a : α} : x.mapError f = .ok a ↔ x = .ok a := by
  cases x <;> simp [Except.mapError]

/-- A fault that is told in other words was there before. -/
theorem mapError_eq_error_iff {f : ε → ε'} {e : ε'} :
    x.mapError f = .error e ↔ ∃ e', x = .error e' ∧ f e' = e := by
  cases x <;> simp [Except.mapError]

/-- A result that is there is that of a success. -/
theorem eq_ok_of_toOption {a : α} (h : x.toOption = some a) : x = .ok a := by
  cases x with
  | error e => exact absurd h (by simp [Except.toOption])
  | ok b => rw [Option.some.inj h]

end Except

namespace Plan

variable {p q r : Plan} {condition : Prop} {s : Selector}

/-! ## Refusals -/

/-- What comes of an operation that is refused unless a condition holds, and leads to `q` if it
does. -/
inductive RefusesUnless (p : Plan) (condition : Prop) (q : Plan) :
    Plan × Except ConfigError Unit → Prop
  /-- The plan itself is left. -/
  | refused {e : ConfigError} (h : ¬condition) : RefusesUnless p condition q (p, .error e)
  | done (h : condition) : RefusesUnless p condition q (q, .ok ())

namespace RefusesUnless

variable {x : Plan × Except ConfigError Unit}

/-- A refusal leaves the plan as it was. -/
theorem eq_of_error {e : ConfigError} (h : p.RefusesUnless condition q x) (he : x.2 = .error e) :
    x.1 = p := by
  cases h with
  | refused hnot => rfl
  | done hcondition => exact absurd he (by simp)

/-- The condition decides whether there is a refusal. -/
theorem exists_error_iff (h : p.RefusesUnless condition q x) :
    (∃ e, x.2 = .error e) ↔ ¬condition := by
  cases h with
  | refused hnot => exact iff_of_true ⟨_, rfl⟩ hnot
  | done hcondition => simp [hcondition]

/-- There is but one plan that a success leads to. -/
theorem eq_ok_iff (h : p.RefusesUnless condition q x) : x = (r, .ok ()) ↔ condition ∧ r = q := by
  cases h with
  | refused hnot => simp [hnot]
  | done hcondition => simp [hcondition, eq_comm]

/-- What holds of the plan, and of the other one under the condition, holds of the plan that is
left. -/
theorem induct {motive : Plan → Prop} (h : p.RefusesUnless condition q x) (hp : motive p)
    (hq : condition → motive q) : motive x.1 := by
  cases h with
  | refused hnot => exact hp
  | done hcondition => exact hq hcondition

end RefusesUnless

/-! ## Axes -/

/-- An axis is refused unless it is sound, its name is new and there are no rows. -/
theorem insertAxis_refusesUnless (p : Plan) (a : Axis) :
    p.RefusesUnless (a.check = .ok () ∧ p.axisIndex? a.name = none ∧ p.entries = [])
      { p with axes := p.axes ++ [a], positions := p.positions.put a.name p.axes.length }
      (p.insertAxis a) := by
  rw [insertAxis]
  -- One case for each check that may fail, in the order in which they are made.
  cases hcheck : a.check with
  | error e => exact .refused (by simp)
  | ok u =>
    by_cases hindex : (p.axisIndex? a.name).isSome = true
    · rw [if_pos hindex]
      exact .refused fun h => by simp [h.2.1] at hindex
    · rw [if_neg hindex]
      cases hentries : p.entries with
      | nil => exact .done ⟨rfl, by simpa using hindex, rfl⟩
      | cons e entries => exact .refused (by simp)

/-! ## Constraints -/

/-- Selectors are let through one after the other exactly if the plan has all of their axes. -/
theorem forM_requireAxes_eq_ok_iff (p : Plan) (context : String) (selectors : List Selector) :
    selectors.forM (p.requireAxes context) = .ok () ↔ ∀ s ∈ selectors, p.Knows s := by
  induction selectors with
  | nil => simp [pure, Except.pure]
  | cons s selectors ih =>
    have hcons : (s :: selectors).forM (p.requireAxes context) = .ok () ↔
        ∃ u, p.requireAxes context s = .ok u ∧ selectors.forM (p.requireAxes context) = .ok () :=
      bind_eq_ok_iff
    rw [hcons, List.forall_mem_cons, ← ih, ← requireAxes_eq_ok_iff p context s]
    exact ⟨fun ⟨⟨⟩, hs, hrest⟩ => ⟨hs, hrest⟩, fun ⟨hs, hrest⟩ => ⟨(), hs, hrest⟩⟩

/-- A constraint is refused if it excludes everything, or names an axis that is not there. -/
theorem constrain_refusesUnless (p : Plan) (c : Constraint) :
    p.RefusesUnless (requireScope c = .ok () ∧ ∀ s ∈ c.selectors, p.Knows s)
      { p with constraints := p.constraints ++ [c] } (p.constrain c) := by
  rw [constrain, ← forM_requireAxes_eq_ok_iff p c.text]
  cases hscope : requireScope c with
  | error e => exact .refused (by simp)
  | ok u =>
    cases hknown : c.selectors.forM (p.requireAxes c.text) with
    | error e => exact .refused (by simp)
    | ok u => exact .done ⟨rfl, rfl⟩

/-! ## Names -/

/-- The position of an axis is looked up with success exactly if the plan has the axis. -/
theorem patternIndex_eq_ok_iff {name : String} {i : Nat} :
    p.patternIndex name = .ok i ↔ p.axisIndex? name = some i := by
  rw [patternIndex]
  cases p.axisIndex? name <;> simp

/-- A name pattern is let through exactly if the plan has all of its axes, and refers to them. -/
theorem mapM_patternIndex_eq_ok_iff {names : List String} {pattern : List Nat} :
    names.mapM p.patternIndex = .ok pattern ↔
      (∀ name ∈ names, (p.axisIndex? name).isSome = true) ∧
        pattern = names.filterMap p.axisIndex? := by
  induction names generalizing pattern with
  | nil =>
    rw [List.mapM_nil, List.filterMap_nil]
    simp [pure, Except.pure]
  | cons name names ih =>
    rw [List.mapM_cons]
    simp only [bind_eq_ok_iff, patternIndex_eq_ok_iff, ih, List.forall_mem_cons]
    cases hname : p.axisIndex? name with
    | none => simp
    | some i =>
      rw [List.filterMap_cons_some hname]
      simp [pure, Except.pure, eq_comm (a := pattern)]

/-- A name pattern is refused unless the plan has all of its axes. -/
theorem nameBy_refusesUnless (p : Plan) (names : List String) :
    p.RefusesUnless (∀ name ∈ names, (p.axisIndex? name).isSome = true)
      { p with namePattern := some (names.filterMap p.axisIndex?) } (p.nameBy names) := by
  rw [nameBy]
  cases hpattern : names.mapM p.patternIndex with
  | error e =>
    -- If all names were known, the look-ups would have gone through.
    refine .refused fun h => ?_
    rw [mapM_patternIndex_eq_ok_iff.mpr ⟨h, rfl⟩] at hpattern
    simp at hpattern
  | ok pattern =>
    obtain ⟨hnames, rfl⟩ := mapM_patternIndex_eq_ok_iff.mp hpattern
    exact .done hnames

end Plan

end TestMatrix

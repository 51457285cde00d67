import TestMatrix.Proofs.Plan.Validity

/-!
# Constraints that come late

A plan that has rows takes no further axis, but it takes constraints at any time, and the rows that
it has are not looked at again. So of all operations the adding of a constraint is the only one that
can leave a plan with rows that break its constraints, and it does so just if a row breaks the new
one (`allKeep_act_iff`). What has been broken once stays broken, because neither rows nor
constraints are ever taken away. All rows of a plan therefore keep all of its constraints exactly if
none of the constraints came too late for a row (`allKeep_iff_spares`).
-/

namespace TestMatrix.Plan

variable {p q : Plan}

/-- If the operation adds a constraint to the plan, then no row of the plan breaks it. -/
def Spares (p : Plan) (action : Action) : Prop :=
  ∀ c, action = .constrain c → (p.constrain c).2 = .ok () →
    ∀ e ∈ p.entries, c.isBrokenBy e.row = false

/-! ## One operation -/

/-- A constraint that is added is all that rows may break afterwards, and one that is refused is of
no account. -/
theorem allKeep_constrain_iff (c : Constraint) : (p.constrain c).1.AllKeep ↔
    p.AllKeep ∧ ((p.constrain c).2 = .ok () → ∀ e ∈ p.entries, c.isBrokenBy e.row = false) := by
  have hconstrain := constrain_refusesUnless p c
  generalize p.constrain c = outcome at hconstrain ⊢
  cases hconstrain with
  | refused hnot => simp
  | done hadmitted =>
    simp only [AllKeep, Keeps, List.forall_mem_append, List.forall_mem_singleton, forall_and,
      forall_const]

/-- Neither rows nor constraints are taken away. -/
theorem Change.allKeep {s : Selector} (h : p.Change s q) (hq : q.AllKeep) : p.AllKeep := by
  intro e he c hc
  cases h with
  | axis => exact hq e he c hc
  | constraint => exact hq e he c (List.mem_append_left _ hc)
  | pattern => exact hq e he c hc
  | settings => exact hq e he c hc
  | rows => exact hq e (List.mem_append_left _ he) c hc

/-- Only the adding of a constraint adds one. -/
theorem constraints_act (hp : p.Coherent) {action : Action} (h : ∀ c, action ≠ .constrain c) :
    (p.act action).constraints = p.constraints := by
  cases action with
  | constrain c => exact absurd rfl (h c)
  | insertAxis a =>
    exact (insertAxis_refusesUnless p a).induct
      (motive := fun q => q.constraints = p.constraints) rfl fun _ => rfl
  | nameBy names =>
    exact (nameBy_refusesUnless p names).induct
      (motive := fun q => q.constraints = p.constraints) rfl fun _ => rfl
  | setStrict strict => rfl
  | setBudget budget => rfl
  | setStream stream => rfl
  | force s => exact constraints_force hp s
  | fill count => exact constraints_fill hp count

/-- All rows keep the constraints after an operation exactly if they did so before, and it adds none
that one of them breaks. -/
theorem allKeep_act_iff (hp : p.Coherent) (action : Action) :
    (p.act action).AllKeep ↔ p.AllKeep ∧ p.Spares action := by
  have hchange := change_act hp action
  -- Only a further constraint can be broken by the rows there are.
  by_cases hconstrain : ∃ c, action = .constrain c
  · obtain ⟨c, rfl⟩ := hconstrain
    rw [act, allKeep_constrain_iff]
    refine and_congr_right fun _ => ⟨fun hrows c' heq => ?_, fun hspares => hspares c rfl⟩
    obtain rfl := Action.constrain.inj heq
    exact hrows
  · have hother : ∀ c, action ≠ .constrain c := not_exists.mp hconstrain
    have hspares : p.Spares action := fun c heq => absurd heq (hother c)
    rw [and_iff_left hspares]
    exact ⟨hchange.allKeep, fun h => h.of_change hchange (constraints_act hp hother)⟩

/-! ## Any number of operations -/

/-- All rows keep the constraints in the end exactly if no constraint was added that a row broke. -/
theorem allKeep_after_iff (stream : RandomStream) (actions : List Action) :
    ((ofStream stream).after actions).AllKeep ↔ ∀ before action rest,
      actions = before ++ action :: rest → ((ofStream stream).after before).Spares action := by
  -- The last action is split off, as the others have led to the plan that it meets.
  induction actions using List.reverseRecOn with
  | nil => simp [after, ofStream, AllKeep]
  | append_singleton actions action ih =>
    rw [after_concat, allKeep_act_iff (reachable_after stream actions).coherent, ih]
    constructor
    · rintro ⟨hbefore, hlast⟩ before action' rest hsplit
      rcases List.eq_nil_or_concat rest with rfl | ⟨rest, last, rfl⟩
      · obtain ⟨rfl, h⟩ := List.append_inj' hsplit rfl
        obtain rfl := List.singleton_inj.mp h
        exact hlast
      · rw [List.concat_eq_append, ← List.cons_append, ← List.append_assoc] at hsplit
        exact hbefore before action' rest (List.append_inj' hsplit rfl).1
    · intro h
      refine ⟨fun before action' rest hsplit => ?_, h actions action [] rfl⟩
      exact h before action' (rest ++ [action]) (by simp [hsplit])

/-- All constraints hold of the rows in the result of a plan exactly if all rows keep them. -/
theorem allKeep_iff_holds (hp : p.Coherent) (hwf : p.WellFormed) :
    p.AllKeep ↔ ∀ rows stream, p.result = .ok (rows, stream) →
      ∀ r ∈ rows, ∀ c ∈ p.constraints, c.Holds r := by
  constructor
  · intro hkeep rows stream hresult r hr c hc
    rw [← rows_of_result hresult] at hr
    obtain ⟨e, he, rfl⟩ := List.mem_map.mp hr
    exact holds_of_isBrokenBy hp hwf he hc (hkeep e he c hc)
  · intro hholds e he c hc
    have hresult : p.result = .ok (p.rows, p.stream) :=
      result_eq_ok_iff.mpr ⟨List.ne_nil_of_mem he, rfl, rfl⟩
    exact (isBrokenBy_eq_false_iff_of_mem hp hwf he hc).mpr
      (hholds _ _ hresult e.row (List.mem_map_of_mem he) c hc)

/-- The rows of a plan keep its constraints exactly if no constraint was ever added that a row of
that time broke. An operation on a plan with such rows leaves it so unless it adds such a
constraint, and all constraints hold of the rows in its result exactly if the plan is so. -/
theorem allKeep_iff_spares (stream : RandomStream) (actions : List Action) :
    let p := (ofStream stream).after actions
    (p.AllKeep ↔ ∀ before action rest,
      actions = before ++ action :: rest → ((ofStream stream).after before).Spares action) ∧
    (∀ action, (p.act action).AllKeep ↔ p.AllKeep ∧ p.Spares action) ∧
    (p.AllKeep ↔ ∀ rows stream', p.result = .ok (rows, stream') →
      ∀ r ∈ rows, ∀ c ∈ p.constraints, c.Holds r) := by
  intro p
  have hreach : p.Reachable := reachable_after stream actions
  exact ⟨allKeep_after_iff stream actions, allKeep_act_iff hreach.coherent,
    allKeep_iff_holds hreach.coherent hreach.wellFormed⟩

/-- The small plan takes no further axis, since it has rows, but it takes a constraint that both of
its rows break, and has them in its result. -/
theorem allKeep_lost_encryption :
    let c : Constraint := .exclude (Selector.having {} "gss" "on")
    encryption.Reachable ∧ encryption.AllKeep ∧ (∀ a, (encryption.insertAxis a).2 ≠ .ok ()) ∧
      ∃ q, encryption.constrain c = (q, .ok ()) ∧ c ∈ q.constraints ∧
        q.result = .ok (encryption.rows, encryption.stream) ∧ encryption.rows.length = 2 ∧
        (∀ r ∈ encryption.rows, c.isBrokenBy r = true ∧ ¬c.Holds r) ∧ ¬q.AllKeep := by
  intro c
  have hkeep : ∀ e ∈ encryption.entries, ∀ c ∈ encryption.constraints,
      c.isBrokenBy e.row = false := by decide +kernel
  have hlength : encryption.rows.length = 2 := by decide +kernel
  have hbroken : ∀ e ∈ encryption.entries, c.isBrokenBy e.row = true := by decide +kernel
  have hknown : ∀ s ∈ c.selectors, encryption.Knows s := by decide +kernel
  have hne : encryption.entries ≠ [] := fun h => by simp [rows, h] at hlength
  let q : Plan := { encryption with constraints := encryption.constraints ++ [c] }
  have hq : encryption.constrain c = (q, .ok ()) :=
    (constrain_refusesUnless encryption c).eq_ok_iff.mpr ⟨⟨rfl, hknown⟩, rfl⟩
  have hmem : c ∈ q.constraints := List.mem_append_right _ (List.mem_singleton_self c)
  -- The plan with the constraint is reachable too, so a broken constraint does not hold of the row.
  have hreach : q.Reachable := by
    have hact := reachable_encryption.act (.constrain c)
    rwa [act, hq] at hact
  have hnot : ∀ e ∈ encryption.entries, c.isBrokenBy e.row = true ∧ ¬c.Holds e.row := by
    intro e he
    refine ⟨hbroken e he, fun hholds => ?_⟩
    have hkept : c.isBrokenBy e.row = false :=
      (isBrokenBy_eq_false_iff_of_mem hreach.coherent hreach.wellFormed he hmem).mpr hholds
    exact absurd hkept (by simp [hbroken e he])
  refine ⟨reachable_encryption, hkeep, fun a hinsert => ?_, q, hq, hmem,
    result_eq_ok_iff.mpr ⟨hne, rfl, rfl⟩, hlength, ?_, fun hall => ?_⟩
  · have hrefused := (insertAxis_refusesUnless encryption a).exists_error_iff.mpr fun h => hne h.2.2
    obtain ⟨e, he⟩ := hrefused
    exact absurd (he.symm.trans hinsert) (by simp)
  · rw [rows, List.forall_mem_map]
    exact hnot
  · obtain ⟨e, he⟩ := List.exists_mem_of_ne_nil _ hne
    have hkept : c.isBrokenBy e.row = false := hall e he c hmem
    exact absurd hkept (by simp [hbroken e he])

end TestMatrix.Plan

import TestMatrix.Proofs.Plan.History

/-!
# The shape of reachable plans

The parts of a plan are changed by different operations and stay in step with one another.
`WellFormed` is what every change keeps: the axes are sound, constraints and the name pattern refer
to axes of the plan, and each row was made from picks of its own, one for every axis.
-/

namespace TestMatrix

/-! ## Sound axes -/

/-- Settings pass if no token is repeated, none was there before, and all weights can be drawn. -/
theorem Axis.checkSettings_eq_ok_iff {axis : String} {before : List String}
    {settings : List Setting} : checkSettings axis before settings = .ok () ↔
      (settings.map (·.token)).Nodup ∧ (∀ s ∈ settings, s.token ∉ before) ∧
        ∀ s ∈ settings, validWeight s.weight = true := by
  induction settings generalizing before with
  | nil => simp [checkSettings]
  | cons s settings ih =>
    -- The list of tokens before grows by the one at the head, so that none behind may equal it.
    have hnew : (∀ x ∈ settings, x.token ∉ s.token :: before) ↔
        s.token ∉ settings.map (·.token) ∧ ∀ x ∈ settings, x.token ∉ before := by
      simp only [List.mem_cons, not_or, List.mem_map, not_exists, not_and, forall_and]
    rw [checkSettings, List.map_cons, List.nodup_cons, List.forall_mem_cons, List.forall_mem_cons]
    by_cases hbefore : s.token ∈ before
    · simp [hbefore]
    · cases hweight : validWeight s.weight with
      | false => simp [hbefore]
      | true =>
        simp only [List.contains_eq_mem, hbefore, decide_false, Bool.not_true, Bool.false_eq_true,
          if_false, ih, hnew]
        tauto

/-- An axis is sound if it has a name and settings, no token is repeated, and all weights can be
drawn. -/
theorem Axis.check_eq_ok_iff {a : Axis} : a.check = .ok () ↔ a.name ≠ "" ∧ a.settings ≠ [] ∧
    a.tokens.Nodup ∧ ∀ s ∈ a.settings, validWeight s.weight = true := by
  rw [check]
  by_cases hname : a.name = ""
  · simp [hname]
  · by_cases hsettings : a.settings = []
    · simp [hname, hsettings]
    · simp [hname, hsettings, checkSettings_eq_ok_iff, tokens]

namespace Plan

variable {p q : Plan} {picks : List Nat}

/-! ## What every change keeps -/

/-- The parts of the plan fit together. -/
structure WellFormed (p : Plan) : Prop where
  check_axis : ∀ a ∈ p.axes, a.check = .ok ()
  /-- The constraints name axes of the plan only. -/
  knows : ∀ c ∈ p.constraints, ∀ s ∈ c.selectors, p.Knows s
  /-- The name pattern refers to axes of the plan. -/
  pattern_lt : ∀ pattern, p.namePattern = some pattern → ∀ i ∈ pattern, i < p.axes.length
  /-- Every row was made from one pick for each axis. -/
  mem_tuples : ∀ e ∈ p.entries, e.picks ∈ p.tuples
  /-- The cells of the rows are the settings that were picked. -/
  cells_eq : ∀ e ∈ p.entries, e.row.cells = p.cells e.picks
  nodup : (p.entries.map (·.picks)).Nodup

/-- Of a plan without axes and rows there is nothing to show. -/
theorem wellFormed_ofStream (stream : RandomStream) : (ofStream stream).WellFormed := by
  constructor <;> simp [ofStream]

/-- Added rows come last. -/
theorem Change.entries {s : Selector} (h : p.Change s q) :
    ∃ added, q.entries = p.entries ++ added.map p.entryOf ∧ p.Adds s added := by
  cases h with
  | @rows added hadds stream => exact ⟨added, rfl, hadds⟩
  | axis => exact ⟨[], by simp, adds_nil p s⟩
  | constraint => exact ⟨[], by simp, adds_nil p s⟩
  | pattern => exact ⟨[], by simp, adds_nil p s⟩
  | settings => exact ⟨[], by simp, adds_nil p s⟩

/-- A plan with rows gets no further axes. -/
theorem Change.axes_eq {s : Selector} (h : p.Change s q) (hentries : q.entries ≠ []) :
    q.axes = p.axes := by
  cases h with
  | axis hcheck hname hnone => exact absurd hnone hentries
  | constraint => rfl
  | pattern => rfl
  | settings => rfl
  | rows => rfl

/-- The axes that were known before a new one are still known. -/
theorem Knows.concat_axis {s : Selector} {a : Axis} (hs : p.Knows s)
    (hname : p.axisIndex? a.name = none) :
    ({ p with
      axes := p.axes ++ [a]
      positions := p.positions.put a.name p.axes.length } : Plan).Knows s := by
  intro entry hentry
  have hknown := hs entry hentry
  -- The name of the new axis was free, so the entry that is put does not hide a known one.
  have hne : entry.1 ≠ a.name := fun heq => by simp [heq, hname] at hknown
  show (Dictionary.valueOf? (p.positions.put a.name p.axes.length) entry.1).isSome = true
  rwa [Dictionary.valueOf?_put_of_ne hne]

/-- Every change keeps the parts of a plan together. -/
theorem Change.wellFormed {s : Selector} (hp : p.Coherent) (h : p.Change s q)
    (hwf : p.WellFormed) : q.WellFormed := by
  cases h with
  | @axis a hcheck hname hentries =>
    -- There are no rows yet of which anything would have to be said.
    refine ⟨?_, ?_, ?_, by simp [hentries], by simp [hentries], by simp [hentries]⟩
    · rw [List.forall_mem_append]
      exact ⟨hwf.check_axis, by simpa using hcheck⟩
    · exact fun c hc s hs => (hwf.knows c hc s hs).concat_axis hname
    · intro pattern hpattern i hi
      have hlt := hwf.pattern_lt pattern hpattern i hi
      rw [List.length_append]
      omega
  | @constraint c hknown =>
    refine { hwf with knows := ?_ }
    rw [List.forall_mem_append, List.forall_mem_singleton]
    exact ⟨hwf.knows, hknown⟩
  | @pattern pattern hpattern =>
    refine { hwf with pattern_lt := fun pattern' hsome i hi => ?_ }
    obtain rfl : pattern = pattern' := Option.some.inj hsome
    obtain ⟨name, hname⟩ := hpattern i hi
    obtain ⟨a, ha, -⟩ := (hp.axisIndex?_eq_some_iff name i).mp hname
    exact (List.getElem?_eq_some_iff.mp ha).1
  | settings strict budget stream => exact { hwf with }
  | @rows added hadds stream =>
    have hadded : ∀ picks ∈ added, picks ∈ p.tuples ∧ picks ∉ p.entries.map (·.picks) := by
      intro picks hpicks
      obtain ⟨htuple, -, hnew⟩ :=
        mem_remaining.mp (mem_remainingFor.mp (hadds.mem_remainingFor picks hpicks)).1
      exact ⟨htuple, hnew⟩
    refine { hwf with mem_tuples := ?_, cells_eq := ?_, nodup := ?_ }
    · rw [enterAll, List.forall_mem_append, List.forall_mem_map]
      exact ⟨hwf.mem_tuples, fun picks hpicks => (hadded picks hpicks).1⟩
    · rw [enterAll, List.forall_mem_append, List.forall_mem_map]
      exact ⟨hwf.cells_eq, fun picks _ => rfl⟩
    · show ((p.enterAll added).entries.map (·.picks)).Nodup
      rw [map_picks_enterAll, List.nodup_append']
      exact ⟨hwf.nodup, hadds.nodup, fun picks hold hmem => (hadded picks hmem).2 hold⟩

/-- So every reachable plan is well-formed. -/
theorem Reachable.wellFormed (h : p.Reachable) : p.WellFormed :=
  (h.induct wellFormed_ofStream fun hp hchange => hchange.wellFormed hp).2

end Plan

end TestMatrix

import Mathlib.Data.List.Induction
import TestMatrix.Proofs.Plan.Shape

/-!
# Rows keep the constraints

A row keeps all the constraints that the plan has when the row is made, and it matches the selector
that it is made for. That holds of every search, whichever branches it follows
(`valid_of_explores`), and so of every row that an operation adds. If no constraint comes after the
first row, then all rows of a complete plan keep all of its constraints (`valid_after`).
-/

namespace TestMatrix.Plan

variable {p q : Plan} {s : Selector} {picks : List Nat}

/-- What is left for a selector becomes rows that keep the constraints and match. -/
theorem keeps_of_mem_remainingFor (h : picks ∈ p.remainingFor s) :
    p.Keeps (p.row picks) ∧ s.isMatch (p.row picks).assignment = true := by
  obtain ⟨hremaining, hmatch⟩ := mem_remainingFor.mp h
  exact ⟨isInvalid_eq_false_iff.mp (mem_remaining.mp hremaining).2.1, hmatch⟩

/-- What a search comes to keeps the constraints and matches, in whatever order it tries the
branches. -/
theorem valid_of_explores (hp : p.Coherent) (hknown : p.Knows s) {maxBacktracks : Nat}
    {t : Search.Tally} {o : Search.Outcome}
    (h : Search.Explores (p.problem s) maxBacktracks p.axes.length [] t o)
    (ho : o.ending = .found picks) :
    p.Keeps (p.row picks) ∧ s.isMatch (p.row picks).assignment = true := by
  obtain ⟨_, hlead, hlength, rfl, hleaf⟩ := h.found ho
  have htuple : (p.problem s).IsTuple _ := ⟨hlead, hlength.trans (length_levels p s).symm⟩
  exact keeps_of_mem_remainingFor (mem_remainingFor_of_isTuple hp hknown htuple hleaf)

/-- New rows come last, keep the constraints, and match. -/
theorem Change.new_rows (h : p.Change s q) : ∃ new, q.entries = p.entries ++ new ∧
    ∀ e ∈ new, p.Keeps e.row ∧ s.isMatch e.row.assignment = true := by
  obtain ⟨added, hentries, hadds⟩ := h.entries
  refine ⟨_, hentries, ?_⟩
  rw [List.forall_mem_map]
  exact fun picks hpicks => keeps_of_mem_remainingFor (hadds.mem_remainingFor picks hpicks)

/-- No change adds a constraint and a row. -/
theorem Change.constraints_eq (h : p.Change s q) :
    q.constraints = p.constraints ∨ q.entries = p.entries := by
  cases h with
  | constraint hknown => exact .inr rfl
  | axis => exact .inl rfl
  | pattern => exact .inl rfl
  | settings => exact .inl rfl
  | rows => exact .inl rfl

/-- All rows of the plan keep its constraints. -/
def AllKeep (p : Plan) : Prop := ∀ e ∈ p.entries, p.Keeps e.row

/-- New rows keep the constraints, so all do if there are no new constraints. -/
theorem AllKeep.of_change (hp : p.AllKeep) (h : p.Change s q)
    (hsame : q.constraints = p.constraints) : q.AllKeep := by
  obtain ⟨new, hentries, hnew⟩ := h.new_rows
  rw [AllKeep, hentries, List.forall_mem_append]
  simp only [Keeps, hsame]
  exact ⟨hp, fun e he => (hnew e he).1⟩

/-- In a well-formed plan, a row breaks a constraint just if the constraint does not hold of it. -/
theorem isBrokenBy_eq_false_iff_of_mem (hp : p.Coherent) (hwf : p.WellFormed) {e : Entry}
    (he : e ∈ p.entries) {c : Constraint} (hc : c ∈ p.constraints) :
    c.isBrokenBy e.row = false ↔ c.Holds e.row := by
  have hlength : e.picks.length = p.axes.length := (mem_tuples.mp (hwf.mem_tuples e he)).1
  refine Constraint.isBrokenBy_eq_false_iff fun s hs => ?_
  rw [assignment_of_cells hp hlength (hwf.cells_eq e he)]
  exact (hwf.knows c hc s hs).decides hp hlength

/-- A constraint that the row of an entry does not break holds of it in full. -/
theorem holds_of_isBrokenBy (hp : p.Coherent) (hwf : p.WellFormed) {e : Entry} (he : e ∈ p.entries)
    {c : Constraint} (hc : c ∈ p.constraints) (h : c.isBrokenBy e.row = false) : c.Holds e.row :=
  (isBrokenBy_eq_false_iff_of_mem hp hwf he hc).mp h

/-- A plan has a result as soon as it has a row. -/
theorem result_eq_ok_iff {rows : List Row} {stream : RandomStream} :
    p.result = .ok (rows, stream) ↔ p.entries ≠ [] ∧ p.rows = rows ∧ p.stream = stream := by
  rw [result]
  split
  · next hempty => simp [List.isEmpty_iff.mp hempty]
  · next hempty =>
    rw [List.isEmpty_iff] at hempty
    simp [hempty]

/-- The rows of the result are those of the plan. -/
theorem rows_of_result {rows : List Row} {stream : RandomStream}
    (h : p.result = .ok (rows, stream)) : p.rows = rows :=
  (result_eq_ok_iff.mp h).2.1

/-- As long as no constraint comes after the first row, all rows keep all constraints. -/
theorem keeps_after (stream : RandomStream) (actions : List Action)
    (h : ∀ before action rest, actions = before ++ action :: rest →
      ((ofStream stream).after before).entries ≠ [] →
      ((ofStream stream).after (before ++ [action])).constraints =
        ((ofStream stream).after before).constraints) :
    ∀ e ∈ ((ofStream stream).after actions).entries,
      ((ofStream stream).after actions).Keeps e.row := by
  induction actions using List.reverseRecOn with
  | nil => simp [after, ofStream]
  | append_singleton actions action ih =>
    have hbefore := ih fun before action' rest hsplit =>
      h before action' (rest ++ [action]) (by simp [hsplit])
    have hchange := change_after stream actions action
    -- Either there were no rows to keep a new constraint, or there is no new constraint.
    have hcases : ((ofStream stream).after (actions ++ [action])).constraints =
          ((ofStream stream).after actions).constraints ∨
        ((ofStream stream).after (actions ++ [action])).entries = [] := by
      rcases hchange.constraints_eq with hsame | hsame
      · exact .inl hsame
      · by_cases hnone : ((ofStream stream).after actions).entries = []
        · exact .inr (hsame.trans hnone)
        · exact .inl (h actions action [] rfl hnone)
    rcases hcases with hsame | hnone
    · obtain ⟨new, hentries, hnew⟩ := hchange.new_rows
      rw [hentries, List.forall_mem_append]
      simp only [Keeps, hsame]
      exact ⟨hbefore, fun e he => (hnew e he).1⟩
    · simp [hnone]

/-- Every operation adds rows that keep the constraints and match what they are made for, and a
search that tries branches in any order comes to no others. If no constraint comes after the first
row, then every row of the result keeps all constraints, and they hold of it. -/
theorem valid_after (stream : RandomStream) (actions : List Action) :
    let p := (ofStream stream).after actions
    (∀ action, ∃ new, (p.act action).entries = p.entries ++ new ∧
      ∀ e ∈ new, p.Keeps e.row ∧ action.selector.isMatch e.row.assignment = true) ∧
    (∀ s, p.Knows s → ∀ maxBacktracks t o picks,
      Search.Explores (p.problem s) maxBacktracks p.axes.length [] t o →
      o.ending = .found picks →
      p.Keeps (p.row picks) ∧ s.isMatch (p.row picks).assignment = true) ∧
    ((∀ before action rest, actions = before ++ action :: rest →
        ((ofStream stream).after before).entries ≠ [] →
        ((ofStream stream).after (before ++ [action])).constraints =
          ((ofStream stream).after before).constraints) →
      ∀ rows stream', p.result = .ok (rows, stream') → ∀ r ∈ rows, p.Keeps r ∧
        ∀ c ∈ p.constraints, c.Holds r) := by
  intro p
  have hreach : p.Reachable := reachable_after stream actions
  refine ⟨fun action => (change_act hreach.coherent action).new_rows, ?_, ?_⟩
  · intro s hknown maxBacktracks t o picks h ho
    exact valid_of_explores hreach.coherent hknown h ho
  · intro hlate rows stream' hresult r hr
    -- Every row was valid when it was made, and the constraints in force were those of now.
    have hrows : p.rows = rows := by
      rw [result] at hresult
      split at hresult
      · simp at hresult
      · exact (Prod.mk.inj (Except.ok.inj hresult)).1
    obtain ⟨e, he, rfl⟩ := List.mem_map.mp (hrows ▸ hr)
    have hkeeps : p.Keeps e.row := keeps_after stream actions hlate e he
    exact ⟨hkeeps, fun c hc =>
      holds_of_isBrokenBy hreach.coherent hreach.wellFormed he hc (hkeeps c hc)⟩

/-- The rows of the small plan were made after its constraint, and they keep it. -/
theorem valid_after_encryption :
    encryption.result = .ok (encryption.rows, encryption.stream) ∧
      ∀ r ∈ encryption.rows, encryption.Keeps r ∧ ∀ c ∈ encryption.constraints, c.Holds r := by
  have hresult : encryption.result = .ok (encryption.rows, encryption.stream) :=
    if_neg (by decide +kernel)
  have hearly : ∀ k < 4,
      ((ofStream (.ofSeed 7)).after (encryptionActions.take k)).entries.isEmpty = true := by
    decide +kernel
  refine ⟨hresult, (valid_after (.ofSeed 7) encryptionActions).2.2 ?_ _ _ hresult⟩
  intro before action rest hsplit hentries
  have hlength : before.length < 4 := by
    have h := congrArg List.length hsplit
    simp [encryptionActions] at h
    omega
  have htake : encryptionActions.take before.length = before := by rw [hsplit, List.take_left]
  exact absurd (List.isEmpty_iff.mp (htake ▸ hearly before.length hlength)) hentries

end TestMatrix.Plan

import TestMatrix.Proofs.Request.Fields

/-!
# Jobs differ

Different rows differ in a setting, but a job does not have all fields of its row: that of the axis
`hash` is left out. Still every setting is shown (`Job.IsShown`), because this axis decides the
arguments of the tests, and all other axes keep their fields. So the picks of a row can be told from
its job (`Plan.picks_eq_of_bareOfRow_eq`), even without the fields that the draw has a part in, and
therefore no two jobs of a run are the same (`jobs_pairwise_differ`).
-/

namespace TestMatrix

namespace Job

variable {key : String} {r r' : Row}

/-- The arguments of the tests tell whether hash codes are the same. -/
theorem same_iff_of_testArguments_eq (h : testArguments r = testArguments r') :
    r.tokenOf "hash" = "same" ↔ r'.tokenOf "hash" = "same" := by
  rw [testArguments, testArguments] at h
  by_cases hsame : r.tokenOf "hash" = "same" <;> by_cases hsame' : r'.tokenOf "hash" = "same"
  · exact iff_of_true hsame hsame'
  · simp [hsame, hsame'] at h
  · simp [hsame, hsame'] at h
  · exact iff_of_false hsame hsame'

/-- The setting of the axis can be told from the bare job of a row: by its own field, or by the
arguments of the tests. -/
def IsShown (a : Axis) : Prop :=
  a.name ∉ lostKeys ++ derivedKeys ∨
    a.name = "hash" ∧ ∀ t ∈ a.tokens, ∀ t' ∈ a.tokens, (t = "same" ↔ t' = "same") → t = t'

instance : DecidablePred IsShown := fun _ => inferInstanceAs (Decidable (_ ∨ _))

/-- A field that is neither left out nor follows from others tells the setting of its axis. -/
theorem tokenOf_eq_of_bareOfRow_eq (hnodup : (r.cells.map (·.axis)).Nodup)
    (hnodup' : (r'.cells.map (·.axis)).Nodup) (hkey : key ∉ lostKeys ++ derivedKeys)
    (h : bareOfRow r = bareOfRow r') : r.tokenOf key = r'.tokenOf key := by
  have hfield : ∀ r : Row, (r.cells.map (·.axis)).Nodup →
      (bareOfRow r).valueOf? key = ((r.setting? key).map (·.token)).map .text := by
    intro r hnodup
    rw [valueOf?_bareOfRow_axis hnodup hkey, Option.map_map]
    rfl
  have hfields := congrArg (·.valueOf? key) h
  simp only [hfield r hnodup, hfield r' hnodup'] at hfields
  rw [Row.tokenOf_eq, Row.tokenOf_eq, Option.map_injective (fun _ _ => Json.text.inj) hfields]

end Job

/-! ## Rows of one plan -/

namespace Plan

variable {p : Plan} {picks picks' : List Nat}

/-- If the settings of all axes are shown, then rows with the same bare job have the same picks. -/
theorem picks_eq_of_bareOfRow_eq (hp : p.Coherent) (hwf : p.WellFormed)
    (hshown : ∀ a ∈ p.axes, Job.IsShown a) (h : picks ∈ p.tuples) (h' : picks' ∈ p.tuples)
    (hbare : Job.bareOfRow (p.row picks) = Job.bareOfRow (p.row picks')) : picks = picks' := by
  have hnodup := nodup_axis_cells hp h
  have hnodup' := nodup_axis_cells hp h'
  refine picks_eq_of_tokens_eq hwf h h' ?_
  rw [Row.tokens_eq hnodup, Row.tokens_eq hnodup', map_axis_cells (mem_tuples.mp h).1,
    map_axis_cells (mem_tuples.mp h').1, List.map_map, List.map_map]
  refine List.map_congr_left fun a ha => ?_
  show (p.row picks).tokenOf a.name = (p.row picks').tokenOf a.name
  -- A job shows an axis in a field of its name, or in the arguments that are derived from it.
  rcases hshown a ha with hkey | ⟨hhash, htokens⟩
  · exact Job.tokenOf_eq_of_bareOfRow_eq hnodup hnodup' hkey hbare
  · refine htokens _ (tokenOf_mem_tokens hp h ha) _ (tokenOf_mem_tokens hp h' ha) ?_
    have harguments := congrArg (·.valueOf? "testExtraJvmArgs") hbare
    simp only [Job.valueOf?_testExtraJvmArgs, Option.some.injEq, Json.text.injEq] at harguments
    rw [hhash]
    exact Job.same_iff_of_testArguments_eq harguments

end Plan

/-! ## Jobs of a run -/

/-- All axes of a profile are shown in its jobs. -/
theorem Profile.isShown_axes (profile : Profile) : ∀ a ∈ profile.axes, Job.IsShown a := by
  obtain ⟨_ | _⟩ := profile <;> decide +kernel

/-- No two jobs of a run are the same, even without their names and without what is drawn for each
of them. -/
theorem jobs_pairwise_differ (r : Request) (report : Report) (h : r.generate = .ok report) :
    (report.document.jobs.map Job.bare).Nodup := by
  obtain ⟨added, hrows, hnodup, htuples⟩ := r.exists_picks
  have hreach := r.profile.reachable_blueprint
  rw [(Request.map_bare_jobs h).nodup_iff, hrows, List.map_map]
  refine hnodup.map_on fun picks hpicks picks' hpicks' hbare => ?_
  exact Plan.picks_eq_of_bareOfRow_eq hreach.coherent hreach.wellFormed r.profile.isShown_axes
    (htuples picks hpicks) (htuples picks' hpicks') hbare

/-- The rows for the goals alone are seven, and their jobs differ. -/
theorem jobs_pairwise_differ_seven :
    ∃ report, ({ seed := 1, jobs := 0 } : Request).generate = .ok report ∧ report.forced = 7 ∧
      (report.document.jobs.map Job.bare).Nodup := by
  obtain ⟨report, h, hforced⟩ := exists_report_goals
  exact ⟨report, h, hforced, jobs_pairwise_differ _ report h⟩

end TestMatrix

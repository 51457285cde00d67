import TestMatrix.Proofs.Dictionary
import TestMatrix.Proofs.Request.Growth
import TestMatrix.Proofs.Request.Rows

/-!
# What jobs show of their rows

The fields of a job are those of its row, of which one is taken out, and others that follow from the
row or the draw. So the field of an axis is there if its key is none of these
(`Job.valueOf?_bareOfRow_axis`), and a row that covers a selector shows in a job
(`Request.exists_job_of_isCovered`).
-/

namespace TestMatrix

/-! ## Fields of a row -/

namespace Row

variable {r : Row}

/-- The token of an axis is that of its setting, and empty if the row has no such axis. -/
theorem tokenOf_eq (r : Row) (axis : String) :
    r.tokenOf axis = ((r.setting? axis).map (·.token)).getD "" := by
  rw [tokenOf]
  cases r.setting? axis <;> rfl

/-- The tokens of a row are those of its axes. -/
theorem tokens_eq (hnodup : (r.cells.map (·.axis)).Nodup) :
    r.tokens = (r.cells.map (·.axis)).map r.tokenOf := by
  rw [tokens, List.map_map]
  refine List.map_congr_left fun cell hcell => ?_
  rw [Function.comp_apply, tokenOf, setting?_of_mem hnodup hcell]

/-- Putting cells of different axes into an object puts there the cell of each axis. -/
theorem valueOf?_foldl_put {cells : List Cell} (hnodup : (cells.map (·.axis)).Nodup)
    (o : Json.Object) (axis : String) :
    (cells.foldl (fun o cell => o.put cell.axis (.text cell.setting.token)) o).valueOf? axis =
      ((cells.find? (·.axis == axis)).map fun cell => .text cell.setting.token).or
        (o.valueOf? axis) := by
  induction cells generalizing o with
  | nil => rfl
  | cons cell cells ih =>
    rw [List.map_cons, List.nodup_cons] at hnodup
    rw [List.foldl_cons, ih hnodup.2, List.find?_cons]
    by_cases haxis : cell.axis = axis
    · -- No later cell replaces the value.
      have hnone : cells.find? (·.axis == axis) = none :=
        List.find?_eq_none.mpr fun cell' hmem heq =>
          hnodup.1 (List.mem_map.mpr ⟨cell', hmem, (beq_iff_eq.mp heq).trans haxis.symm⟩)
      simp [hnone, haxis, Dictionary.valueOf?_put_self]
    · rw [beq_false_of_ne haxis, Dictionary.valueOf?_put_of_ne (Ne.symm haxis)]

/-- The field of an axis has its token. -/
theorem valueOf?_toObject (hnodup : (r.cells.map (·.axis)).Nodup) {axis : String}
    (hname : axis ≠ "name") :
    r.toObject.valueOf? axis = (r.setting? axis).map fun s => .text s.token := by
  have hnone : (Dictionary.put "name" (Json.text r.name) []).valueOf? axis = none := by
    rw [Dictionary.valueOf?_put_of_ne hname]
    rfl
  rw [toObject, valueOf?_foldl_put hnodup, hnone, Option.or_none, setting?, Option.map_map]
  rfl

end Row

namespace Job

variable {o : Json.Object} {key : String} {fields : List (String × Option Json)} {r r' : Row}

/-- The keys of the fields that follow from a row. -/
def derivedKeys : List String := (derivedFields default).map (·.1)

/-- The keys of the derived fields do not depend on the row. -/
theorem map_fst_derivedFields (r : Row) : (derivedFields r).map (·.1) = derivedKeys := rfl

/-- The keys that the job of a row has not, or not when what is drawn for it is left out. -/
def lostKeys : List String := ["hash", "name", "extraJvmArgs"]

/-- Fields under other keys do not change a value. -/
theorem valueOf?_putFields (h : key ∉ fields.map (·.1)) :
    (putFields o fields).valueOf? key = o.valueOf? key := by
  refine List.foldlRecOn (motive := fun o' : Json.Object => o'.valueOf? key = o.valueOf? key)
    fields _ rfl ?_
  intro o' ho field hfield
  have hne : key ≠ field.1 := fun heq => h (heq ▸ List.mem_map_of_mem hfield)
  split
  · exact (Dictionary.valueOf?_put_of_ne hne _ _).trans ho
  · exact ho

/-- Besides the keys that are lost, a bare job has what its row and the derived fields have. -/
theorem valueOf?_bareOfRow (h : key ∉ lostKeys) (r : Row) :
    (bareOfRow r).valueOf? key = (putFields r.toObject (derivedFields r)).valueOf? key := by
  simp only [lostKeys, List.mem_cons, List.not_mem_nil, or_false, not_or] at h
  rw [bareOfRow, bare, Dictionary.valueOf?_without_of_ne h.2.2,
    Dictionary.valueOf?_without_of_ne h.2.1, Dictionary.valueOf?_without_of_ne h.1]

/-- The job of a row shows the arguments of its tests. -/
theorem valueOf?_testExtraJvmArgs (r : Row) :
    (bareOfRow r).valueOf? "testExtraJvmArgs" = some (.text (testArguments r)) := by
  rw [valueOf?_bareOfRow (by decide)]
  exact Dictionary.valueOf?_put_self _ _ _

/-- A field that is neither left out nor follows from others has the token of its axis. -/
theorem valueOf?_bareOfRow_axis (hnodup : (r.cells.map (·.axis)).Nodup)
    (hkey : key ∉ lostKeys ++ derivedKeys) :
    (bareOfRow r).valueOf? key = (r.setting? key).map fun s => .text s.token := by
  rw [List.mem_append, not_or] at hkey
  have hname : key ≠ "name" := fun heq => hkey.1 (by simp [heq, lostKeys])
  have hderived : key ∉ (derivedFields r).map (·.1) := hkey.2
  rw [valueOf?_bareOfRow hkey.1, valueOf?_putFields hderived, Row.valueOf?_toObject hnodup hname]

/-- What is bared of a job are the lost keys only. -/
theorem valueOf?_bare (h : key ∉ lostKeys) (job : Json.Object) :
    (bare job).valueOf? key = job.valueOf? key := by
  simp only [lostKeys, List.mem_cons, List.not_mem_nil, or_false, not_or] at h
  rw [bare, Dictionary.valueOf?_without_of_ne h.2.2, Dictionary.valueOf?_without_of_ne h.2.1]

end Job

/-! ## Fields of the jobs of a run -/

namespace Request

variable {r : Request} {report : Report} {row : Row} {axis token : String}

/-- No axis has two cells in a row of a run. -/
theorem nodup_axis_of_mem_rows (h : row ∈ r.filled.rows) : (row.cells.map (·.axis)).Nodup := by
  obtain ⟨picks, hpicks, rfl⟩ := exists_picks_of_mem_rows h
  exact Plan.nodup_axis_cells r.profile.reachable_blueprint.coherent hpicks

/-- The jobs of a run show the settings of its rows. -/
theorem map_valueOf?_jobs (h : r.generate = .ok report)
    (hkey : axis ∉ Job.lostKeys ++ Job.derivedKeys) :
    (report.document.jobs.map (·.valueOf? axis)).Perm
      (r.filled.rows.map fun row => (row.setting? axis).map fun s => .text s.token) := by
  have hlost : axis ∉ Job.lostKeys := fun hmem => hkey (List.mem_append_left _ hmem)
  have hjobs : report.document.jobs.map (·.valueOf? axis) =
      (report.document.jobs.map Job.bare).map (·.valueOf? axis) := by
    rw [List.map_map]
    exact List.map_congr_left fun job _ => (Job.valueOf?_bare hlost job).symm
  have hrows : r.filled.rows.map (fun row => (row.setting? axis).map fun s => .text s.token) =
      (r.filled.rows.map Job.bareOfRow).map (·.valueOf? axis) := by
    rw [List.map_map]
    exact List.map_congr_left fun row hrow =>
      (Job.valueOf?_bareOfRow_axis (nodup_axis_of_mem_rows hrow) hkey).symm
  rw [hjobs, hrows]
  exact (map_bare_jobs h).map _

/-- A setting that some row has is that of a job. -/
theorem exists_job_of_isCovered (h : r.generate = .ok report)
    (hkey : axis ∉ Job.lostKeys ++ Job.derivedKeys)
    (hcovered : r.filled.isCovered (Selector.having {} axis token) = true) :
    ∃ job ∈ report.document.jobs, job.valueOf? axis = some (.text token) := by
  obtain ⟨row, hrow, hmatch⟩ := Plan.isCovered_iff.mp hcovered
  obtain ⟨s, hsetting, haccepts⟩ := hmatch (axis, .exactly token) List.mem_cons_self
  have htoken : s.token = token := by simpa [Matcher.accepts] using haccepts
  have hsetting : row.setting? axis = some s := hsetting
  have hmem : some (Json.text token) ∈ report.document.jobs.map (·.valueOf? axis) := by
    refine (map_valueOf?_jobs h hkey).mem_iff.mpr (List.mem_map.mpr ⟨row, hrow, ?_⟩)
    rw [hsetting, Option.map_some, htoken]
  exact List.mem_map.mp hmem

/-- The jobs of a run show settings of the axes of its profile only. -/
theorem token_mem_of_mem_jobs (h : r.generate = .ok report) {a : Axis} (ha : a ∈ r.profile.axes)
    (hkey : a.name ∉ Job.lostKeys ++ Job.derivedKeys) {job : Json.Object}
    (hjob : job ∈ report.document.jobs) (htoken : job.valueOf? a.name = some (.text token)) :
    token ∈ a.tokens := by
  obtain ⟨row, hrow, hfield⟩ := List.mem_map.mp
    ((map_valueOf?_jobs h hkey).mem_iff.mp (List.mem_map.mpr ⟨job, hjob, htoken⟩))
  obtain ⟨s, hsetting, htext⟩ := Option.map_eq_some_iff.mp hfield
  have htoken : row.tokenOf a.name = token := by
    rw [Row.tokenOf, hsetting]
    exact Json.text.inj htext
  obtain ⟨picks, hpicks, rfl⟩ := exists_picks_of_mem_rows hrow
  rw [← htoken]
  exact Plan.tokenOf_mem_tokens r.profile.reachable_blueprint.coherent hpicks ha

end Request

end TestMatrix

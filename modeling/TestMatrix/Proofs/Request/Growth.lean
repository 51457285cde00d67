import TestMatrix.Proofs.Request.Goals

/-!
# Asking for more rows

Filling a plan makes one row after the other and stops at the first search that fails, so whoever
asks for more rows gets the same ones first (`entries_fill_mono`). A run draws nothing that depends
on the number of rows asked for until it fills the plan, and afterwards the draws only decide which
jobs stress the compiler. That shows in two fields of a job; without them (`Job.bare`) a job is a
function of its row (`Job.map_bare_ofRows`), and the jobs of a run are all among those of a run that
asks for more (`more_rows_only_add`).
-/

namespace TestMatrix

/-! ## Filling further -/

namespace Plan

/-- One row more leaves those before it as they are. -/
theorem entries_fill_succ (count : Nat) (p : Plan) :
    (p.fill count).entries <+: (p.fill (count + 1)).entries := by
  induction count generalizing p with
  | zero =>
    rcases p.search_found_or_not {} with ⟨picks, hpicks⟩ | hnone
    · rw [fill_of_found 0 hpicks]
      exact List.prefix_append _ _
    · rw [fill_of_not_found 0 hnone]
      exact List.prefix_rfl
  | succ count ih =>
    rcases p.search_found_or_not {} with ⟨picks, hpicks⟩ | hnone
    · rw [fill_of_found count hpicks, fill_of_found (count + 1) hpicks]
      exact ih _
    -- A search in vain ends the filling, whatever is still asked for.
    · have hsame : p.fill (count + 1) = p.fill (count + 1 + 1) :=
        (fill_of_not_found count hnone).trans (fill_of_not_found (count + 1) hnone).symm
      exact ⟨[], by rw [List.append_nil, hsame]⟩

/-- Whoever asks for more rows gets the same ones first. -/
theorem entries_fill_mono (p : Plan) {j k : Nat} (h : j ≤ k) :
    (p.fill j).entries <+: (p.fill k).entries := by
  induction k, h using Nat.le_induction with
  | base => exact List.prefix_rfl
  | succ k _ ih => exact ih.trans (entries_fill_succ k p)

end Plan

/-! ## Jobs without what is drawn -/

namespace Job

/-- The job without the fields that tell whether it stresses the compiler. -/
def bare (job : Json.Object) : Json.Object := (job.without "name").without "extraJvmArgs"

/-- The fields of the job of a row that do not depend on the draw. -/
def bareOfRow (r : Row) : Json.Object :=
  bare ((putFields r.toObject (derivedFields r)).without "hash")

/-- The name is not part of a bare job. -/
theorem bare_put_name (job : Json.Object) (value : Json) :
    bare (job.put "name" value) = bare job := by
  rw [bare, Dictionary.without_put_self]
  rfl

/-- Nor are the arguments of the virtual machine. -/
theorem bare_put_extraJvmArgs (job : Json.Object) (value : Json) :
    bare (job.put "extraJvmArgs" value) = bare job := by
  rw [bare, Dictionary.without_comm, Dictionary.without_put_self, Dictionary.without_comm]
  rfl

/-- A key that is left out of a job is left out of the bare one. -/
theorem bare_without (job : Json.Object) (key : String) :
    bare (job.without key) = (bare job).without key := by
  rw [bare, Dictionary.without_comm job, Dictionary.without_comm _ key]
  rfl

theorem putFields_append (o : Json.Object) (fields fields' : List (String × Option Json)) :
    putFields o (fields ++ fields') = putFields (putFields o fields) fields' :=
  List.foldl_append

/-- Whether a job stresses the compiler shows in two fields only. -/
theorem bare_ofRowWith (r : Row) (stress : Bool) : bare (ofRowWith r stress) = bareOfRow r := by
  have hlast : ∀ arguments name : Json,
      putFields r.toObject (derivedFields r ++
          [("extraJvmArgs", some arguments), ("name", some name)]) =
        (((putFields r.toObject (derivedFields r)).put "extraJvmArgs" arguments).put
          "name" name) := by
    intro arguments name
    rw [putFields_append]
    rfl
  rw [ofRowWith, hlast, bare_without, bare_put_name, bare_put_extraJvmArgs, ← bare_without]
  rfl

/-- The draw only decides whether a job stresses the compiler. -/
theorem exists_ofRow_eq (r : Row) (stream : RandomStream) :
    ∃ stress, (ofRow r stream).1 = ofRowWith r stress := by
  rw [ofRow]
  split
  · exact ⟨_, rfl⟩
  · exact ⟨false, rfl⟩

theorem ofRows_cons (r : Row) (rows : List Row) (stream : RandomStream) :
    (ofRows (r :: rows) stream).1 = (ofRow r stream).1 :: (ofRows rows (ofRow r stream).2).1 :=
  rfl

/-- Without what is drawn, the jobs of rows are those of each of them. -/
theorem map_bare_ofRows (rows : List Row) (stream : RandomStream) :
    (ofRows rows stream).1.map bare = rows.map bareOfRow := by
  induction rows generalizing stream with
  | nil => rfl
  | cons r rest ih =>
    obtain ⟨stress, hstress⟩ := exists_ofRow_eq r stream
    rw [ofRows_cons, List.map_cons, List.map_cons, ih, hstress, bare_ofRowWith]

end Job

/-! ## Runs that ask for more -/

namespace Request

variable {r : Request} {report : Report}

/-- Without what is drawn, the jobs of a run are those of its rows in some order. -/
theorem map_bare_jobs (h : r.generate = .ok report) :
    (report.document.jobs.map Job.bare).Perm (r.filled.rows.map Job.bareOfRow) := by
  obtain ⟨-, count, rows, stream, -, hresult, rfl⟩ := generate_eq_ok_iff.mp h
  rw [Plan.rows_of_result hresult]
  show ((Job.ofRows (Text.naturalSort (·.name) rows) stream).1.map Job.bare).Perm _
  rw [Job.map_bare_ofRows]
  exact (List.mergeSort_perm _ _).map _

/-- A run that asks for more rows succeeds as well. It forces the same rows, and adds the same ones
and perhaps others. -/
theorem generate_of_le {k : Nat} (h : r.generate = .ok report) (hk : r.jobs ≤ k) :
    ∃ report', { r with jobs := k }.generate = .ok report' ∧
      report'.forced = report.forced ∧ report.random ≤ report'.random := by
  obtain ⟨hplan, count, rows, stream, hforced, hresult, rfl⟩ := generate_eq_ok_iff.mp h
  have hprefix : r.filled.entries <+: { r with jobs := k }.filled.entries :=
    r.forced.1.entries_fill_mono hk
  have hne : { r with jobs := k }.filled.entries ≠ [] := fun hempty =>
    (Plan.result_eq_ok_iff.mp hresult).1 (List.prefix_nil.mp (hempty ▸ hprefix))
  -- Both runs are the same up to the filling, and a run that has rows goes through.
  refine ⟨_, generate_eq_ok_iff.mpr ⟨hplan, count, _, _, hforced,
    Plan.result_eq_ok_iff.mpr ⟨hne, rfl, rfl⟩, rfl⟩, rfl, ?_⟩
  exact Nat.sub_le_sub_right hprefix.length_le _

end Request

/-- A request for nothing but the goals makes seven rows. -/
theorem exists_report_goals :
    ∃ report, ({ seed := 1, jobs := 0 } : Request).generate = .ok report ∧ report.forced = 7 := by
  let r : Request := { seed := 1, jobs := 0 }
  obtain ⟨hplan, hforced, hrows⟩ : r.plan.2.toOption = some () ∧
      r.forced.2.toOption = some 7 ∧ r.filled.entries.isEmpty = false := by decide +kernel
  have hne : r.filled.entries ≠ [] := fun h => by simp [h] at hrows
  have h := Request.generate_eq_ok_iff.mpr ⟨eq_ok_of_toOption hplan, 7, _, _,
    eq_ok_of_toOption hforced, Plan.result_eq_ok_iff.mpr ⟨hne, rfl, rfl⟩, rfl⟩
  exact ⟨_, h, rfl⟩

/-- Asking for more rows only adds some. The rows that a plan is filled up with are the first of
those that it would be filled up with if more were asked for. So if a run succeeds, a run that asks
for more rows succeeds too, with as many forced rows and no fewer added ones, and but for what is
drawn for each of them it has the jobs of the first run among its own, each at least as often. -/
theorem more_rows_only_add :
    (∀ p : Plan, ∀ j k, j ≤ k → (p.fill j).rows <+: (p.fill k).rows) ∧
    ∀ (r : Request) (report : Report), r.generate = .ok report → ∀ k, r.jobs ≤ k →
      ∃ report', { r with jobs := k }.generate = .ok report' ∧
        report'.forced = report.forced ∧ report.random ≤ report'.random ∧
        (report.document.jobs.map Job.bare).Subperm (report'.document.jobs.map Job.bare) := by
  refine ⟨fun p j k hk => (p.entries_fill_mono hk).map Plan.Entry.row,
    fun r report h k hk => ?_⟩
  obtain ⟨report', h', hforced, hrandom⟩ := Request.generate_of_le h hk
  refine ⟨report', h', hforced, hrandom, ?_⟩
  have hrows : r.filled.rows <+: { r with jobs := k }.filled.rows :=
    (r.forced.1.entries_fill_mono hk).map Plan.Entry.row
  -- The jobs come in another order and with other names, so they are compared with their
  -- multiplicity.
  have hmore : (r.filled.rows.map Job.bareOfRow).Subperm
      ({ r with jobs := k }.filled.rows.map Job.bareOfRow) :=
    (hrows.sublist.map Job.bareOfRow).subperm
  have hjobs := (Request.map_bare_jobs h).subperm
  have hjobs' := (Request.map_bare_jobs h').symm.subperm
  exact hjobs.trans (hmore.trans hjobs')

/-- A request for the goals and three rows more succeeds because one for the goals alone does. -/
theorem more_rows_only_add_seven :
    let r : Request := { seed := 1, jobs := 0 }
    ((Plan.encryption.fill 1).rows <+: (Plan.encryption.fill 3).rows) ∧
    ∃ report report', r.generate = .ok report ∧ { r with jobs := 3 }.generate = .ok report' ∧
      report'.forced = 7 ∧ report.random ≤ report'.random ∧
      (report.document.jobs.map Job.bare).Subperm (report'.document.jobs.map Job.bare) := by
  intro r
  obtain ⟨report, h, hforced⟩ := exists_report_goals
  obtain ⟨report', h', hsame, hrandom, hjobs⟩ := more_rows_only_add.2 r report h 3 (by decide)
  exact ⟨more_rows_only_add.1 Plan.encryption 1 3 (by decide), report, report', h, h',
    hsame.trans hforced, hrandom, hjobs⟩

end TestMatrix

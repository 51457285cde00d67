import Mathlib.Data.List.Forall2
import TestMatrix.Proofs.Dictionary
import TestMatrix.Proofs.Request.Growth
import TestMatrix.Proofs.Request.Rows
import TestMatrix.Proofs.Text.NaturalOrder

/-!
# The order of the jobs

A run sorts its rows by name and makes a job of each. Names may be the same, because not all axes
have a part in them; such rows stay in the order in which they were made. All rows of a run can
stress the compiler, so every job takes one draw, and the place of a row decides which one that is
(`Job.getElem?_ofRows`). What a job says of stress stands at the end of its name, where no row says
the same, because the titles of the last axis end otherwise (`Plan.getLast?_name_row`). So taking it
off gives the names of the rows back, and these are in natural order (`jobs_in_natural_order`).
-/

namespace TestMatrix

/-! ## How names end -/

/-- What is put together with separators ends as the last piece does. -/
theorem getLast?_intercalate {α : Type} {last : List α} {x : α} (sep : List α)
    (pieces : List (List α)) (hx : last.getLast? = some x) :
    (sep.intercalate (pieces ++ [last])).getLast? = some x := by
  induction pieces with
  | nil => rw [List.nil_append, List.intercalate_singleton, hx]
  | cons piece pieces ih =>
    rw [List.cons_append, List.intercalate_cons_of_ne_nil (by simp), List.getLast?_append, ih]
    rfl

/-- Joined titles end as the last of them does. -/
theorem getLast?_joinTitles {titles : List String} {title : String} {c : Char}
    (hlast : titles.getLast? = some title) (hc : title.toList.getLast? = some c) :
    (joinTitles titles).toList.getLast? = some c := by
  obtain ⟨front, rfl⟩ := List.getLast?_eq_some_iff.mp hlast
  have hfilter : [title].filter (fun title => !title.isEmpty) = [title] := by
    refine List.filter_eq_self.mpr fun t ht => ?_
    obtain rfl := List.mem_singleton.mp ht
    have hne : t ≠ "" := by
      rintro rfl
      simp at hc
    simpa using hne
  rw [joinTitles, List.filter_append, hfilter, String.toList_intercalate, List.map_append]
  exact getLast?_intercalate _ _ hc

namespace Plan

variable {p : Plan} {picks : List Nat}

/-- The name pattern of a matrix refers to the axes that it has. -/
theorem namePattern_lay (p : Plan) (axes : List Axis) (names : List String)
    (constraints : List Constraint) : (p.lay axes names constraints).namePattern =
      some (names.filterMap (p.lay axes names constraints).axisIndex?) :=
  rfl

/-- A name ends as the titles of the last axis in the pattern do. -/
theorem getLast?_name_row {pattern : List Nat} {i : Nat} {a : Axis} {c : Char}
    (hpattern : p.namePattern = some pattern) (hlast : pattern.getLast? = some i)
    (ha : p.axes[i]? = some a) (hc : ∀ s ∈ a.settings, (a.titleFor s).toList.getLast? = some c)
    (h : picks ∈ p.tuples) : (p.row picks).name.toList.getLast? = some c := by
  obtain ⟨index, hindex, hsetting⟩ := exists_setting h ha
  have htitle : p.titleAt picks i = a.titleFor (a.settingAt index) := by
    rw [titleAt, ha, hindex]
  have htitles : (pattern.map (p.titleAt picks)).getLast? =
      some (a.titleFor (a.settingAt index)) := by
    rw [List.getLast?_map, hlast, Option.map_some, htitle]
  rw [row, rowName, hpattern]
  exact getLast?_joinTitles htitles (hc _ (List.mem_of_getElem? hsetting))

end Plan

/-! ## Jobs one after the other -/

namespace Job

variable {r : Row} {rows : List Row}

/-- What the name of a job says in the end if the job stresses the compiler. -/
def stressNote : String := ", stress JIT"

/-- The name of a job without what it says of stress. -/
def plainName (name : String) : String :=
  if stressNote.toList <:+ name.toList then
    String.ofList (name.toList.take (name.toList.length - stressNote.toList.length))
  else name

/-- Without the note of stress, a name is that of the row again. -/
theorem plainName_append (name : String) : plainName (name ++ stressNote) = name := by
  rw [plainName, String.toList_append, if_pos (List.suffix_append _ _), List.length_append,
    Nat.add_sub_cancel, List.take_left, String.ofList_toList]

/-- A name that does not end in the letter of that note has none to take away. -/
theorem plainName_eq_self {name : String} (h : name.toList.getLast? ≠ some 'T') :
    plainName name = name := by
  refine if_neg fun hsuffix => h ?_
  obtain ⟨front, hfront⟩ := hsuffix
  rw [← hfront, List.getLast?_append]
  rfl

/-- The name of a job is that of its row, perhaps with what it says of stress. -/
theorem valueOf?_name (r : Row) (stress : Bool) : (ofRowWith r stress).valueOf? "name" =
    some (.text (r.name ++ if stress then stressNote else "")) := by
  rw [ofRowWith, Dictionary.valueOf?_without_of_ne (by decide), putFields_append]
  exact Dictionary.valueOf?_put_self _ _ _

/-- A job that can be under stress is so with even odds, which costs one draw. -/
theorem ofRow_eq (h : canStress r = true) (stream : RandomStream) :
    ofRow r stream = (ofRowWith r (0.5 < stream.value), stream.skip 1) :=
  if_pos h

/-- If all rows can stress the compiler, then each job takes one draw. -/
theorem getElem?_ofRows (h : ∀ r ∈ rows, canStress r = true) (stream : RandomStream) (i : Nat) :
    (ofRows rows stream).1[i]? = rows[i]?.map fun r => (ofRow r (stream.skip i)).1 := by
  induction rows generalizing stream i with
  | nil => rfl
  | cons r rows ih =>
    rw [List.forall_mem_cons] at h
    -- Every row draws once, so the row at place `i` meets the stream after `i` draws.
    have hnext : (ofRow r stream).2 = stream.skip 1 := by rw [ofRow_eq h.1]
    rw [ofRows_cons, hnext]
    cases i with
    | zero => rfl
    | succ i =>
      rw [List.getElem?_cons_succ, List.getElem?_cons_succ, ih h.2, RandomStream.skip_skip,
        Nat.add_comm]

/-- Every job has a name, and it is that of its row but for what it says of stress. -/
theorem forall₂_names (rows : List Row) (stream : RandomStream) :
    List.Forall₂ (fun r name => ∃ stress : Bool, name = r.name ++ if stress then stressNote else "")
      rows (Document.mk (ofRows rows stream).1).names := by
  induction rows generalizing stream with
  | nil => exact .nil
  | cons r rows ih =>
    obtain ⟨stress, hstress⟩ := exists_ofRow_eq r stream
    have hname : ((ofRow r stream).1.valueOf? "name").bind Json.text? =
        some (r.name ++ if stress then stressNote else "") := by
      rw [hstress, valueOf?_name]
      rfl
    have hnames : (Document.mk (ofRows (r :: rows) stream).1).names =
        (r.name ++ if stress then stressNote else "") ::
          (Document.mk (ofRows rows (ofRow r stream).2).1).names :=
      List.filterMap_cons_some hname
    rw [hnames]
    exact .cons ⟨stress, rfl⟩ (ih _)

/-- Without what they say of stress, the names of the jobs are those of their rows, if no row has a
name that says so itself. -/
theorem map_plainName_names (h : ∀ r ∈ rows, r.name.toList.getLast? ≠ some 'T')
    (stream : RandomStream) :
    (Document.mk (ofRows rows stream).1).names.map plainName = rows.map Row.name := by
  have hnames := (List.forall₂_and_left _ _).mpr ⟨h, forall₂_names rows stream⟩
  rw [eq_comm, ← List.forall₂_eq_eq_eq, List.forall₂_map_left_iff, List.forall₂_map_right_iff]
  refine hnames.imp ?_
  rintro r name ⟨hends, stress, rfl⟩
  cases stress with
  | false => rw [if_neg Bool.false_ne_true, String.append_empty, plainName_eq_self hends]
  | true => rw [if_pos rfl, plainName_append]

end Job

/-! ## The jobs of a run -/

namespace Profile

/-- No distribution is one that cannot stress the compiler. -/
theorem ne_semeru : ∀ token ∈ distributionAxis.tokens, token ≠ "semeru" := by
  decide +kernel

/-- Whether slow tests are run is what the names of rows say last. -/
theorem getLast?_name_row (profile : Profile) {picks : List Nat}
    (h : picks ∈ profile.blueprint.tuples) :
    (profile.blueprint.row picks).name.toList.getLast? = some 's' := by
  have hpattern : profile.blueprint.namePattern =
      some (nameAxes.filterMap profile.blueprint.axisIndex?) := Plan.namePattern_lay _ _ _ _
  have hlast : (nameAxes.filterMap profile.blueprint.axisIndex?).getLast? = some 10 := by
    obtain ⟨_ | _⟩ := profile <;> decide +kernel
  have htitles : ∀ s ∈ (toggle "slow_tests" 1 10).settings,
      ((toggle "slow_tests" 1 10).titleFor s).toList.getLast? = some 's' := by decide +kernel
  have haxis : profile.blueprint.axes[10]? = some (toggle "slow_tests" 1 10) := rfl
  exact Plan.getLast?_name_row hpattern hlast haxis htitles h

end Profile

namespace Request

variable {r : Request} {row : Row}

/-- All rows of a run can stress the compiler. -/
theorem canStress_of_mem_rows (h : row ∈ r.filled.rows) : Job.canStress row = true := by
  obtain ⟨picks, hpicks, rfl⟩ := exists_picks_of_mem_rows h
  have hmem : Profile.distributionAxis ∈ r.profile.blueprint.axes := List.mem_cons_self
  have htoken := Plan.tokenOf_mem_tokens r.profile.reachable_blueprint.coherent hpicks hmem
  exact bne_iff_ne.mpr (Profile.ne_semeru _ htoken)

/-- The names of rows end in a small letter, for the last title is that of the slow tests. -/
theorem getLast?_name_of_mem_rows (h : row ∈ r.filled.rows) :
    row.name.toList.getLast? = some 's' := by
  obtain ⟨picks, hpicks, rfl⟩ := exists_picks_of_mem_rows h
  exact r.profile.getLast?_name_row hpicks

end Request

/-- The jobs of the report are those of the rows in the given order, in which each row comes with
its position among the rows. -/
structure Report.Arranges (report : Report) (rows : List Row) (stream : RandomStream)
    (order : List (Row × Nat)) : Prop where
  /-- No row is lost or repeated. -/
  perm : order.Perm rows.zipIdx
  /-- Rows come in natural order of their names, and those with the same name in the order in which
  they were made. -/
  pairwise : order.Pairwise (Text.Precedes Row.name)
  length_eq : report.document.jobs.length = rows.length
  /-- A job is that of the row in its place, made with the draw that comes after those of the jobs
  before it. -/
  getElem?_jobs : ∀ i, report.document.jobs[i]? =
    order[i]?.map fun entry => (Job.ofRow entry.1 (stream.skip i)).1
  /-- Every job takes one draw. -/
  draw : ∀ row ∈ rows, ∀ s, (Job.ofRow row s).2 = s.skip 1
  /-- The name of a job is that of its row, perhaps with what it says of stress. -/
  names : List.Forall₂ (fun entry name => ∃ stress : Bool,
    name = entry.1.name ++ if stress then ", stress JIT" else "") order report.document.names
  /-- What it says of stress can be taken off again. -/
  map_plainName : report.document.names.map Job.plainName = order.map (·.1.name)
  pairwise_names : (report.document.names.map Job.plainName).Pairwise fun a b =>
    Text.naturalOrder a b ≠ .gt

/-- A run makes the jobs of its rows in natural order of their names. It draws once for each of
them, beginning where the stream is when all rows have been made. -/
theorem jobs_in_natural_order (r : Request) (report : Report) (h : r.generate = .ok report) :
    ∃ rows stream order,
      r.filled.result = .ok (rows, stream) ∧ report.Arranges rows stream order := by
  have hlength := (Request.map_bare_jobs h).length_eq
  obtain ⟨-, count, rows, stream, -, hresult, hreport⟩ := Request.generate_eq_ok_iff.mp h
  have hrows : r.filled.rows = rows := Plan.rows_of_result hresult
  rw [List.length_map, List.length_map, hrows] at hlength
  obtain ⟨order, hsorted, hperm, horder⟩ := Text.exists_order Row.name rows
  have hdocument : report.document = ⟨(Job.ofRows (order.map (·.1)) stream).1⟩ := by
    rw [hreport, hsorted]
  have hmem : ∀ row ∈ order.map (·.1), row ∈ r.filled.rows := by
    rw [List.forall_mem_map]
    exact fun entry hentry => hrows ▸ List.fst_mem_of_mem_zipIdx (hperm.mem_iff.mp hentry)
  -- No row runs on Semeru, so each of them draws, and no name ends like the note.
  have hstress : ∀ row ∈ order.map (·.1), Job.canStress row = true := fun row hrow =>
    Request.canStress_of_mem_rows (hmem row hrow)
  have hends : ∀ row ∈ order.map (·.1), row.name.toList.getLast? ≠ some 'T' := by
    intro row hrow
    rw [Request.getLast?_name_of_mem_rows (hmem row hrow)]
    decide
  have hplain : report.document.names.map Job.plainName = order.map (·.1.name) := by
    rw [hdocument, Job.map_plainName_names hends, List.map_map]
    rfl
  refine ⟨rows, stream, order, hresult, hperm, horder, hlength, fun i => ?_, fun row hrow s => ?_,
    ?_, hplain, ?_⟩
  · rw [hdocument, Job.getElem?_ofRows hstress, List.getElem?_map, Option.map_map]
    rfl
  · rw [Job.ofRow_eq (Request.canStress_of_mem_rows (hrows ▸ hrow))]
  · rw [hdocument]
    exact List.forall₂_map_left_iff.mp (Job.forall₂_names _ stream)
  · rw [hplain, List.pairwise_map]
    exact horder.imp Text.Precedes.ne_gt

/-- The rows for the goals alone are arranged. -/
theorem jobs_in_natural_order_seven :
    let r : Request := { seed := 1, jobs := 0 }
    ∃ report rows stream order, r.generate = .ok report ∧ report.forced = 7 ∧
      r.filled.result = .ok (rows, stream) ∧ report.Arranges rows stream order := by
  intro r
  obtain ⟨report, h, hforced⟩ := exists_report_goals
  obtain ⟨rows, stream, order, hresult, harranges⟩ := jobs_in_natural_order r report h
  exact ⟨report, rows, stream, order, h, hforced, hresult, harranges⟩

end TestMatrix

import TestMatrix.Proofs.Plan.Emission
import TestMatrix.Proofs.Profile.Laying
import TestMatrix.Proofs.Request.Goals

/-!
# The rows of a run

Once the matrix has been laid down, all that a run does to the plan is to add rows and to move the
stream (`Plan.forceAll_adds`, `Request.filled_eq`). So the rows of a run are described by the
blueprint of its profile alone: each is the row of one pick for every axis, and no picks are made
into a row twice (`Request.exists_picks`).
-/

namespace TestMatrix

/-! ## Settings in a row -/

/-- If no axis has two cells, then the setting of an axis is that of any cell of it. -/
theorem Row.setting?_of_mem {r : Row} (hnodup : (r.cells.map (·.axis)).Nodup) {cell : Cell}
    (hcell : cell ∈ r.cells) : r.setting? cell.axis = some cell.setting := by
  have hsome : (r.cells.find? (·.axis == cell.axis)).isSome = true :=
    List.find?_isSome.mpr ⟨cell, hcell, beq_self_eq_true _⟩
  obtain ⟨cell', hfind⟩ := Option.isSome_iff_exists.mp hsome
  have haxis : cell'.axis = cell.axis := by simpa using List.find?_some hfind
  obtain rfl : cell' = cell :=
    List.inj_on_of_nodup_map hnodup (List.mem_of_find?_eq_some hfind) hcell haxis
  rw [setting?, hfind, Option.map_some]

namespace Plan

variable {p : Plan} {picks : List Nat}

/-- A complete row has a cell for every axis, in their order. -/
theorem map_axis_cells (h : picks.length = p.axes.length) :
    (p.row picks).cells.map (·.axis) = p.axes.map (·.name) := by
  refine List.ext_getElem? fun i => ?_
  rw [row, cells, List.getElem?_map, List.getElem?_zipWith, List.getElem?_map]
  by_cases hi : i < p.axes.length
  · simp [hi, h]
  · simp [hi]

/-- So no axis has two cells. -/
theorem nodup_axis_cells (hp : p.Coherent) (h : picks ∈ p.tuples) :
    ((p.row picks).cells.map (·.axis)).Nodup := by
  rw [map_axis_cells (mem_tuples.mp h).1]
  exact hp.nodup_names

/-- A row has a token of each axis. -/
theorem tokenOf_mem_tokens (hp : p.Coherent) (h : picks ∈ p.tuples) {a : Axis} (ha : a ∈ p.axes) :
    (p.row picks).tokenOf a.name ∈ a.tokens := by
  obtain ⟨i, ha⟩ := List.mem_iff_getElem?.mp ha
  obtain ⟨index, hindex, hsetting⟩ := exists_setting h ha
  have hcell : (⟨a.name, a.settingAt index⟩ : Cell) ∈ (p.row picks).cells :=
    List.mem_of_getElem? (getElem?_cells ha hindex)
  rw [Row.tokenOf, Row.setting?_of_mem (nodup_axis_cells hp h) hcell]
  exact List.mem_map_of_mem (List.mem_of_getElem? hsetting)

/-! ## Adding rows only -/

theorem enterAll_enterAll (p : Plan) (added added' : List (List Nat)) :
    (p.enterAll added).enterAll added' = p.enterAll (added ++ added') := by
  induction added generalizing p with
  | nil => rw [enterAll_nil, List.nil_append]
  | cons picks added ih => rw [enterAll_cons, ih, List.cons_append, enterAll_cons]

/-- Forcing rows for several selectors adds rows, and moves the stream. -/
theorem forceAll_adds (hp : p.Coherent) (selectors : List Selector) : ∃ added stream,
    (p.forceAll selectors).1 = { p.enterAll added with stream } := by
  induction selectors generalizing p with
  | nil => exact ⟨[], p.stream, by rw [enterAll_nil]; rfl⟩
  | cons s rest ih =>
    obtain ⟨added, stream, hforce, -⟩ := force_adds hp s
    rw [forceAll_cons]
    cases (p.force s).2 with
    | error e => exact ⟨added, stream, hforce⟩
    | ok row =>
      have hnext : (p.force s).1.Coherent := by
        rw [hforce]
        exact (hp.enterAll added).of_stream stream
      obtain ⟨added', stream', hrest⟩ := ih hnext
      refine ⟨added ++ added', stream', ?_⟩
      rw [← enterAll_enterAll, hrest, hforce]
      rfl

/-- So does filling the plan up afterwards. -/
theorem fill_forceAll_adds (hp : p.Coherent) (selectors : List Selector) (count : Nat) :
    ∃ added stream,
      (p.forceAll selectors).1.fill count = { p.enterAll added with stream } := by
  obtain ⟨added, stream, hforced⟩ := forceAll_adds hp selectors
  obtain ⟨added', stream', hfill, -⟩ :=
    fill_adds count ((hp.enterAll added).of_stream stream)
  refine ⟨added ++ added', stream', ?_⟩
  rw [hforced, hfill, ← enterAll_enterAll]
  rfl

/-- Settings have nothing to do with the rows that picks describe. -/
theorem enterAll_settings (p : Plan) (strict : Bool) (budget : Budget) (stream : RandomStream)
    (added : List (List Nat)) : { p with strict, budget, stream }.enterAll added =
      { p.enterAll added with strict, budget, stream } :=
  rfl

/-- Besides its settings, a laid-down plan does not depend on the seed. -/
theorem lay_settings (axes : List Axis) (names : List String) (constraints : List Constraint)
    (seed : UInt64) : { (ofSeed seed).lay axes names constraints with
        strict := false, budget := {}, stream := .ofSeed seed } =
      (ofSeed seed).lay axes names constraints :=
  rfl

end Plan

/-- The blueprint is made by operations. -/
theorem Profile.reachable_blueprint (profile : Profile) : profile.blueprint.Reachable := by
  have hreach := (Request.reachable_plan { seed := 0, profile }).1
  rw [Request.plan_eq] at hreach
  dsimp only at hreach
  rwa [blueprint, Plan.lay_settings] at hreach

namespace Request

variable (r : Request)

/-- The plan of a run is the blueprint of its profile with rows, and with the settings of the
request. -/
theorem filled_eq : ∃ added stream, r.filled =
    { r.profile.blueprint.enterAll added with strict := r.strict, budget := r.budget, stream } := by
  obtain ⟨added, stream, hfilled⟩ := Plan.fill_forceAll_adds r.reachable_plan.1.coherent
    (r.profile.goals r.plan.1) r.jobs
  refine ⟨added, stream, ?_⟩
  rw [filled, forced, hfilled, plan_eq, Plan.enterAll_settings]

/-- The rows of a run are those of picks for all axes of its profile, no two of them the same. -/
theorem exists_picks : ∃ added : List (List Nat),
    r.filled.rows = added.map r.profile.blueprint.row ∧ added.Nodup ∧
      ∀ picks ∈ added, picks ∈ r.profile.blueprint.tuples := by
  obtain ⟨added, stream, hfilled⟩ := r.filled_eq
  have hwf : r.filled.WellFormed := r.reachable_filled.wellFormed
  have hempty : r.profile.blueprint.entries = [] := rfl
  rw [hfilled] at hwf ⊢
  generalize r.profile.blueprint = p at *
  have hpicks : (p.enterAll added).entries.map (·.picks) = added := by
    rw [Plan.map_picks_enterAll, hempty, List.map_nil, List.nil_append]
  have hentries : (p.enterAll added).entries = added.map p.entryOf := by
    rw [Plan.enterAll, hempty, List.nil_append]
  refine ⟨added, ?_, hpicks ▸ hwf.nodup, ?_⟩
  · rw [Plan.rows, hentries, List.map_map]
    rfl
  · rw [← hpicks, List.forall_mem_map]
    exact hwf.mem_tuples

/-- A row of a run is described by picks in the blueprint of its profile. -/
theorem exists_picks_of_mem_rows {r : Request} {row : Row} (h : row ∈ r.filled.rows) :
    ∃ picks ∈ r.profile.blueprint.tuples, row = r.profile.blueprint.row picks := by
  obtain ⟨added, hrows, -, htuples⟩ := r.exists_picks
  rw [hrows] at h
  obtain ⟨picks, hpicks, rfl⟩ := List.mem_map.mp h
  exact ⟨picks, htuples picks hpicks, rfl⟩

end Request

end TestMatrix

import Mathlib.Data.List.Induction
import TestMatrix.Proofs.Plan.Shape

/-!
# Where rows come from

A row is what its picks stand for (`Describes`): the settings that were picked, axis by axis, under
a name made of titles. Which titles those are depends on the name pattern, and that may be replaced
between two rows, so `Made` says of a row which of the operations made it and in which plan.
`consistent_after` collects what holds of every plan that operations lead to.
-/

namespace TestMatrix.Plan

variable {p q : Plan} {picks : List Nat}

/-- The title that the picks give the axis at a position. -/
def IsTitle (p : Plan) (picks : List Nat) (i : Nat) (title : String) : Prop :=
  ∃ a index setting, p.axes[i]? = some a ∧ picks[i]? = some index ∧
    a.settings[index]? = some setting ∧ a.titleFor setting = title

/-- The row has the picked setting of every axis, in the order of the axes, and the titles of the
axes in the name pattern make up its name. -/
structure Describes (p : Plan) (picks : List Nat) (r : Row) : Prop where
  length_picks : picks.length = p.axes.length
  length_cells : r.cells.length = p.axes.length
  /-- The cell of an axis has the setting that was picked. -/
  cell : ∀ (i : Nat) (a : Axis), p.axes[i]? = some a → ∃ index setting, picks[i]? = some index ∧
    a.settings[index]? = some setting ∧ r.cells[i]? = some ⟨a.name, setting⟩
  /-- The name is made of the titles of the axes in the pattern, or of all axes if there is none. -/
  name : ∃ titles, r.name = joinTitles titles ∧
    List.Forall₂ (p.IsTitle picks) (p.namePattern.getD (List.range p.axes.length)) titles

/-- Complete picks have a setting of every axis. -/
theorem exists_setting (h : picks ∈ p.tuples) {i : Nat} {a : Axis} (ha : p.axes[i]? = some a) :
    ∃ index, picks[i]? = some index ∧ a.settings[index]? = some (a.settingAt index) := by
  obtain ⟨hlength, hrange⟩ := mem_tuples.mp h
  have hi : i < picks.length := hlength ▸ (List.getElem?_eq_some_iff.mp ha).1
  obtain ⟨a', ha', hlt⟩ := hrange i picks[i] (List.getElem?_eq_getElem hi)
  obtain rfl : a = a' := Option.some.inj (ha.symm.trans ha')
  exact ⟨picks[i], List.getElem?_eq_getElem hi, Axis.getElem?_settings hlt⟩

/-- The cell of an axis holds the setting that was picked for it. -/
theorem getElem?_cells {i index : Nat} {a : Axis} (ha : p.axes[i]? = some a)
    (hindex : picks[i]? = some index) : (p.cells picks)[i]? = some ⟨a.name, a.settingAt index⟩ := by
  rw [cells, List.getElem?_zipWith, ha, hindex]

/-- The title of an axis is that of its cell. -/
theorem isTitle_titleAt (h : picks ∈ p.tuples) {i : Nat} (hi : i < p.axes.length) :
    p.IsTitle picks i (p.titleAt picks i) := by
  have ha : p.axes[i]? = some p.axes[i] := List.getElem?_eq_getElem hi
  obtain ⟨index, hindex, hsetting⟩ := exists_setting h ha
  exact ⟨_, index, _, ha, hindex, hsetting, by rw [titleAt, ha, hindex]⟩

/-- The row for complete picks is what they stand for. -/
theorem describes_row (hwf : p.WellFormed) (h : picks ∈ p.tuples) :
    p.Describes picks (p.row picks) := by
  have hlength : picks.length = p.axes.length := (mem_tuples.mp h).1
  refine ⟨hlength, by simp [row, cells, hlength], fun i a ha => ?_, ?_⟩
  · obtain ⟨index, hindex, hsetting⟩ := exists_setting h ha
    exact ⟨index, _, hindex, hsetting, getElem?_cells ha hindex⟩
  · refine ⟨_, rfl, ?_⟩
    rw [List.forall₂_map_right_iff, List.forall₂_same]
    intro i hi
    refine isTitle_titleAt h ?_
    cases hpattern : p.namePattern with
    | none => simpa [hpattern] using hi
    | some pattern => exact hwf.pattern_lt pattern hpattern i (by simpa [hpattern] using hi)

/-! ## Rows in the course of operations -/

/-- One of the operations on `start` made the row that is now at position `i`, from the picks and
under the name pattern that the plan had then. Its axes are those that the plan has now. -/
def Made (start : Plan) (actions : List Action) (i : Nat) (e : Entry) : Prop :=
  ∃ before action rest, actions = before ++ action :: rest ∧
    (start.after before).entries.length ≤ i ∧
    i < (start.after (before ++ [action])).entries.length ∧
    (start.after before).axes = (start.after actions).axes ∧
    (start.after before).Describes e.picks e.row

/-- Every row was made by one of the operations. -/
theorem made_of_getElem? (stream : RandomStream) (actions : List Action) {i : Nat} {e : Entry}
    (h : ((ofStream stream).after actions).entries[i]? = some e) :
    Made (ofStream stream) actions i e := by
  induction actions using List.reverseRecOn with
  | nil => exact absurd h (by simp [after, ofStream])
  | append_singleton actions action ih =>
    have hchange := change_after stream actions action
    -- There is a row now, so the axes have not changed since the first one was made.
    have haxes := hchange.axes_eq fun hnil => by simp [hnil] at h
    obtain ⟨added, hentries, hadds⟩ := hchange.entries
    by_cases hold : i < ((ofStream stream).after actions).entries.length
    · rw [hentries, List.getElem?_append_left hold] at h
      obtain ⟨before, action', rest, hsplit, hle, hlt, haxes', hdescribes⟩ := ih h
      refine ⟨before, action', rest ++ [action], by simp [hsplit], hle, hlt, ?_, hdescribes⟩
      rw [haxes', haxes]
    · refine ⟨actions, action, [], rfl, Nat.le_of_not_lt hold,
        (List.getElem?_eq_some_iff.mp h).1, haxes.symm, ?_⟩
      rw [hentries, List.getElem?_append_right (Nat.le_of_not_lt hold), List.getElem?_map,
        Option.map_eq_some_iff] at h
      obtain ⟨picks, hpicks, rfl⟩ := h
      have hremaining := hadds.mem_remainingFor picks (List.mem_of_getElem? hpicks)
      exact describes_row (reachable_after stream actions).wellFormed
        (mem_remaining.mp (mem_remainingFor.mp hremaining).1).1

/-! ## Rows and their tokens -/

/-- Rows that are made from different picks differ in a token. -/
theorem picks_eq_of_tokens_eq (hwf : p.WellFormed) {picks' : List Nat} (h : picks ∈ p.tuples)
    (h' : picks' ∈ p.tuples) (htokens : (p.row picks).tokens = (p.row picks').tokens) :
    picks = picks' := by
  have hlength : picks.length = p.axes.length := (mem_tuples.mp h).1
  have hlength' : picks'.length = p.axes.length := (mem_tuples.mp h').1
  refine List.ext_getElem? fun i => ?_
  by_cases hi : i < p.axes.length
  · have ha : p.axes[i]? = some p.axes[i] := List.getElem?_eq_getElem hi
    obtain ⟨index, hindex, hsetting⟩ := exists_setting h ha
    obtain ⟨index', hindex', hsetting'⟩ := exists_setting h' ha
    -- The rows agree on the token of this axis, and the axis has that token only once.
    have htoken : p.axes[i].tokens[index]? = p.axes[i].tokens[index']? := by
      have hi' := congrArg (·[i]?) htokens
      simpa [Row.tokens, row, getElem?_cells ha hindex, getElem?_cells ha hindex', Axis.tokens,
        hsetting, hsetting'] using hi'
    have hnodup := (Axis.check_eq_ok_iff.mp (hwf.check_axis _ (List.getElem_mem hi))).2.2.1
    have hlt : index < p.axes[i].tokens.length := by
      simpa [Axis.tokens] using (List.getElem?_eq_some_iff.mp hsetting).1
    rw [hindex, hindex', (List.getElem?_inj hlt hnodup).mp htoken]
  · rw [List.getElem?_eq_none (by omega), List.getElem?_eq_none (by omega)]

/-- The tokens of a row are those of its picks. -/
theorem tokens_of_mem (hwf : p.WellFormed) {e : Entry} (he : e ∈ p.entries) :
    e.row.tokens = (p.row e.picks).tokens := by
  rw [Row.tokens, hwf.cells_eq e he]
  rfl

/-- Rows with the same tokens have the same picks, because the tokens of an axis differ. -/
theorem tokens_eq_iff (hwf : p.WellFormed) {e e' : Entry} (he : e ∈ p.entries)
    (he' : e' ∈ p.entries) : e.row.tokens = e'.row.tokens ↔ e.picks = e'.picks := by
  rw [tokens_of_mem hwf he, tokens_of_mem hwf he']
  refine ⟨?_, fun h => by rw [h]⟩
  exact picks_eq_of_tokens_eq hwf (hwf.mem_tuples e he) (hwf.mem_tuples e' he')

/-- No two rows have the same tokens. -/
theorem nodup_tokens (hwf : p.WellFormed) : (p.rows.map (·.tokens)).Nodup := by
  have htokens : p.rows.map (·.tokens) =
      (p.entries.map (·.picks)).map fun picks => (p.row picks).tokens := by
    rw [rows, List.map_map, List.map_map]
    exact List.map_congr_left fun e he => tokens_of_mem hwf he
  rw [htokens]
  refine List.Nodup.map_on ?_ hwf.nodup
  intro picks hpicks picks' hpicks' heq
  obtain ⟨e, he, rfl⟩ := List.mem_map.mp hpicks
  obtain ⟨e', he', rfl⟩ := List.mem_map.mp hpicks'
  exact picks_eq_of_tokens_eq hwf (hwf.mem_tuples e he) (hwf.mem_tuples e' he') heq

/-! ## All together -/

/-- No two axes have the same name. -/
theorem Coherent.nodup_names (hp : p.Coherent) : (p.axes.map (·.name)).Nodup := by
  rw [List.nodup_iff_getElem?_ne_getElem?]
  intro i j hij hj heq
  rw [List.length_map] at hj
  have hi : i < p.axes.length := by omega
  have hname : p.axes[i].name = p.axes[j].name := by simpa [hi, hj] using heq
  have hsame := hp.index_inj (List.getElem?_eq_getElem hi) (List.getElem?_eq_getElem hj) hname
  omega

/-- The axes, the references to them and the rows of the plan are in order. -/
structure Consistent (p : Plan) : Prop where
  name_ne_empty : ∀ a ∈ p.axes, a.name ≠ ""
  nodup_names : (p.axes.map (·.name)).Nodup
  /-- A name is found at the position of the axis that bears it. -/
  axisIndex?_eq_some_iff : ∀ name i,
    p.axisIndex? name = some i ↔ ∃ a, p.axes[i]? = some a ∧ a.name = name
  settings_ne_nil : ∀ a ∈ p.axes, a.settings ≠ []
  nodup_tokens : ∀ a ∈ p.axes, a.tokens.Nodup
  /-- The selectors of constraints name axes of the plan. -/
  selector_axis : ∀ c ∈ p.constraints, ∀ s ∈ c.selectors, ∀ entry ∈ s.entries,
    ∃ a ∈ p.axes, a.name = entry.1
  /-- The name pattern refers to axes of the plan. -/
  pattern_lt : ∀ pattern, p.namePattern = some pattern → ∀ i ∈ pattern, i < p.axes.length
  /-- Every row was made from one pick for each axis, and the picks are indices of settings. -/
  row_picks : ∀ e ∈ p.entries, e.picks.length = p.axes.length ∧ p.InRange e.picks
  /-- The picks that have been seen are those of the rows. -/
  mem_seen : ∀ picks, picks ∈ p.seen ↔ picks ∈ p.entries.map (·.picks)
  nodup_picks : (p.entries.map (·.picks)).Nodup
  nodup_row_tokens : (p.rows.map (·.tokens)).Nodup
  /-- Rows have the same tokens just if they have the same picks. -/
  row_tokens_iff : ∀ e ∈ p.entries, ∀ e' ∈ p.entries,
    (e.row.tokens = e'.row.tokens ↔ e.picks = e'.picks)
  /-- The picks of a search are indices of settings, and so are those that it tries next. -/
  inRange_path : ∀ pinned path, Search.Leads (p.branches pinned) [] path → p.InRange path ∧
    ∀ a, p.axes[path.length]? = some a → ∀ index < a.settings.length, p.InRange (path ++ [index])

/-- Every plan that operations lead to is consistent. -/
theorem Reachable.consistent (h : p.Reachable) : p.Consistent := by
  have hp := h.coherent
  have hwf := h.wellFormed
  have hcheck : ∀ a ∈ p.axes, a.name ≠ "" ∧ a.settings ≠ [] ∧ a.tokens.Nodup := fun a ha =>
    have hsound := Axis.check_eq_ok_iff.mp (hwf.check_axis a ha)
    ⟨hsound.1, hsound.2.1, hsound.2.2.1⟩
  refine
    { name_ne_empty := fun a ha => (hcheck a ha).1
      nodup_names := hp.nodup_names
      axisIndex?_eq_some_iff := hp.axisIndex?_eq_some_iff
      settings_ne_nil := fun a ha => (hcheck a ha).2.1
      nodup_tokens := fun a ha => (hcheck a ha).2.2
      selector_axis := ?_
      pattern_lt := hwf.pattern_lt
      row_picks := fun e he => mem_tuples.mp (hwf.mem_tuples e he)
      mem_seen := hp.mem_seen
      nodup_picks := hwf.nodup
      nodup_row_tokens := Plan.nodup_tokens hwf
      row_tokens_iff := fun e he e' he' => tokens_eq_iff hwf he he'
      inRange_path := ?_ }
  · intro c hc s hs entry hentry
    obtain ⟨i, hi⟩ := Option.isSome_iff_exists.mp (hwf.knows c hc s hs entry hentry)
    obtain ⟨a, ha, hname⟩ := (hp.axisIndex?_eq_some_iff entry.1 i).mp hi
    exact ⟨a, List.mem_of_getElem? ha, hname⟩
  · intro pinned path hpath
    have hrange : p.InRange path := by simpa using inRange_of_leads hpath (inRange_nil p)
    refine ⟨hrange, fun a ha index hlt => ?_⟩
    exact inRange_append_singleton.mpr ⟨hrange, a, ha, hlt⟩

/-- Whatever is done with a plan, failed operations included, its parts stay consistent, and its
rows are those that the operations made. -/
theorem consistent_after (stream : RandomStream) (actions : List Action) :
    ((ofStream stream).after actions).Consistent ∧
      ∀ i e, ((ofStream stream).after actions).entries[i]? = some e →
        Made (ofStream stream) actions i e :=
  ⟨(reachable_after stream actions).consistent, fun _ _ h => made_of_getElem? stream actions h⟩

end TestMatrix.Plan

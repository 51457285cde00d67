import TestMatrix.Proofs.Plan.Emission
import TestMatrix.Proofs.Request.Fields
import TestMatrix.Proofs.Request.Jobs

/-!
# What the flat form of a row keeps

In the flat form of a row the name and the axes share one dictionary, and the axes are put into it
last. So the token of every axis is there, under the name of the axis, whatever these names are
(`Row.valueOf?_toObject_eq`). The tokens tell the rows of a plan apart, and therefore no two of them
have the same flat form.

The name of the row is there only as long as no axis takes its key. A plan takes an axis of any name
that is neither empty nor taken, `name` among them, and then the flat form has one field less and
the name of the row is lost (`Plan.showsAll_iff`, `Plan.showsAll_lost_labelled`).
-/

namespace TestMatrix

namespace Row

variable {r : Row} {axes : List Axis}

/-- The field of a key has the token of the axis of that name. If there is no such axis, then it is
the field for the name of the row, or there is none. -/
theorem valueOf?_toObject_eq (hnodup : (r.cells.map (·.axis)).Nodup) (key : String) :
    r.toObject.valueOf? key = ((r.setting? key).map fun s => .text s.token).or
      (if key = "name" then some (.text r.name) else none) := by
  have hname : (Dictionary.put "name" (Json.text r.name) []).valueOf? key =
      if key = "name" then some (.text r.name) else none := by
    split
    · next heq => rw [heq, Dictionary.valueOf?_put_self]
    · next hne =>
      rw [Dictionary.valueOf?_put_of_ne hne]
      rfl
  rw [toObject, valueOf?_foldl_put hnodup, hname, setting?, Option.map_map]
  rfl

/-- A row has a setting under the names of its cells. -/
theorem isSome_setting?_iff {key : String} :
    (r.setting? key).isSome = true ↔ key ∈ r.cells.map (·.axis) := by
  rw [setting?, Option.isSome_map, List.find?_isSome, List.mem_map]
  simp only [beq_iff_eq]

/-- The fields are those of the axes and the one for the name, which may be the same as one of
them. -/
theorem keys_toObject_perm (hnodup : (r.cells.map (·.axis)).Nodup) :
    (r.toObject.map (·.1)).Perm
      (if "name" ∈ r.cells.map (·.axis) then r.cells.map (·.axis)
        else "name" :: r.cells.map (·.axis)) := by
  have hkeys : (r.toObject.map (·.1)).Nodup := (Job.flat_toObject r).sorted.nodup_keys
  -- No key is there twice on either side, so only membership has to be compared.
  have hmem : ∀ key, key ∈ r.toObject.map (·.1) ↔ key ∈ r.cells.map (·.axis) ∨ key = "name" := by
    intro key
    rw [Dictionary.mem_keys_iff, valueOf?_toObject_eq hnodup, Option.isSome_or, Option.isSome_map,
      Bool.or_eq_true, isSome_setting?_iff]
    by_cases hname : key = "name" <;> simp [hname]
  split
  · next hname =>
    refine (List.perm_ext_iff_of_nodup hkeys hnodup).mpr fun key => ?_
    rw [hmem]
    exact ⟨fun h => h.elim id fun heq => heq ▸ hname, .inl⟩
  · next hname =>
    refine (List.perm_ext_iff_of_nodup hkeys (List.nodup_cons.mpr ⟨hname, hnodup⟩)).mpr
      fun key => ?_
    rw [hmem, List.mem_cons, or_comm]

/-- The flat form of the row shows all of it: besides the field for the name there is one for each
of the axes, and these have the name of the row and the tokens of its settings. -/
structure ShowsAll (r : Row) (axes : List Axis) : Prop where
  length_eq : r.toObject.length = axes.length + 1
  valueOf?_name : r.toObject.valueOf? "name" = some (.text r.name)
  valueOf?_axis : ∀ a ∈ axes, ∃ s ∈ a.settings, r.setting? a.name = some s ∧
    r.toObject.valueOf? a.name = some (.text s.token)

end Row

namespace Plan

variable {p : Plan} {e e' : Entry}

/-- The rows of a plan have a cell for each of its axes. -/
theorem map_axis_of_mem (hwf : p.WellFormed) (he : e ∈ p.entries) :
    e.row.cells.map (·.axis) = p.axes.map (·.name) := by
  rw [hwf.cells_eq e he]
  exact map_axis_cells (mem_tuples.mp (hwf.mem_tuples e he)).1

/-- A row has a setting of every axis. -/
theorem exists_setting?_of_mem (hp : p.Coherent) (hwf : p.WellFormed) (he : e ∈ p.entries)
    {a : Axis} (ha : a ∈ p.axes) : ∃ s ∈ a.settings, e.row.setting? a.name = some s := by
  obtain ⟨i, ha⟩ := List.mem_iff_getElem?.mp ha
  obtain ⟨index, hindex, hsetting⟩ := exists_setting (hwf.mem_tuples e he) ha
  have hcell : (⟨a.name, a.settingAt index⟩ : Cell) ∈ e.row.cells := by
    rw [hwf.cells_eq e he]
    exact List.mem_of_getElem? (getElem?_cells ha hindex)
  have hnodup : (e.row.cells.map (·.axis)).Nodup := by
    rw [map_axis_of_mem hwf he]
    exact hp.nodup_names
  exact ⟨_, List.mem_of_getElem? hsetting, Row.setting?_of_mem hnodup hcell⟩

/-- Rows that have the same tokens are the same. -/
theorem eq_of_tokens_eq (hwf : p.WellFormed) (he : e ∈ p.entries) (he' : e' ∈ p.entries)
    (h : e.row.tokens = e'.row.tokens) : e = e' :=
  List.inj_on_of_nodup_map hwf.nodup he he' ((tokens_eq_iff hwf he he').mp h)

/-- The flat forms of two rows of a plan have the same tokens only if the rows have. -/
theorem tokens_eq_of_toObject_eq (hp : p.Coherent) (hwf : p.WellFormed) (he : e ∈ p.entries)
    (he' : e' ∈ p.entries) (h : e.row.toObject = e'.row.toObject) :
    e.row.tokens = e'.row.tokens := by
  have haxes := map_axis_of_mem hwf he
  have haxes' := map_axis_of_mem hwf he'
  have hnodup : (e.row.cells.map (·.axis)).Nodup := haxes ▸ hp.nodup_names
  have hnodup' : (e'.row.cells.map (·.axis)).Nodup := haxes' ▸ hp.nodup_names
  rw [Row.tokens_eq hnodup, Row.tokens_eq hnodup', haxes, haxes', List.map_map, List.map_map]
  -- The field of every axis holds its token, also where it has taken the place of the name.
  refine List.map_congr_left fun a ha => ?_
  obtain ⟨s, -, hs⟩ := exists_setting?_of_mem hp hwf he ha
  obtain ⟨s', -, hs'⟩ := exists_setting?_of_mem hp hwf he' ha
  have hfield := congrArg (·.valueOf? a.name) h
  simp only [Row.valueOf?_toObject_eq hnodup, Row.valueOf?_toObject_eq hnodup', hs, hs',
    Option.map_some, Option.some_or, Option.some.injEq, Json.text.injEq] at hfield
  simp only [Function.comp_apply, Row.tokenOf, hs, hs', hfield]

/-- The flat form of a row has a field for every axis of the plan with the token of its setting, and
a field for the name of the row besides, unless an axis is called so. It shows all of the row
exactly if no axis is. In any case rows with the same flat form have the same name and the same
tokens. -/
theorem showsAll_iff (hp : p.Reachable) :
    (∀ r ∈ p.rows,
      (r.ShowsAll p.axes ↔ "name" ∉ p.axes.map (·.name)) ∧
      (r.toObject.map (·.1)).Perm (if "name" ∈ p.axes.map (·.name) then p.axes.map (·.name)
        else "name" :: p.axes.map (·.name)) ∧
      ∀ a ∈ p.axes, ∃ s ∈ a.settings, r.setting? a.name = some s ∧
        r.toObject.valueOf? a.name = some (.text s.token)) ∧
    ∀ r ∈ p.rows, ∀ r' ∈ p.rows, r.toObject = r'.toObject →
      r.name = r'.name ∧ r.tokens = r'.tokens := by
  have hwf := hp.wellFormed
  have hp := hp.coherent
  constructor
  · intro r hr
    obtain ⟨e, he, rfl⟩ := List.mem_map.mp hr
    have haxes := map_axis_of_mem hwf he
    have hnodup : (e.row.cells.map (·.axis)).Nodup := haxes ▸ hp.nodup_names
    have hkeys := haxes ▸ Row.keys_toObject_perm hnodup
    have htokens : ∀ a ∈ p.axes, ∃ s ∈ a.settings, e.row.setting? a.name = some s ∧
        e.row.toObject.valueOf? a.name = some (.text s.token) := by
      intro a ha
      obtain ⟨s, hmem, hs⟩ := exists_setting?_of_mem hp hwf he ha
      exact ⟨s, hmem, hs, by rw [Row.valueOf?_toObject_eq hnodup, hs]; rfl⟩
    have hlength := hkeys.length_eq
    refine ⟨⟨fun hshows hname => ?_, fun hname => ⟨?_, ?_, htokens⟩⟩, hkeys, htokens⟩
    · have hmore := hshows.length_eq
      simp [hname] at hlength
      omega
    · simpa [hname] using hlength
    · have hnone : e.row.setting? "name" = none := by
        rw [← Option.not_isSome_iff_eq_none, Row.isSome_setting?_iff, haxes]
        exact hname
      rw [Row.valueOf?_toObject_eq hnodup, hnone]
      rfl
  · intro r hr r' hr' h
    obtain ⟨e, he, rfl⟩ := List.mem_map.mp hr
    obtain ⟨e', he', rfl⟩ := List.mem_map.mp hr'
    have hsame : e = e' := eq_of_tokens_eq hwf he he' (tokens_eq_of_toObject_eq hp hwf he he' h)
    exact ⟨by rw [hsame], by rw [hsame]⟩

/-- The axes of the small plan have other names, so its rows are shown in full. -/
theorem showsAll_encryption :
    encryption.rows.length = 2 ∧ ∀ r ∈ encryption.rows, r.ShowsAll encryption.axes := by
  have hname : "name" ∉ encryption.axes.map (·.name) := by decide +kernel
  refine ⟨by decide +kernel, fun r hr => ?_⟩
  exact (((showsAll_iff reachable_encryption).1 r hr).1).mpr hname

/-- An axis whose name is that of the field for the name, and another axis. -/
def labelledActions : List Action :=
  [.insertAxis { name := "name", settings := [{ token := "linux", title := some "On Linux" }] },
    .insertAxis (onOff "ssl"), .fill 1]

/-- The plan that these operations make. -/
def labelled : Plan := (ofStream (.ofSeed 7)).after labelledActions

/-- The plan takes the axis, and the name of its row is replaced by the token. -/
theorem showsAll_lost_labelled : labelled.Reachable ∧ ∃ r, labelled.rows = [r] ∧
    r.name = "On Linux, on" ∧ r.toObject = [("name", .text "linux"), ("ssl", .text "on")] ∧
    ¬r.ShowsAll labelled.axes := by
  have hrows : labelled.rows.map (fun r => (r.name, r.toObject)) =
      [("On Linux, on", [("name", .text "linux"), ("ssl", .text "on")])] := by
    with_unfolding_all rfl
  obtain ⟨r, hr, hshown⟩ := List.map_eq_singleton_iff.mp hrows
  obtain ⟨hname, hobject⟩ := Prod.mk.inj hshown
  refine ⟨reachable_after _ _, r, hr, hname, hobject, fun hshows => ?_⟩
  have hlength := hshows.length_eq
  rw [hobject] at hlength
  exact absurd hlength (by decide +kernel)

end Plan

end TestMatrix

import Mathlib.Data.List.Nodup
import TestMatrix.Plan.Generation
import TestMatrix.Proofs.Verdict

/-!
# Picks and the rows that they describe

Picks are indices of settings, one for each of the first axes. `tuples` lists all the ways to pick a
setting for every axis, without regard to constraints. On complete picks the assignment that a
search looks at is that of the row (`assignment_row`), and picks that are added later only extend it
(`extends_append`), so that picks which are bound to break a constraint never become part of a valid
row (`isInvalid_of_isDoomed`).

A plan keeps the names of its axes and the picks of its rows a second time, for looking them up.
`Coherent` says that these records agree with the axes and the rows.
-/

namespace TestMatrix

/-- What is found in a list with one more element is in the list or that element. -/
theorem getElem?_concat_eq_some_iff {α : Type} {xs : List α} {x y : α} {i : Nat} :
    (xs ++ [x])[i]? = some y ↔ xs[i]? = some y ∨ i = xs.length ∧ x = y := by
  rcases Nat.lt_trichotomy i xs.length with hlt | rfl | hgt
  · rw [List.getElem?_append_left hlt]
    simp [Nat.ne_of_lt hlt]
  · simp
  · have hnone : xs[i]? = none := List.getElem?_eq_none (Nat.le_of_lt hgt)
    have hnone' : (xs ++ [x])[i]? = none := List.getElem?_eq_none (by simp; omega)
    simp [hnone, hnone', Nat.ne_of_gt hgt]

/-- An index in range stands for the setting there, not for a default. -/
theorem Axis.getElem?_settings {a : Axis} {index : Nat} (h : index < a.settings.length) :
    a.settings[index]? = some (a.settingAt index) := by
  rw [settingAt, List.getD_eq_getElem?_getD, List.getElem?_eq_getElem h, Option.getD_some]

namespace Plan

variable {p : Plan} {picks rest : List Nat}

/-! ## Ranges -/

/-- Every pick is the index of a setting of its axis. -/
def InRange (p : Plan) (picks : List Nat) : Prop :=
  ∀ i index : Nat, picks[i]? = some index → ∃ a, p.axes[i]? = some a ∧ index < a.settings.length

theorem inRange_nil (p : Plan) : p.InRange [] := fun i index h => absurd h (by simp)

/-- One pick more has to be in the range of the next axis. -/
theorem inRange_append_singleton {index : Nat} :
    p.InRange (picks ++ [index]) ↔
      p.InRange picks ∧ ∃ a, p.axes[picks.length]? = some a ∧ index < a.settings.length := by
  simp only [InRange, getElem?_concat_eq_some_iff]
  constructor
  · intro h
    exact ⟨fun i v hi => h i v (.inl hi), h picks.length index (.inr ⟨rfl, rfl⟩)⟩
  · rintro ⟨hpicks, hlast⟩ i v (hi | ⟨rfl, rfl⟩)
    · exact hpicks i v hi
    · exact hlast

/-! ## All tuples -/

/-- How many settings the axes have. -/
def sizes (p : Plan) : List Nat := p.axes.map fun a => a.settings.length

/-- All lists of indices, with one below each of the bounds. -/
def allBelow : List Nat → List (List Nat)
  | [] => [[]]
  | n :: bounds => (List.range n).flatMap fun index => (allBelow bounds).map (index :: ·)

/-- All ways to pick a setting for every axis. -/
def tuples (p : Plan) : List (List Nat) := allBelow p.sizes

/-- The tuples are those with one index below each of the bounds. -/
theorem mem_allBelow {tuple bounds : List Nat} :
    tuple ∈ allBelow bounds ↔ tuple.length = bounds.length ∧
      ∀ i index : Nat, tuple[i]? = some index → ∃ n, bounds[i]? = some n ∧ index < n := by
  -- Along the bounds, as the function recurses: the first index is bounded by the first of them.
  induction bounds generalizing tuple with
  | nil =>
    rw [allBelow, List.mem_singleton, List.length_nil, List.length_eq_zero_iff]
    exact ⟨fun h => ⟨h, by simp [h]⟩, fun h => h.1⟩
  | cons n bounds ih =>
    simp only [allBelow, List.mem_flatMap, List.mem_range, List.mem_map]
    constructor
    · rintro ⟨index, hindex, tail, htail, rfl⟩
      obtain ⟨hlength, hbelow⟩ := ih.mp htail
      refine ⟨by rw [List.length_cons, List.length_cons, hlength], fun i v hi => ?_⟩
      cases i with
      | zero =>
        obtain rfl : index = v := by simpa using hi
        exact ⟨n, rfl, hindex⟩
      | succ i => simpa using hbelow i v (by simpa using hi)
    · rintro ⟨hlength, hbelow⟩
      cases tuple with
      | nil => simp at hlength
      | cons index tail =>
        have hhead : index < n := by simpa using hbelow 0 index rfl
        refine ⟨index, hhead, tail, ih.mpr ⟨by simpa using hlength, fun i v hi => ?_⟩, rfl⟩
        simpa using hbelow (i + 1) v (by simpa using hi)

/-- No tuple is listed twice. -/
theorem nodup_allBelow (bounds : List Nat) : (allBelow bounds).Nodup := by
  induction bounds with
  | nil => simp [allBelow]
  | cons n bounds ih =>
    rw [allBelow, List.nodup_flatMap]
    refine ⟨fun index _ => ih.map (List.cons_injective), ?_⟩
    refine List.nodup_range.imp ?_
    intro i j hij
    simp only [Function.onFun, List.disjoint_left, List.mem_map]
    rintro _ ⟨tail, -, rfl⟩ ⟨tail', -, htail⟩
    exact hij (List.cons.inj htail).1.symm

/-- There is a tuple for every way to pick a setting for each axis. -/
theorem mem_tuples : picks ∈ p.tuples ↔ picks.length = p.axes.length ∧ p.InRange picks := by
  simp only [tuples, mem_allBelow, sizes, List.length_map, InRange, List.getElem?_map,
    Option.map_eq_some_iff, exists_exists_and_eq_and]

/-- No tuple is listed twice. -/
theorem nodup_tuples (p : Plan) : p.tuples.Nodup := nodup_allBelow p.sizes

/-! ## Records kept twice -/

/-- What a plan looks up is what it has. -/
structure Coherent (p : Plan) : Prop where
  /-- An axis is found under its name, and nothing else is found. -/
  axisIndex?_eq_some_iff : ∀ name i,
    p.axisIndex? name = some i ↔ ∃ a, p.axes[i]? = some a ∧ a.name = name
  /-- The picks that have been seen are those of the rows. -/
  mem_seen : ∀ picks, picks ∈ p.seen ↔ picks ∈ p.entries.map (·.picks)

/-- Of different axes no two have the same name. -/
theorem Coherent.index_inj (hp : p.Coherent) {i j : Nat} {a b : Axis} (ha : p.axes[i]? = some a)
    (hb : p.axes[j]? = some b) (hname : a.name = b.name) : i = j := by
  have hi := (hp.axisIndex?_eq_some_iff b.name i).mpr ⟨a, ha, hname⟩
  have hj := (hp.axisIndex?_eq_some_iff b.name j).mpr ⟨b, hb, rfl⟩
  exact Option.some.inj (hi.symm.trans hj)

/-- Looking a name up comes to the first axis of that name. -/
theorem Coherent.axisIndex?_eq (hp : p.Coherent) (name : String) :
    p.axisIndex? name = p.axes.findIdx? (·.name == name) := by
  ext i
  rw [hp.axisIndex?_eq_some_iff, List.findIdx?_eq_some_iff_getElem]
  constructor
  · rintro ⟨a, ha, rfl⟩
    obtain ⟨hlt, rfl⟩ := List.getElem?_eq_some_iff.mp ha
    refine ⟨hlt, beq_self_eq_true _, fun j hj hname => ?_⟩
    -- The look-up may find any axis of the name, but no two have the same.
    have hij := hp.index_inj (List.getElem?_eq_getElem _) ha (beq_iff_eq.mp hname)
    omega
  · rintro ⟨hlt, hname, -⟩
    exact ⟨p.axes[i], List.getElem?_eq_getElem hlt, beq_iff_eq.mp hname⟩

/-- Picks have been seen exactly if there is a row for them. -/
theorem Coherent.isSeen_eq_true_iff (hp : p.Coherent) :
    p.isSeen picks = true ↔ picks ∈ p.entries.map (·.picks) := by
  rw [isSeen, List.contains_iff_mem, hp.mem_seen]

/-! ## Assignments -/

/-- An axis has a setting if it has been reached: the one that was picked for it. -/
theorem assignment_eq_some_iff {name : String} {s : Setting} :
    p.assignment picks name = some s ↔ ∃ i a index, p.axisIndex? name = some i ∧
      p.axes[i]? = some a ∧ picks[i]? = some index ∧ a.settingAt index = s := by
  simp [assignment, Option.bind_eq_some_iff]

/-- Further picks only add to an assignment. -/
theorem extends_append (p : Plan) (picks rest : List Nat) :
    (p.assignment (picks ++ rest)).Extends (p.assignment picks) := by
  intro name s h
  obtain ⟨i, a, index, hi, ha, hindex, hs⟩ := assignment_eq_some_iff.mp h
  refine assignment_eq_some_iff.mpr ⟨i, a, index, hi, ha, ?_, hs⟩
  rwa [List.getElem?_append_left (List.getElem?_eq_some_iff.mp hindex).1]

/-- Complete picks assign all axes. -/
theorem isSome_assignment (hp : p.Coherent) (hlength : picks.length = p.axes.length)
    {name : String} (h : (p.axisIndex? name).isSome = true) :
    (p.assignment picks name).isSome = true := by
  obtain ⟨i, hi⟩ := Option.isSome_iff_exists.mp h
  obtain ⟨a, ha, -⟩ := (hp.axisIndex?_eq_some_iff name i).mp hi
  have hlt : i < picks.length := hlength ▸ (List.getElem?_eq_some_iff.mp ha).1
  refine Option.isSome_iff_exists.mpr ⟨a.settingAt picks[i], ?_⟩
  exact assignment_eq_some_iff.mpr ⟨i, a, picks[i], hi, ha, List.getElem?_eq_getElem hlt, rfl⟩

/-- Looking for an axis among the cells is looking for it among the axes. -/
private theorem setting_find?_zipWith (name : String) (axes : List Axis) (picks : List Nat)
    (hlength : picks.length = axes.length) :
    ((axes.zipWith (fun a index => Cell.mk a.name (a.settingAt index)) picks).find?
        (·.axis == name)).map (·.setting) =
      (do
        let i ← axes.findIdx? (·.name == name)
        let a ← axes[i]?
        let index ← picks[i]?
        return a.settingAt index) := by
  induction axes generalizing picks with
  | nil => rfl
  | cons a axes ih =>
    cases picks with
    | nil => simp at hlength
    | cons index picks =>
      -- Cells and axes have the same names in the same places, so both look-ups stop together.
      rw [List.zipWith_cons_cons, List.find?_cons, List.findIdx?_cons]
      cases hname : a.name == name with
      | true => rfl
      | false =>
        simp only [Bool.false_eq_true, if_false]
        rw [ih picks (by simpa using hlength)]
        cases axes.findIdx? (·.name == name) <;> rfl

/-- A row with the cells of complete picks assigns what they assign. -/
theorem assignment_of_cells (hp : p.Coherent) {r : Row} (hlength : picks.length = p.axes.length)
    (hr : r.cells = p.cells picks) : r.assignment = p.assignment picks := by
  funext name
  rw [Row.assignment, Row.setting?, hr, assignment, hp.axisIndex?_eq]
  exact setting_find?_zipWith name p.axes picks hlength

/-- A row assigns to every axis what its picks do. -/
theorem assignment_row (hp : p.Coherent) (hlength : picks.length = p.axes.length) :
    (p.row picks).assignment = p.assignment picks :=
  assignment_of_cells hp hlength rfl

/-- The row keeps the constraints of the plan. -/
def Keeps (p : Plan) (r : Row) : Prop := ∀ c ∈ p.constraints, c.isBrokenBy r = false

/-- Picks are valid if their row keeps all constraints. -/
theorem isInvalid_eq_false_iff : p.isInvalid picks = false ↔ p.Keeps (p.row picks) := by
  simp [Keeps, isInvalid]

/-- Picks that are bound to break a constraint do not become part of a valid row. -/
theorem isInvalid_of_isDoomed (hp : p.Coherent) (hlength : (picks ++ rest).length = p.axes.length)
    (h : p.isDoomed picks = true) : p.isInvalid (picks ++ rest) = true := by
  obtain ⟨c, hc, hbroken⟩ := List.any_eq_true.mp h
  refine List.any_eq_true.mpr ⟨c, hc, Constraint.isBrokenBy_of_isBroken ?_⟩
  rw [assignment_row hp hlength]
  exact Constraint.isBroken_mono (p.extends_append picks rest) hbroken

/-! ## What is left -/

/-- The tuples that no row was made from and whose row keeps the constraints. -/
def remaining (p : Plan) : List (List Nat) :=
  p.tuples.filter fun picks => !p.isInvalid picks && !(p.entries.map (·.picks)).contains picks

/-- Those of them whose row the selector matches. -/
def remainingFor (p : Plan) (s : Selector) : List (List Nat) :=
  p.remaining.filter fun picks => s.isMatch (p.row picks).assignment

/-- What is left are the tuples that are valid and that no row has. -/
theorem mem_remaining : picks ∈ p.remaining ↔
    picks ∈ p.tuples ∧ p.isInvalid picks = false ∧ picks ∉ p.entries.map (·.picks) := by
  simp [remaining]

/-- Of these, a selector leaves those whose row it matches. -/
theorem mem_remainingFor {s : Selector} : picks ∈ p.remainingFor s ↔
    picks ∈ p.remaining ∧ s.isMatch (p.row picks).assignment = true := by
  simp [remainingFor]

theorem nodup_remaining (p : Plan) : p.remaining.Nodup := p.nodup_tuples.filter _

/-- A selector that names no axis leaves out nothing. -/
theorem remainingFor_of_isEmpty {s : Selector} (h : s.isEmpty = true) :
    p.remainingFor s = p.remaining :=
  List.filter_eq_self.mpr fun _ _ => Selector.isMatch_of_isEmpty h _

/-! ## Known axes -/

/-- The plan has all the axes that the selector names. -/
def Knows (p : Plan) (s : Selector) : Prop :=
  ∀ entry ∈ s.entries, (p.axisIndex? entry.1).isSome = true

instance (p : Plan) (s : Selector) : Decidable (p.Knows s) :=
  inferInstanceAs (Decidable (∀ entry ∈ s.entries, (p.axisIndex? entry.1).isSome = true))

/-- A selector is let through exactly if the plan has its axes. -/
theorem requireAxes_eq_ok_iff (p : Plan) (context : String) (s : Selector) :
    p.requireAxes context s = .ok () ↔ p.Knows s := by
  rw [requireAxes]
  split
  · next entry hfind =>
    refine iff_of_false (by simp) fun h => ?_
    have hunknown := List.find?_some hfind
    have hknown := h entry (List.mem_of_find?_eq_some hfind)
    rw [Option.isSome_iff_ne_none, ne_eq, ← Option.isNone_iff_eq_none] at hknown
    exact hknown hunknown
  · next hfind =>
    refine iff_of_true rfl fun entry hentry => ?_
    have hknown := List.find?_eq_none.mp hfind entry hentry
    rwa [Option.isSome_iff_ne_none, ne_eq, ← Option.isNone_iff_eq_none]

/-- Complete picks leave no known axis open. -/
theorem Knows.decides {s : Selector} (h : p.Knows s) (hp : p.Coherent)
    (hlength : picks.length = p.axes.length) : s.Decides (p.assignment picks) :=
  fun entry hentry => isSome_assignment hp hlength (h entry hentry)

/-- What matches names axes of the plan only. -/
theorem knows_of_matches {s : Selector} (h : s.Matches (p.assignment picks)) : p.Knows s := by
  intro entry hentry
  obtain ⟨setting, hsetting, -⟩ := h entry hentry
  obtain ⟨i, -, -, hi, -⟩ := assignment_eq_some_iff.mp hsetting
  exact Option.isSome_iff_exists.mpr ⟨i, hi⟩

end Plan

end TestMatrix

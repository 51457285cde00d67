import TestMatrix.Proofs.Plan.Branches

/-!
# Rows that are added

Forcing a row and filling a plan do the same thing to it: `enterAll` adds rows for some picks, which
were left for the selector of the search and of which no two are the same (`Adds`). Otherwise only
the stream moves (`force_adds`, `fill_adds`). A row that is added takes its picks away from what is
left, and no others (`remaining_perm_cons`).
-/

namespace TestMatrix.Plan

variable {p : Plan} {s : Selector} {picks : List Nat}

/-! ## Entering picks -/

/-- The entry for picks: they themselves and the row that they describe. -/
def entryOf (p : Plan) (picks : List Nat) : Entry := ⟨picks, p.row picks⟩

/-- The plan with an entry for each of the picks. -/
def enterAll (p : Plan) (added : List (List Nat)) : Plan :=
  { p with
    entries := p.entries ++ added.map p.entryOf
    seen := added.foldl (fun seen picks => seen.insert picks) p.seen }

theorem enterAll_nil (p : Plan) : p.enterAll [] = p := by
  rw [enterAll, List.map_nil, List.append_nil]
  rfl

theorem enterAll_cons (p : Plan) (picks : List Nat) (added : List (List Nat)) :
    p.enterAll (picks :: added) = (p.enter picks).enterAll added := by
  rw [enterAll, List.map_cons, List.append_cons]
  rfl

/-- The picks that are entered have been seen then, and no others besides the old ones. -/
theorem mem_seen_enterAll {added : List (List Nat)} :
    picks ∈ (p.enterAll added).seen ↔ picks ∈ p.seen ∨ picks ∈ added := by
  induction added generalizing p with
  | nil => simp [enterAll_nil]
  | cons first added ih =>
    have hfirst : picks ∈ (p.enter first).seen ↔ picks = first ∨ picks ∈ p.seen :=
      List.mem_insert_iff
    rw [enterAll_cons, ih, hfirst, List.mem_cons, or_comm (a := picks = first), or_assoc]

/-- They stand behind the picks of the rows that were there. -/
theorem map_picks_enterAll (p : Plan) (added : List (List Nat)) :
    (p.enterAll added).entries.map (·.picks) = p.entries.map (·.picks) ++ added := by
  simp [enterAll, entryOf, Function.comp_def]

/-- Both records of the rows are extended by the same picks, so they go on agreeing. -/
theorem Coherent.enterAll (hp : p.Coherent) (added : List (List Nat)) :
    (p.enterAll added).Coherent where
  axisIndex?_eq_some_iff := hp.axisIndex?_eq_some_iff
  mem_seen picks := by
    rw [mem_seen_enterAll, hp.mem_seen, map_picks_enterAll, List.mem_append]

/-- One row more does not take the records apart either. -/
theorem Coherent.enter (hp : p.Coherent) (picks : List Nat) : (p.enter picks).Coherent := by
  have h := hp.enterAll [picks]
  rwa [enterAll_cons, enterAll_nil] at h

/-- Where the stream stands does not matter. -/
theorem Coherent.of_stream (hp : p.Coherent) (stream : RandomStream) :
    { p with stream }.Coherent :=
  ⟨hp.axisIndex?_eq_some_iff, hp.mem_seen⟩

/-! ## What is left afterwards -/

/-- An entry takes its picks away from what is left, and nothing else. -/
theorem mem_remaining_enter {picks' : List Nat} :
    picks' ∈ (p.enter picks).remaining ↔ picks' ∈ p.remaining ∧ picks' ≠ picks := by
  have hentries : (p.enter picks).entries.map (·.picks) = p.entries.map (·.picks) ++ [picks] :=
    map_picks_enterAll p [picks]
  rw [mem_remaining, mem_remaining, hentries, List.mem_append, List.mem_singleton, not_or,
    and_assoc, and_assoc]
  exact Iff.rfl

/-- Picks that are entered are left for no selector any more. -/
theorem mem_remainingFor_enter {picks' : List Nat} :
    picks' ∈ (p.enter picks).remainingFor s ↔ picks' ∈ p.remainingFor s ∧ picks' ≠ picks := by
  rw [mem_remainingFor, mem_remainingFor, mem_remaining_enter, and_right_comm]
  exact Iff.rfl

/-- What is left is the picks that are entered and what is left then. -/
theorem remaining_perm_cons (h : picks ∈ p.remaining) :
    p.remaining.Perm (picks :: (p.enter picks).remaining) := by
  have hnot : picks ∉ (p.enter picks).remaining := fun hmem => (mem_remaining_enter.mp hmem).2 rfl
  -- Neither list repeats itself, so it is enough that they have the same members.
  refine (List.perm_ext_iff_of_nodup p.nodup_remaining
    (List.nodup_cons.mpr ⟨hnot, nodup_remaining _⟩)).mpr fun picks' => ?_
  rw [List.mem_cons, mem_remaining_enter]
  by_cases heq : picks' = picks
  · simp [heq, h]
  · simp [heq]

/-! ## Which picks are added -/

/-- Picks that may be entered, one after the other, for rows that the selector matches. -/
structure Adds (p : Plan) (s : Selector) (added : List (List Nat)) : Prop where
  /-- They were left for the selector. -/
  mem_remainingFor : ∀ picks ∈ added, picks ∈ p.remainingFor s
  /-- No two of them are the same. -/
  nodup : added.Nodup

theorem adds_nil (p : Plan) (s : Selector) : p.Adds s [] := ⟨by simp, by simp⟩

/-- Picks that are left may be added in front of others that are left after them. -/
theorem Adds.cons (hpicks : picks ∈ p.remainingFor s) {added : List (List Nat)}
    (h : (p.enter picks).Adds s added) : p.Adds s (picks :: added) := by
  have hadded : ∀ picks' ∈ added, picks' ∈ p.remainingFor s ∧ picks' ≠ picks :=
    fun picks' hmem => mem_remainingFor_enter.mp (h.mem_remainingFor picks' hmem)
  refine ⟨?_, ?_⟩
  · rw [List.forall_mem_cons]
    exact ⟨hpicks, fun picks' hmem => (hadded picks' hmem).1⟩
  · rw [List.nodup_cons]
    exact ⟨fun hmem => (hadded picks hmem).2 rfl, h.nodup⟩

/-- What a search finds is left for its selector. -/
theorem search_found (hp : p.Coherent) (hknown : p.Knows s)
    (h : (p.search s).ending = .found picks) : picks ∈ p.remainingFor s := by
  obtain ⟨htuple, hleaf⟩ := Search.retry_found h
  exact mem_remainingFor_of_isTuple hp hknown htuple hleaf

/-- A selector without entries names no axis that could be missing. -/
theorem knows_of_isEmpty {s : Selector} (h : s.isEmpty = true) (p : Plan) : p.Knows s := by
  intro entry hentry
  rw [List.isEmpty_iff.mp h] at hentry
  exact absurd hentry List.not_mem_nil

/-! ## Forcing and filling -/

/-- Nothing is done about a selector that is refused or that a row matches already. -/
theorem force_of_refused_or_covered (h : ¬p.Knows s ∨ s.isEmpty = false ∧ p.isCovered s = true) :
    (p.force s).1 = p ∧ ∀ r, (p.force s).2 ≠ .ok (some r) := by
  rw [force]
  split
  · simp
  · next hrequire =>
    have hknown : p.Knows s := (requireAxes_eq_ok_iff p _ s).mp hrequire
    obtain ⟨hempty, hcovered⟩ := h.resolve_left (not_not_intro hknown)
    simp [hempty, hcovered]

/-- Otherwise the row that a search finds is entered. -/
theorem force_of_found (hknown : p.Knows s)
    (hneeded : s.isEmpty = true ∨ p.isCovered s = false)
    (h : (p.search s).ending = .found picks) :
    p.force s = ({ p.enter picks with stream := (p.search s).tally.stream },
      .ok (some (p.row picks))) := by
  have hskip : (!s.isEmpty && p.isCovered s) = false := by
    rcases hneeded with h | h <;> simp [h]
  simp only [force, (requireAxes_eq_ok_iff p _ s).mpr hknown, hskip, h]
  rfl

/-- If the search finds none, only the stream moves. -/
theorem force_of_not_found (hknown : p.Knows s)
    (hneeded : s.isEmpty = true ∨ p.isCovered s = false)
    (h : ∀ picks, (p.search s).ending ≠ .found picks) :
    (p.force s).1 = { p with stream := (p.search s).tally.stream } ∧
      ∀ r, (p.force s).2 ≠ .ok (some r) := by
  have hskip : (!s.isEmpty && p.isCovered s) = false := by
    rcases hneeded with h | h <;> simp [h]
  simp only [force, (requireAxes_eq_ok_iff p _ s).mpr hknown, hskip, Bool.false_eq_true, if_false]
  cases hending : (p.search s).ending with
  | found picks => exact absurd hending (h picks)
  | exhausted =>
    refine ⟨rfl, fun r => ?_⟩
    dsimp only
    split <;> simp
  | outOfBudget =>
    refine ⟨rfl, fun r => ?_⟩
    dsimp only
    split <;> simp

/-- A search finds picks, or it finds none. -/
theorem search_found_or_not (p : Plan) (s : Selector) :
    (∃ picks, (p.search s).ending = .found picks) ∨
      ∀ picks, (p.search s).ending ≠ .found picks := by
  by_cases hfound : ∃ picks, (p.search s).ending = .found picks
  · exact .inl hfound
  · exact .inr (not_exists.mp hfound)

/-- The picks that a search finds are entered before the plan is filled further. -/
theorem fill_of_found (count : Nat) (h : (p.search {}).ending = .found picks) :
    p.fill (count + 1) =
      { p.enter picks with stream := (p.search {}).tally.stream }.fill count := by
  simp only [fill, h]
  rfl

/-- A search that finds nothing moves the stream and ends the filling. -/
theorem fill_of_not_found (count : Nat) (h : ∀ picks, (p.search {}).ending ≠ .found picks) :
    p.fill (count + 1) = { p with stream := (p.search {}).tally.stream } := by
  rw [fill]
  cases hending : (p.search {}).ending with
  | found picks => exact absurd hending (h picks)
  | exhausted => rfl
  | outOfBudget => rfl

/-- Forcing a row gives a row and enters it, or it gives none and only the stream moves. -/
theorem force_cases (p : Plan) (s : Selector) :
    (∃ picks stream, p.Knows s ∧ (p.search s).ending = .found picks ∧
        p.force s = ({ p.enter picks with stream }, .ok (some (p.row picks)))) ∨
      ∃ stream, (p.force s).1 = { p with stream } ∧ ∀ r, (p.force s).2 ≠ .ok (some r) := by
  by_cases hskip : ¬p.Knows s ∨ s.isEmpty = false ∧ p.isCovered s = true
  · exact .inr ⟨p.stream, force_of_refused_or_covered hskip⟩
  · obtain ⟨hknown, hneeded⟩ : p.Knows s ∧ (s.isEmpty = true ∨ p.isCovered s = false) := by
      rw [not_or, not_not, not_and_or, Bool.not_eq_false, Bool.not_eq_true] at hskip
      exact hskip
    rcases p.search_found_or_not s with ⟨picks, hpicks⟩ | hnone
    · exact .inl ⟨picks, _, hknown, hpicks, force_of_found hknown hneeded hpicks⟩
    · exact .inr ⟨_, force_of_not_found hknown hneeded hnone⟩

/-- Forcing a row adds at most one, and moves the stream. -/
theorem force_adds (hp : p.Coherent) (s : Selector) : ∃ added stream,
    (p.force s).1 = { p.enterAll added with stream } ∧ p.Adds s added := by
  rcases force_cases p s with ⟨picks, stream, hknown, hpicks, hforce⟩ | ⟨stream, hforce, -⟩
  · refine ⟨[picks], stream, ?_, .cons (search_found hp hknown hpicks) (adds_nil _ s)⟩
    rw [hforce, enterAll_cons, enterAll_nil]
  · refine ⟨[], stream, ?_, adds_nil p s⟩
    rw [hforce, enterAll_nil]

/-- Filling a plan adds rows, and moves the stream. -/
theorem fill_adds (count : Nat) {p : Plan} (hp : p.Coherent) : ∃ added stream,
    p.fill count = { p.enterAll added with stream } ∧ p.Adds {} added := by
  -- The rows still to be made are made by a plan that has one row more.
  induction count generalizing p with
  | zero => exact ⟨[], p.stream, by rw [fill, enterAll_nil], adds_nil p {}⟩
  | succ count ih =>
    rcases p.search_found_or_not {} with ⟨picks, hpicks⟩ | hnone
    · obtain ⟨added, stream, hfill, hadds⟩ :=
        ih ((hp.enter picks).of_stream (p.search {}).tally.stream)
      refine ⟨picks :: added, stream, ?_, ?_⟩
      · rw [fill_of_found count hpicks, hfill, enterAll_cons]
        rfl
      · exact .cons (search_found hp (knows_of_isEmpty rfl p) hpicks)
          ⟨hadds.mem_remainingFor, hadds.nodup⟩
    · refine ⟨[], (p.search {}).tally.stream, ?_, adds_nil p {}⟩
      rw [fill_of_not_found count hnone, enterAll_nil]

/-- Forcing a row adds no constraints. -/
theorem constraints_force (hp : p.Coherent) (s : Selector) :
    (p.force s).1.constraints = p.constraints := by
  obtain ⟨added, stream, hforce, -⟩ := force_adds hp s
  rw [hforce]
  rfl

/-- Nor does filling the plan. -/
theorem constraints_fill (hp : p.Coherent) (count : Nat) :
    (p.fill count).constraints = p.constraints := by
  obtain ⟨added, stream, hfill, -⟩ := fill_adds count hp
  rw [hfill]
  rfl

end TestMatrix.Plan

import TestMatrix.Proofs.Plan.Emission
import TestMatrix.Proofs.Search.Cost

/-!
# Searching as deciding

What is left for a selector is defined by going through all tuples. A search that ends within its
budget says what going through all of them would say (`run_decides`). With a budget that has a step
for every path of the tree, all searches end within it, so that filling a plan comes to as many rows
as there are left and forcing a row succeeds if there is one (`sufficient_budget_decides`).
-/

namespace TestMatrix.Plan

variable {p : Plan} {s : Selector} {picks : List Nat}

theorem levels_ne_nil (haxes : p.axes ≠ []) (s : Selector) : (p.problem s).levels ≠ [] :=
  fun h => haxes (List.map_eq_nil_iff.mp h)

/-! ## One search -/

/-- An exhausted search leaves nothing. -/
theorem remainingFor_eq_nil (hp : p.Coherent) (haxes : p.axes ≠ []) {maxBacktracks : Nat}
    {stream : RandomStream}
    (h : (Search.run (p.problem s) maxBacktracks stream).ending = .exhausted) :
    p.remainingFor s = [] := by
  have hnone := (Search.run_exhausted (levels_ne_nil haxes s) h).1
  refine List.eq_nil_iff_forall_not_mem.mpr fun picks hpicks => ?_
  obtain ⟨htuple, hleaf⟩ := isTuple_of_mem_remainingFor hp hpicks
  exact hnone picks htuple hleaf

/-- The tuples that a search can come to again are those of rows that match and would be valid. -/
theorem repeated_iff (hp : p.Coherent) (hwf : p.WellFormed) (hknown : p.Knows s) :
    (∃ tuple, (p.problem s).IsTuple tuple ∧ p.leaf tuple = .repeated) ↔
      ∃ e ∈ p.entries, s.isMatch (p.row e.picks).assignment = true ∧ p.Keeps (p.row e.picks) := by
  constructor
  · rintro ⟨tuple, htuple, hleaf⟩
    obtain ⟨hvalid, hseen⟩ := (leaf_eq_repeated_iff hp).mp hleaf
    obtain ⟨e, he, rfl⟩ := List.mem_map.mp hseen
    exact ⟨e, he, isMatch_of_isTuple hp hknown htuple, isInvalid_eq_false_iff.mp hvalid⟩
  -- Back again, the picks of such a row are a tuple of the space, because they were never ruled
  -- out.
  · rintro ⟨e, he, hmatch, hkeeps⟩
    have hvalid : p.isInvalid e.picks = false := isInvalid_eq_false_iff.mpr hkeeps
    refine ⟨e.picks, isTuple_of_isMatch hp hvalid (hwf.mem_tuples e he) hmatch, ?_⟩
    exact (leaf_eq_repeated_iff hp).mpr ⟨hvalid, List.mem_map_of_mem he⟩

/-- A search finds what going through all tuples would find. If it ends exhausted, that would find
nothing, and a repeated tuple was met just if the picks of some row match and are valid. -/
theorem run_decides (hp : p.Reachable) (haxes : p.axes ≠ []) (hknown : p.Knows s)
    (stream : RandomStream) :
    let o := Search.run (p.problem s) p.budget.maxBacktracks stream
    (∀ picks, o.ending = .found picks → picks ∈ p.remainingFor s) ∧
    (o.ending = .exhausted → p.remainingFor s = [] ∧
      (o.tally.sawRepeat = true ↔ ∃ e ∈ p.entries,
        s.isMatch (p.row e.picks).assignment = true ∧ p.Keeps (p.row e.picks))) := by
  intro o
  refine ⟨fun picks h => ?_, fun h => ⟨remainingFor_eq_nil hp.coherent haxes h, ?_⟩⟩
  · obtain ⟨htuple, hleaf⟩ := Search.run_found h
    exact mem_remainingFor_of_isTuple hp.coherent hknown htuple hleaf
  · rw [← repeated_iff hp.coherent hp.wellFormed hknown]
    exact (Search.run_exhausted (levels_ne_nil haxes s) h).2

/-- With `ssl` off there is only a row that the plan has already. -/
theorem run_decides_encryption :
    encryption.Reachable ∧ encryption.axes ≠ [] ∧ encryption.Knows (.having {} "ssl" "off") ∧
      encryption.remainingFor (.having {} "ssl" "off") = [] ∧
      ∃ e ∈ encryption.entries,
        (Selector.having {} "ssl" "off").isMatch (encryption.row e.picks).assignment = true ∧
          encryption.Keeps (encryption.row e.picks) := by
  have haxes : encryption.axes ≠ [] := List.ne_nil_of_length_pos (by decide +kernel)
  have hknown : encryption.Knows (.having {} "ssl" "off") := by decide +kernel
  have hending : (Search.run (encryption.problem (.having {} "ssl" "off"))
      encryption.budget.maxBacktracks (.ofSeed 9)).ending = .exhausted := by decide +kernel
  obtain ⟨hnone, hrepeat⟩ :=
    (run_decides reachable_encryption haxes hknown (.ofSeed 9)).2 hending
  exact ⟨reachable_encryption, haxes, hknown, hnone, hrepeat.mp (by decide +kernel)⟩

/-! ## Searching with a sufficient budget -/

/-- The budget has a step for each path of the tree. -/
def Affords (p : Plan) : Prop := Search.prefixCount p.sizes ≤ p.budget.maxBacktracks

/-- A sufficient budget is not exceeded by any search. -/
theorem Affords.run_ne_outOfBudget (h : p.Affords) (s : Selector) (stream : RandomStream) :
    (Search.run (p.problem s) p.budget.maxBacktracks stream).ending ≠ .outOfBudget := by
  refine Search.run_ne_outOfBudget (by simp [problem, sizes]) (fun path n hn => ?_) h stream
  obtain ⟨a, ha, rfl⟩ : ∃ a, p.axes[path.length]? = some a ∧ a.settings.length = n := by
    simpa [sizes] using hn
  exact length_branches_le ha

/-- The first search of several is the last. -/
theorem Affords.search_ending (h : p.Affords) (s : Selector) : (p.search s).ending =
    (Search.run (p.problem s) p.budget.maxBacktracks p.stream).ending := by
  obtain ⟨attempts, hattempts⟩ : ∃ attempts, max p.budget.maxAttempts 1 = attempts + 1 :=
    ⟨max p.budget.maxAttempts 1 - 1, by omega⟩
  rw [search, hattempts]
  exact Search.retry_ending_of_run (h.run_ne_outOfBudget s p.stream)

/-- A search that finds nothing proves that nothing is left. -/
theorem Affords.remainingFor_eq_nil (h : p.Affords) (hp : p.Coherent) (haxes : p.axes ≠ [])
    (hnone : ∀ picks, (p.search s).ending ≠ .found picks) : p.remainingFor s = [] := by
  have hspent := h.run_ne_outOfBudget s p.stream
  rw [h.search_ending s] at hnone
  cases hending : (Search.run (p.problem s) p.budget.maxBacktracks p.stream).ending with
  | found picks => exact absurd hending (hnone picks)
  | exhausted => exact Plan.remainingFor_eq_nil hp haxes hending
  | outOfBudget => exact absurd hending hspent

/-- Filling a plan stops short only when no row is left. -/
theorem Affords.length_fill {p : Plan} (h : p.Affords) (hp : p.Coherent) (haxes : p.axes ≠ [])
    (count : Nat) :
    (p.fill count).entries.length = p.entries.length + min count p.remaining.length := by
  induction count generalizing p with
  | zero => simp [fill]
  | succ count ih =>
    rcases p.search_found_or_not {} with ⟨picks, hpicks⟩ | hnone
    · have hleft : picks ∈ p.remaining :=
        (mem_remainingFor.mp (search_found hp (knows_of_isEmpty rfl p) hpicks)).1
      -- The row that is entered is one less to be left, so the rest of the count meets the rest.
      have hlength : p.remaining.length = (p.enter picks).remaining.length + 1 :=
        (remaining_perm_cons hleft).length_eq
      have hfill : (p.fill (count + 1)).entries.length =
          (p.enter picks).entries.length + min count (p.enter picks).remaining.length := by
        rw [fill_of_found count hpicks]
        exact ih (p := { p.enter picks with stream := (p.search {}).tally.stream }) h
          ((hp.enter picks).of_stream _) haxes
      have henter : (p.enter picks).entries.length = p.entries.length + 1 := by simp [enter]
      omega
    · have hempty : p.remaining = [] := by
        rw [← remainingFor_of_isEmpty (s := {}) rfl]
        exact h.remainingFor_eq_nil hp haxes hnone
      rw [fill_of_not_found count hnone, hempty]
      simp

/-- Forcing a row that is not there yet succeeds just if one is left. -/
theorem Affords.force_iff (h : p.Affords) (hp : p.Coherent) (haxes : p.axes ≠ [])
    (hneeded : s.isEmpty = true ∨ p.isCovered s = false) :
    (∃ r, (p.force s).2 = .ok (some r)) ↔
      ∃ picks ∈ p.remaining, s.isMatch (p.row picks).assignment = true := by
  have hleft : (∃ picks ∈ p.remaining, s.isMatch (p.row picks).assignment = true) ↔
      ∃ picks, picks ∈ p.remainingFor s := by simp only [mem_remainingFor]
  rw [hleft]
  by_cases hknown : p.Knows s
  · rcases p.search_found_or_not s with ⟨picks, hpicks⟩ | hnone
    · refine iff_of_true ⟨p.row picks, ?_⟩ ⟨picks, search_found hp hknown hpicks⟩
      rw [force_of_found hknown hneeded hpicks]
    · have hempty : p.remainingFor s = [] := h.remainingFor_eq_nil hp haxes hnone
      refine iff_of_false ?_ (by simp [hempty])
      rintro ⟨r, hr⟩
      exact (force_of_not_found hknown hneeded hnone).2 r hr
  · -- What matches a selector has all the axes that it names.
    refine iff_of_false ?_ ?_
    · rintro ⟨r, hr⟩
      exact (force_of_refused_or_covered (.inl hknown)).2 r hr
    · rintro ⟨picks, hpicks⟩
      obtain ⟨hremaining, hmatch⟩ := mem_remainingFor.mp hpicks
      rw [assignment_row hp (mem_tuples.mp (mem_remaining.mp hremaining).1).1,
        Selector.isMatch_iff] at hmatch
      exact hknown (knows_of_matches hmatch)

/-- A row that is forced is the new row of the plan. -/
theorem entries_of_force {r : Row} (h : (p.force s).2 = .ok (some r)) :
    ∃ picks, (p.force s).1.entries = p.entries ++ [⟨picks, r⟩] := by
  rcases force_cases p s with ⟨picks, stream, -, -, hforce⟩ | ⟨stream, -, hnone⟩
  · rw [hforce] at h ⊢
    obtain rfl : p.row picks = r := Option.some.inj (Except.ok.inj h)
    exact ⟨picks, rfl⟩
  · exact absurd h (hnone r)

/-- A budget with a step for each path of the tree is never exceeded, and then rows are made as
long as there are any: filling a plan comes to the number asked for or to all that are left, and
forcing a row that is not there yet succeeds just if one is left. The rows that are made differ from
each other and from the earlier ones. -/
theorem sufficient_budget_decides (hp : p.Reachable) (haxes : p.axes ≠ [])
    (hbudget : Search.prefixCount p.sizes ≤ p.budget.maxBacktracks) (stream : RandomStream) :
    let q := { p with stream }
    (∀ s, (Search.run (q.problem s) q.budget.maxBacktracks stream).ending ≠ .outOfBudget) ∧
    (∀ count, ∃ new, (q.fill count).entries = q.entries ++ new ∧
      new.length = min count q.remaining.length ∧ ((q.fill count).rows.map (·.tokens)).Nodup) ∧
    ∀ s, s.isEmpty = true ∨ q.isCovered s = false →
      ((∃ r, (q.force s).2 = .ok (some r)) ↔
        ∃ picks ∈ q.remaining, s.isMatch (q.row picks).assignment = true) ∧
      ∀ r, (q.force s).2 = .ok (some r) → (q.force s).1.rows = q.rows ++ [r] ∧
        ((q.force s).1.rows.map (·.tokens)).Nodup := by
  intro q
  have hq : q.Reachable := hp.act (.setStream stream)
  have hafford : q.Affords := hbudget
  refine ⟨fun s => hafford.run_ne_outOfBudget s stream, fun count => ?_, fun s hneeded => ⟨?_, ?_⟩⟩
  · have hfill : (q.fill count).Reachable := hq.act (.fill count)
    obtain ⟨added, hentries, -⟩ := (change_act hq.coherent (.fill count)).entries
    have hlength : (q.fill count).entries.length = q.entries.length + added.length := by
      rw [act] at hentries
      rw [hentries, List.length_append, List.length_map]
    rw [hafford.length_fill hq.coherent haxes] at hlength
    refine ⟨_, hentries, ?_, nodup_tokens hfill.wellFormed⟩
    rw [List.length_map]
    omega
  · exact hafford.force_iff hq.coherent haxes hneeded
  · intro r hr
    have hforce : (q.force s).1.Reachable := hq.act (.force s)
    obtain ⟨picks, hentries⟩ := entries_of_force hr
    refine ⟨?_, nodup_tokens hforce.wellFormed⟩
    rw [rows, hentries, List.map_append]
    rfl

/-- There is one more row to be had, however many are asked for. -/
theorem sufficient_budget_decides_encryption :
    encryption.Reachable ∧ encryption.axes ≠ [] ∧
      Search.prefixCount encryption.sizes ≤ encryption.budget.maxBacktracks ∧
      ∃ new, (encryption.fill 5).entries = encryption.entries ++ new ∧ new.length = 1 ∧
        ((encryption.fill 5).rows.map (·.tokens)).Nodup := by
  have haxes : encryption.axes ≠ [] := List.ne_nil_of_length_pos (by decide +kernel)
  have hbudget : Search.prefixCount encryption.sizes ≤ encryption.budget.maxBacktracks := by
    decide +kernel
  obtain ⟨new, hentries, hlength, hnodup⟩ :=
    (sufficient_budget_decides reachable_encryption haxes hbudget encryption.stream).2.1 5
  refine ⟨reachable_encryption, haxes, hbudget, new, hentries, ?_, hnodup⟩
  rw [hlength]
  decide +kernel

end TestMatrix.Plan

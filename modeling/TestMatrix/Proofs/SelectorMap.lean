import TestMatrix.Proofs.Request.Leniency

/-!
# Selectors are maps

A selector keeps its conditions in a list, but what it stands for is a map from axes to conditions.
It is made by calls of `Selector.matching`, one for each condition, of whatever kind that is.
However these calls follow each other, the selector names the axes in the order in which they came
up first, and each has the condition that was set last (`Selector.map_fst_ofEntries`,
`Selector.matcher?_ofEntries`).

The verdict is given entry by entry and breaks off at the first that fails, while entries on open
axes only leave it undecided. It does not depend on the order for all that, because a positive
verdict speaks of all entries and a negative one of some entry, and selectors with the same map have
the same entries (`Selector.SameMap.verdict_eq`). The search asks a selector for the condition on
the axis it has come to and for nothing else, so that it is the same search
(`Plan.search_of_sameMap`).
-/

namespace TestMatrix

namespace Selector

variable {s t : Selector}

/-! ## The map of some calls -/

/-- The condition that the last call on an axis sets. -/
def lastOn (calls : List (String × Matcher)) (axis : String) : Option Matcher :=
  (calls.reverse.find? (·.1 == axis)).map (·.2)

/-- The last call on an axis is the one that comes last of all, if it is on the axis. -/
theorem lastOn_concat (calls : List (String × Matcher)) (call : String × Matcher) (axis : String) :
    lastOn (calls ++ [call]) axis = if call.1 = axis then some call.2 else lastOn calls axis := by
  rw [lastOn, List.reverse_append, List.reverse_singleton, List.singleton_append]
  by_cases h : call.1 = axis
  · rw [List.find?_cons_of_pos (by simp [h]), if_pos h, Option.map_some]
  · rw [List.find?_cons_of_neg (by simp [h]), if_neg h, lastOn]

/-- A further call is made on the selector of those before it. -/
theorem ofEntries_concat (calls : List (String × Matcher)) (call : String × Matcher) :
    ofEntries (calls ++ [call]) = (ofEntries calls).matching call.1 call.2 := by
  rw [ofEntries, List.foldl_append]
  rfl

/-- A call sets the condition on its own axis and leaves the others alone. -/
theorem matcher?_matching (s : Selector) (axis : String) (m : Matcher) (other : String) :
    (s.matching axis m).matcher? other = if axis = other then some m else s.matcher? other := by
  obtain ⟨entries, distinct⟩ := s
  simp only [matching, matcher?]
  -- That the names differ plays no part here, and it would hold up the induction.
  clear distinct
  induction entries with
  | nil => by_cases h : axis = other <;> simp [setEntry, h]
  | cons entry rest ih =>
    rw [setEntry]
    split
    · next hentry => by_cases h : axis = other <;> simp [hentry, h]
    · next hentry =>
      by_cases h : entry.1 = other
      · simp [h, Ne.symm (h ▸ hentry)]
      · simpa [h] using ih

/-- The matcher of an axis is that of the last call on it. -/
theorem matcher?_ofEntries (calls : List (String × Matcher)) (axis : String) :
    (ofEntries calls).matcher? axis = lastOn calls axis := by
  induction calls using List.reverseRecOn with
  | nil => rfl
  | append_singleton calls call ih => rw [ofEntries_concat, matcher?_matching, ih, lastOn_concat]

/-- A name that has been mentioned keeps its place, and a new one comes last. -/
theorem eraseDups_concat (names : List String) (name : String) : (names ++ [name]).eraseDups =
    if name ∈ names then names.eraseDups else names.eraseDups ++ [name] := by
  rw [List.eraseDups_append, List.removeAll]
  by_cases h : name ∈ names
  · rw [if_pos h, List.filter_cons_of_neg (by simp [h]), List.filter_nil, List.eraseDups_nil,
      List.append_nil]
  · rw [if_neg h, List.filter_cons_of_pos (by simp [h]), List.filter_nil]
    rfl

/-- The axes of a selector are those of the calls, in the order of their first calls. -/
theorem map_fst_ofEntries (calls : List (String × Matcher)) :
    (ofEntries calls).entries.map (·.1) = (calls.map (·.1)).eraseDups := by
  induction calls using List.reverseRecOn with
  | nil => rfl
  | append_singleton calls call ih =>
    rw [ofEntries_concat, matching, map_fst_setEntry, ih, List.map_append, List.map_singleton,
      eraseDups_concat]
    simp only [List.mem_eraseDups]

/-! ## Selectors with the same map -/

/-- The two selectors have the same condition on every axis. -/
def SameMap (s t : Selector) : Prop := ∀ axis, s.matcher? axis = t.matcher? axis

/-- Selectors with the same map have the same entries, in whatever order. -/
theorem SameMap.mem_entries_iff (h : s.SameMap t) {entry : String × Matcher} :
    entry ∈ s.entries ↔ entry ∈ t.entries := by
  rw [← matcher?_eq_some_iff, ← matcher?_eq_some_iff, h entry.1]

/-- So both are empty, or neither is. -/
theorem SameMap.isEmpty_eq (h : s.SameMap t) : s.isEmpty = t.isEmpty := by
  rw [Bool.eq_iff_iff, isEmpty, isEmpty, List.isEmpty_iff, List.isEmpty_iff,
    List.eq_nil_iff_forall_not_mem, List.eq_nil_iff_forall_not_mem]
  exact forall_congr' fun entry => not_congr h.mem_entries_iff

/-- They match the same assignments. -/
theorem SameMap.matches_iff (h : s.SameMap t) (σ : Assignment) : s.Matches σ ↔ t.Matches σ := by
  simp only [Matches, h.mem_entries_iff]

/-- And fail on the same. -/
theorem SameMap.fails_iff (h : s.SameMap t) (σ : Assignment) : s.Fails σ ↔ t.Fails σ := by
  simp only [Fails, h.mem_entries_iff]

/-- The verdict depends on the map only. -/
theorem SameMap.verdict_eq (h : s.SameMap t) (σ : Assignment) : s.verdict σ = t.verdict σ := by
  refine Option.ext fun answer => ?_
  cases answer with
  | true => rw [verdict_eq_some_true_iff, verdict_eq_some_true_iff, h.matches_iff]
  | false => rw [verdict_eq_some_false_iff, verdict_eq_some_false_iff, h.fails_iff]

/-- The order of the entries does not matter to a match. -/
theorem SameMap.isMatch_eq (h : s.SameMap t) (σ : Assignment) : s.isMatch σ = t.isMatch σ := by
  rw [isMatch, isMatch, h.verdict_eq]

end Selector

namespace Plan

open Selector (SameMap)

variable {p : Plan} {s t : Selector}

/-! ## Forcing rows -/

/-- The same axes have to be known. -/
theorem knows_of_sameMap (h : s.SameMap t) : p.Knows s ↔ p.Knows t := by
  simp only [Knows, h.mem_entries_iff]

/-- The same rows cover them. -/
theorem isCovered_of_sameMap (h : s.SameMap t) : p.isCovered s = p.isCovered t := by
  simp only [isCovered, h.isMatch_eq]

/-- The searches for rows are the same, draw by draw. -/
theorem search_of_sameMap (h : s.SameMap t) : p.search s = p.search t := by
  have hbranches : p.branches s = p.branches t := by
    funext picks
    simp only [branches, isPinned, h _]
  rw [search, search, problem, problem, hbranches]

/-- Forcing leaves the same plan behind. -/
theorem force_fst_of_sameMap (h : s.SameMap t) : (p.force s).1 = (p.force t).1 := by
  -- Which axis a refusal names depends on the order of the entries; the plan it leaves does not.
  by_cases hskip : ¬p.Knows s ∨ s.isEmpty = false ∧ p.isCovered s = true
  · have hskip' : ¬p.Knows t ∨ t.isEmpty = false ∧ p.isCovered t = true := by
      rwa [knows_of_sameMap h, h.isEmpty_eq, isCovered_of_sameMap h] at hskip
    rw [(force_of_refused_or_covered hskip).1, (force_of_refused_or_covered hskip').1]
  · obtain ⟨hknown, hneeded⟩ : p.Knows s ∧ (s.isEmpty = true ∨ p.isCovered s = false) := by
      rwa [not_or, not_not, not_and_or, Bool.not_eq_false, Bool.not_eq_true] at hskip
    have hknown' := (knows_of_sameMap h).mp hknown
    have hneeded' : t.isEmpty = true ∨ p.isCovered t = false := by
      rwa [← h.isEmpty_eq, ← isCovered_of_sameMap h]
    have hsearch : p.search s = p.search t := search_of_sameMap h
    rcases p.search_found_or_not s with ⟨picks, hpicks⟩ | hnone
    · rw [force_of_found hknown hneeded hpicks, force_of_found hknown' hneeded' (hsearch ▸ hpicks),
        hsearch]
    · rw [(force_of_not_found hknown hneeded hnone).1,
        (force_of_not_found hknown' hneeded' (hsearch ▸ hnone)).1, hsearch]

/-- Forcing without strictness gives the same answer too. -/
theorem force_of_sameMap (h : s.SameMap t) (hstrict : p.strict = false) (hknown : p.Knows s) :
    p.force s = p.force t := by
  have hknown' : p.Knows t := (knows_of_sameMap h).mp hknown
  have hsearch : p.search s = p.search t := search_of_sameMap h
  have hforced := p.forced_force s
  generalize p.force s = outcome at hforced ⊢
  -- Every condition of an end is the same under the other selector; only a failure would name it.
  cases hforced with
  | refused hunknown => exact absurd hknown hunknown
  | covered _ hempty hcovered =>
    rw [h.isEmpty_eq] at hempty
    rw [isCovered_of_sameMap h] at hcovered
    exact (force_of_covered hknown' hempty hcovered).symm
  | made _ hneeded hending =>
    rw [h.isEmpty_eq, isCovered_of_sameMap h] at hneeded
    rw [hsearch] at hending ⊢
    exact (force_of_found hknown' hneeded hending).symm
  | excused _ hneeded hending _ =>
    rw [h.isEmpty_eq, isCovered_of_sameMap h] at hneeded
    rw [hsearch] at hending ⊢
    exact (force_of_not_strict hstrict hknown' hneeded hending).symm
  | failed _ _ _ _ hstrict' => simp [hstrict] at hstrict'

end Plan

namespace Selector

/-- The map that some calls denote says all there is to the selector that they make. It names every
axis once, in the order of the first calls, with the condition of the last one. Calls that denote
the same map make selectors that have the same verdict on all assignments and leave the same plan
behind when a row is forced. The answer is the same as well, unless it is a fault, which quotes the
selector. -/
theorem calls_denote_map :
    (∀ calls, ((ofEntries calls).entries.map (·.1)).Nodup ∧
      (ofEntries calls).entries.map (·.1) = (calls.map (·.1)).eraseDups ∧
      ∀ axis, (ofEntries calls).matcher? axis = lastOn calls axis) ∧
    ∀ calls calls', (∀ axis, lastOn calls axis = lastOn calls' axis) →
      (∀ σ, (ofEntries calls).verdict σ = (ofEntries calls').verdict σ ∧
        (ofEntries calls).isMatch σ = (ofEntries calls').isMatch σ) ∧
      ∀ p : Plan, (p.force (ofEntries calls)).1 = (p.force (ofEntries calls')).1 ∧
        (p.strict = false → p.Knows (ofEntries calls) →
          p.force (ofEntries calls) = p.force (ofEntries calls')) := by
  refine ⟨fun calls => ?_, fun calls calls' hlast => ?_⟩
  · exact ⟨(ofEntries calls).distinct, map_fst_ofEntries calls, matcher?_ofEntries calls⟩
  · have hmap : (ofEntries calls).SameMap (ofEntries calls') := by
      intro axis
      rw [matcher?_ofEntries, matcher?_ofEntries, hlast]
    refine ⟨fun σ => ⟨hmap.verdict_eq σ, hmap.isMatch_eq σ⟩, fun p => ?_⟩
    exact ⟨Plan.force_fst_of_sameMap hmap, Plan.force_of_sameMap hmap⟩

/-- A condition that is replaced keeps its place, so the entries of the two selectors differ in
order. The row that they force is the same new one. -/
theorem calls_denote_map_encryption :
    let calls : List (String × Matcher) :=
      [("ssl", .exactly "off"), ("gss", .anyOf ["off"]), ("ssl", .exactly "on")]
    let calls' : List (String × Matcher) := [("gss", .anyOf ["off"]), ("ssl", .exactly "on")]
    (ofEntries calls).entries.map (·.1) = ["ssl", "gss"] ∧
      (ofEntries calls').entries.map (·.1) = ["gss", "ssl"] ∧
      (Plan.encryption.force (ofEntries calls)).1.rows.length = Plan.encryption.rows.length + 1 ∧
      Plan.encryption.force (ofEntries calls) = Plan.encryption.force (ofEntries calls') := by
  intro calls calls'
  have hlast : ∀ axis, lastOn calls axis = lastOn calls' axis := by
    intro axis
    by_cases hssl : "ssl" = axis
    · subst hssl
      rfl
    · by_cases hgss : "gss" = axis
      · subst hgss
        rfl
      · simp [lastOn, calls, calls', hssl, hgss]
  have hstrict : Plan.encryption.strict = false := by decide +kernel
  have hknown : Plan.encryption.Knows (ofEntries calls) := by decide +kernel
  refine ⟨?_, ?_, by decide +kernel,
    ((calls_denote_map.2 calls calls' hlast).2 Plan.encryption).2 hstrict hknown⟩
  · rw [(calls_denote_map.1 calls).2.1]
    decide +kernel
  · rw [(calls_denote_map.1 calls').2.1]
    decide +kernel

end Selector

end TestMatrix

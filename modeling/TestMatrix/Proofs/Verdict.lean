import Mathlib.Data.List.Basic
import TestMatrix.Constraint

/-!
# Verdicts on open assignments

A verdict is given while axes are still open, and it has to stand when they are assigned later.
`verdict_eq_some_true_iff` and `verdict_eq_some_false_iff` say when a selector has a verdict, and
`Selector.verdict_mono` and `Constraint.verdict_mono` follow: what is decided on an assignment is
decided in the same way on every assignment that extends it. `Constraint.Holds` is the meaning of a
rule without a third value; `isBrokenBy_eq_false_iff` compares the two on a row with all the axes
that the rule names. Only these axes count: `verdict_congr` gives the same verdict on assignments
that are the same on them, and `verdict_classical` puts the three together.
-/

namespace TestMatrix

/-- `τ` assigns whatever `σ` assigns, and perhaps more. -/
def Assignment.Extends (τ σ : Assignment) : Prop :=
  ∀ axis setting, σ axis = some setting → τ axis = some setting

/-! ## Selectors -/

namespace Selector

/-- All named axes are assigned. -/
def Decides (s : Selector) (σ : Assignment) : Prop := ∀ entry ∈ s.entries, (σ entry.1).isSome

/-- All named axes are assigned and match. -/
def Matches (s : Selector) (σ : Assignment) : Prop :=
  ∀ entry ∈ s.entries, ∃ setting, σ entry.1 = some setting ∧ entry.2.accepts setting = true

/-- Some named axis is assigned and does not match. -/
def Fails (s : Selector) (σ : Assignment) : Prop :=
  ∃ entry ∈ s.entries, ∃ setting, σ entry.1 = some setting ∧ entry.2.accepts setting = false

/-- No named axis tells the two assignments apart. -/
def SameOn (s : Selector) (τ σ : Assignment) : Prop := ∀ entry ∈ s.entries, τ entry.1 = σ entry.1

/-- The entries match once all of them are decided and accept their settings. -/
theorem verdictFrom_eq_some_true_iff (σ : Assignment) (undecided : Bool)
    (entries : List (String × Matcher)) :
    verdictFrom σ undecided entries = some true ↔ undecided = false ∧ ∀ entry ∈ entries,
      ∃ setting, σ entry.1 = some setting ∧ entry.2.accepts setting = true := by
  -- An axis that is not set leaves the flag on for the rest of the entries.
  induction entries generalizing undecided with
  | nil => cases undecided <;> simp [verdictFrom]
  | cons entry rest ih =>
    obtain ⟨axis, m⟩ := entry
    rw [List.forall_mem_cons, verdictFrom]
    cases hσ : σ axis with
    | none => simp [ih]
    | some setting =>
      cases hm : m.accepts setting with
      | false => simp [hm]
      | true => simp [hm, ih]

/-- They fail as soon as one of them is decided and does not accept its setting, whatever is
undecided. -/
theorem verdictFrom_eq_some_false_iff (σ : Assignment) (undecided : Bool)
    (entries : List (String × Matcher)) :
    verdictFrom σ undecided entries = some false ↔ ∃ entry ∈ entries,
      ∃ setting, σ entry.1 = some setting ∧ entry.2.accepts setting = false := by
  induction entries generalizing undecided with
  | nil => cases undecided <;> simp [verdictFrom]
  | cons entry rest ih =>
    obtain ⟨axis, m⟩ := entry
    rw [List.exists_mem_cons_iff, verdictFrom]
    cases hσ : σ axis with
    | none => simp [ih]
    | some setting =>
      cases hm : m.accepts setting with
      | false => simp [hm]
      | true => simp [hm, ih]

/-- The verdict is that the selector matches exactly if it does. -/
theorem verdict_eq_some_true_iff (s : Selector) (σ : Assignment) :
    s.verdict σ = some true ↔ s.Matches σ := by
  rw [verdict, verdictFrom_eq_some_true_iff]
  exact and_iff_right rfl

/-- And that it fails exactly if it does. -/
theorem verdict_eq_some_false_iff (s : Selector) (σ : Assignment) :
    s.verdict σ = some false ↔ s.Fails σ :=
  verdictFrom_eq_some_false_iff σ false s.entries

/-- A selector that is undecided is not taken for one that matches. -/
theorem isMatch_iff (s : Selector) (σ : Assignment) : s.isMatch σ = true ↔ s.Matches σ := by
  rw [isMatch, beq_iff_eq, verdict_eq_some_true_iff]

/-- A selector that names no axis matches everything. -/
theorem isMatch_of_isEmpty {s : Selector} (h : s.isEmpty = true) (σ : Assignment) :
    s.isMatch σ = true := by
  rw [isMatch_iff]
  intro entry hentry
  rw [List.isEmpty_iff.mp h] at hentry
  exact absurd hentry List.not_mem_nil

/-- A selector that matches goes on matching when more axes get settings. -/
theorem Matches.mono {s : Selector} {σ τ : Assignment} (h : s.Matches σ) (hτ : τ.Extends σ) :
    s.Matches τ := by
  intro entry hentry
  obtain ⟨setting, hσ, hm⟩ := h entry hentry
  exact ⟨setting, hτ _ _ hσ, hm⟩

/-- A selector that fails goes on failing. -/
theorem Fails.mono {s : Selector} {σ τ : Assignment} (h : s.Fails σ) (hτ : τ.Extends σ) :
    s.Fails τ := by
  obtain ⟨entry, hentry, setting, hσ, hm⟩ := h
  exact ⟨entry, hentry, setting, hτ _ _ hσ, hm⟩

/-- What is decided stays decided. -/
theorem verdict_mono {s : Selector} {σ τ : Assignment} (hτ : τ.Extends σ) {b : Bool}
    (h : s.verdict σ = some b) : s.verdict τ = some b := by
  cases b with
  | true => exact (verdict_eq_some_true_iff s τ).mpr (((verdict_eq_some_true_iff s σ).mp h).mono hτ)
  | false =>
    exact (verdict_eq_some_false_iff s τ).mpr (((verdict_eq_some_false_iff s σ).mp h).mono hτ)

/-- A selector all of whose axes are assigned matches or fails. -/
theorem fails_of_not_matches {s : Selector} {σ : Assignment} (hs : s.Decides σ)
    (h : ¬ s.Matches σ) : s.Fails σ := by
  simp only [Matches, not_forall] at h
  obtain ⟨entry, hentry, hm⟩ := h
  obtain ⟨setting, hσ⟩ := Option.isSome_iff_exists.mp (hs entry hentry)
  refine ⟨entry, hentry, setting, hσ, ?_⟩
  rw [← Bool.not_eq_true]
  exact fun hacc => hm ⟨setting, hσ, hacc⟩

/-- No selector both matches and fails. -/
theorem Fails.not_matches {s : Selector} {σ : Assignment} (h : s.Fails σ) : ¬ s.Matches σ := by
  rw [← verdict_eq_some_true_iff, (verdict_eq_some_false_iff s σ).mpr h]
  simp

/-- A selector all of whose axes are assigned has a verdict, and it is whether they match. -/
theorem exists_verdict {s : Selector} {σ : Assignment} (hs : s.Decides σ) :
    ∃ b, s.verdict σ = some b ∧ (b = true ↔ s.Matches σ) := by
  by_cases h : s.Matches σ
  · exact ⟨true, (verdict_eq_some_true_iff s σ).mpr h, by simp [h]⟩
  · have hfails : s.Fails σ := fails_of_not_matches hs h
    exact ⟨false, (verdict_eq_some_false_iff s σ).mpr hfails, by simp [h]⟩

/-- The verdict depends on the settings of the axes that the entries name. -/
theorem verdictFrom_congr {τ σ : Assignment} {entries : List (String × Matcher)}
    (h : ∀ entry ∈ entries, τ entry.1 = σ entry.1) (undecided : Bool) :
    verdictFrom τ undecided entries = verdictFrom σ undecided entries := by
  induction entries generalizing undecided with
  | nil => rfl
  | cons entry rest ih =>
    rw [List.forall_mem_cons] at h
    simp only [verdictFrom, h.1, ih h.2]

/-- So does that on a selector, which depends on nothing else. -/
theorem verdict_congr {s : Selector} {τ σ : Assignment} (h : s.SameOn τ σ) :
    s.verdict τ = s.verdict σ :=
  verdictFrom_congr h false

/-- The condition on an axis is the only entry that names it. -/
theorem matcher?_eq_some_iff {s : Selector} {axis : String} {m : Matcher} :
    s.matcher? axis = some m ↔ (axis, m) ∈ s.entries := by
  obtain ⟨entries, distinct⟩ := s
  simp only [matcher?]
  induction entries with
  | nil => simp
  | cons entry rest ih =>
    obtain ⟨name, n⟩ := entry
    rw [List.map_cons, List.nodup_cons] at distinct
    by_cases h : name = axis
    · subst h
      -- The names are distinct, so none of the later entries is about this axis.
      have hrest : (name, m) ∉ rest := fun hm => distinct.1 (List.mem_map.mpr ⟨_, hm, rfl⟩)
      simp [hrest, eq_comm]
    · have h' : axis ≠ name := Ne.symm h
      simp [h, h', ih distinct.2]

end Selector

/-! ## Constraints -/

namespace Constraint

/-- All axes that the rule names are assigned. -/
def Decides (c : Constraint) (σ : Assignment) : Prop := ∀ s ∈ c.selectors, s.Decides σ

/-- The row keeps the rule. -/
def Holds (c : Constraint) (r : Row) : Prop :=
  match c with
  | .exclude selector => ¬ selector.Matches r.assignment
  | .excludeRow _ test => test r = false
  | .imply condition requirement =>
    condition.Matches r.assignment → requirement.Matches r.assignment

/-- An implication is broken if its condition matches and its requirement fails. -/
theorem verdict_imply_eq_some_true_iff (condition requirement : Selector) (σ : Assignment) :
    (imply condition requirement).verdict σ = some true ↔
      condition.Matches σ ∧ requirement.Fails σ := by
  rw [← Selector.verdict_eq_some_true_iff, ← Selector.verdict_eq_some_false_iff, verdict]
  rcases condition.verdict σ with _ | _ | _ <;> rcases requirement.verdict σ with _ | _ | _ <;> simp

/-- It is kept for good if its condition fails or its requirement matches. -/
theorem verdict_imply_eq_some_false_iff (condition requirement : Selector) (σ : Assignment) :
    (imply condition requirement).verdict σ = some false ↔
      condition.Fails σ ∨ requirement.Matches σ := by
  rw [← Selector.verdict_eq_some_true_iff, ← Selector.verdict_eq_some_false_iff, verdict]
  rcases condition.verdict σ with _ | _ | _ <;> rcases requirement.verdict σ with _ | _ | _ <;> simp

/-- What is decided stays decided. -/
theorem verdict_mono {c : Constraint} {σ τ : Assignment} (hτ : τ.Extends σ) {b : Bool}
    (h : c.verdict σ = some b) : c.verdict τ = some b := by
  cases c with
  | exclude selector => exact Selector.verdict_mono hτ h
  | excludeRow label test => exact absurd h (by simp [verdict])
  | imply condition requirement =>
    cases b with
    | true =>
      rw [verdict_imply_eq_some_true_iff] at h ⊢
      exact ⟨h.1.mono hτ, h.2.mono hτ⟩
    | false =>
      rw [verdict_imply_eq_some_false_iff] at h ⊢
      exact h.imp (·.mono hτ) (·.mono hτ)

/-- A rule that is bound to be broken is broken by whatever the open axes become. -/
theorem isBroken_mono {c : Constraint} {σ τ : Assignment} (hτ : τ.Extends σ)
    (h : c.isBroken σ = true) : c.isBroken τ = true := by
  rw [isBroken, beq_iff_eq] at h ⊢
  exact verdict_mono hτ h

/-- A row breaks the rules that its assignment is bound to break. -/
theorem isBrokenBy_of_isBroken {c : Constraint} {r : Row} (h : c.isBroken r.assignment = true) :
    c.isBrokenBy r = true := by
  cases c with
  | excludeRow label test => exact absurd h (by simp [isBroken, verdict])
  | exclude selector => exact h
  | imply condition requirement => exact h

/-- On a row that has all the axes it names, a rule is not broken exactly if it holds. -/
theorem isBrokenBy_eq_false_iff {c : Constraint} {r : Row} (hc : c.Decides r.assignment) :
    c.isBrokenBy r = false ↔ c.Holds r := by
  cases c with
  | exclude selector =>
    rw [Holds, ← Selector.verdict_eq_some_true_iff]
    simp [isBrokenBy, isBroken, verdict]
  | excludeRow label test => exact Iff.rfl
  | imply condition requirement =>
    have hreq : requirement.Decides r.assignment := hc requirement (by simp [selectors])
    have hbroken : (imply condition requirement).isBrokenBy r = true ↔
        condition.Matches r.assignment ∧ requirement.Fails r.assignment := by
      rw [← verdict_imply_eq_some_true_iff]
      exact beq_iff_eq
    -- No axis is open, so the requirement either matches or fails.
    rw [← Bool.not_eq_true, hbroken, Holds, not_and]
    refine forall_congr' fun _ => ?_
    exact ⟨fun h => not_not.mp fun hn => h (Selector.fails_of_not_matches hreq hn),
      fun h hf => hf.not_matches h⟩

/-- The verdict on a rule depends on the settings of the axes that its selectors name. -/
theorem verdict_congr {c : Constraint} {τ σ : Assignment} (h : ∀ s ∈ c.selectors, s.SameOn τ σ) :
    c.verdict τ = c.verdict σ := by
  cases c with
  | exclude selector => exact Selector.verdict_congr (h selector (by simp [selectors]))
  | excludeRow label test => rfl
  | imply condition requirement =>
    rw [verdict, verdict, Selector.verdict_congr (h condition (by simp [selectors])),
      Selector.verdict_congr (h requirement (by simp [selectors]))]

/-- Where the assignment decides about a rule, the row gets the same answer. -/
theorem isBrokenBy_eq_of_verdict {c : Constraint} {r : Row} {b : Bool}
    (h : c.verdict r.assignment = some b) : c.isBrokenBy r = b := by
  cases c with
  | excludeRow label test => exact absurd h (by simp [verdict])
  | exclude selector => cases b <;> simp [isBrokenBy, isBroken, h]
  | imply condition requirement => cases b <;> simp [isBrokenBy, isBroken, h]

/-- A row is judged as the assignment of its settings is, where that is decided. -/
theorem isBrokenBy_of_sameOn {c : Constraint} {r : Row} {σ : Assignment} {b : Bool}
    (hr : ∀ s ∈ c.selectors, s.SameOn r.assignment σ) (h : c.verdict σ = some b) :
    c.isBrokenBy r = b :=
  isBrokenBy_eq_of_verdict ((verdict_congr hr).trans h)

/-- An implication all of whose axes are assigned has a verdict: it is broken if the condition
matches and the requirement does not. -/
theorem exists_verdict_imply {condition requirement : Selector} {σ : Assignment}
    (hcond : condition.Decides σ) (hreq : requirement.Decides σ) :
    ∃ b, (imply condition requirement).verdict σ = some b ∧
      (b = true ↔ condition.Matches σ ∧ ¬ requirement.Matches σ) := by
  obtain ⟨b, hb, hbiff⟩ := Selector.exists_verdict hcond
  obtain ⟨b', hb', hbiff'⟩ := Selector.exists_verdict hreq
  refine ⟨b && !b', ?_, ?_⟩
  · rw [verdict, hb, hb']
    cases b <;> cases b' <;> rfl
  · rw [← hbiff, ← hbiff']
    simp

/-- A verdict on some of the axes stands whatever is assigned later. Exclusions and implications all
of whose axes are assigned have one, which is their classical meaning, and a row with these settings
breaks them accordingly. -/
theorem verdict_classical :
    (∀ (s : Selector) (σ τ : Assignment) (b : Bool), τ.Extends σ →
      s.verdict σ = some b → s.verdict τ = some b) ∧
    (∀ (c : Constraint) (σ τ : Assignment) (b : Bool), τ.Extends σ →
      c.verdict σ = some b → c.verdict τ = some b) ∧
    (∀ (selector : Selector) (σ : Assignment), selector.Decides σ →
      ∃ b, (exclude selector).verdict σ = some b ∧ (b = true ↔ selector.Matches σ) ∧
        ∀ r : Row, selector.SameOn r.assignment σ → (exclude selector).isBrokenBy r = b) ∧
    (∀ (condition requirement : Selector) (σ : Assignment),
      condition.Decides σ → requirement.Decides σ →
      ∃ b, (imply condition requirement).verdict σ = some b ∧
        (b = true ↔ condition.Matches σ ∧ ¬ requirement.Matches σ) ∧
        ∀ r : Row, condition.SameOn r.assignment σ → requirement.SameOn r.assignment σ →
          (imply condition requirement).isBrokenBy r = b) := by
  refine ⟨fun s σ τ b hτ h => Selector.verdict_mono hτ h, fun c σ τ b hτ h => verdict_mono hτ h,
    ?_, ?_⟩
  -- Where all axes are assigned, a selector has a verdict, and the row of such an assignment gets
  -- it.
  · intro selector σ hdecides
    obtain ⟨b, hb, hbiff⟩ := Selector.exists_verdict hdecides
    exact ⟨b, hb, hbiff, fun r hr => isBrokenBy_of_sameOn (by simpa [selectors] using hr) hb⟩
  · intro condition requirement σ hcond hreq
    obtain ⟨b, hb, hbiff⟩ := exists_verdict_imply hcond hreq
    exact ⟨b, hb, hbiff, fun r hrcond hrreq =>
      isBrokenBy_of_sameOn (by simpa [selectors] using ⟨hrcond, hrreq⟩) hb⟩

/-- The rule that rows with `ssl` have `gss` too. -/
def gssUnderSsl : Constraint := .imply (.having {} "ssl" "on") (.having {} "gss" "on")

/-- Without `ssl` the rule is settled while `gss` is open, and it stays settled. A row with `ssl`
and without `gss` breaks it. -/
theorem verdict_classical_gssUnderSsl :
    let withoutSsl : Row := { name := "", cells := [⟨"ssl", { token := "off" }⟩] }
    let withoutGss : Row :=
      { name := "", cells := [⟨"ssl", { token := "on" }⟩, ⟨"gss", { token := "off" }⟩] }
    withoutSsl.assignment "gss" = none ∧
      (∀ τ : Assignment, τ.Extends withoutSsl.assignment → gssUnderSsl.verdict τ = some false) ∧
      gssUnderSsl.isBrokenBy withoutGss = true := by
  intro withoutSsl withoutGss
  have hsettled : gssUnderSsl.verdict withoutSsl.assignment = some false := by decide +kernel
  refine ⟨rfl, fun τ hτ => verdict_classical.2.1 _ _ _ _ hτ hsettled, ?_⟩
  obtain ⟨b, -, hbiff, hrow⟩ := verdict_classical.2.2.2 (.having {} "ssl" "on")
    (.having {} "gss" "on") withoutGss.assignment
    (by unfold Selector.Decides; decide +kernel) (by unfold Selector.Decides; decide +kernel)
  have hmatches : Selector.Matches (.having {} "ssl" "on") withoutGss.assignment := by
    rw [← Selector.isMatch_iff]
    decide +kernel
  have hfails : ¬ Selector.Matches (.having {} "gss" "on") withoutGss.assignment := by
    rw [← Selector.isMatch_iff]
    decide +kernel
  exact (hrow withoutGss (fun _ _ => rfl) (fun _ _ => rfl)).trans
    (hbiff.mpr ⟨hmatches, hfails⟩)

end Constraint

end TestMatrix

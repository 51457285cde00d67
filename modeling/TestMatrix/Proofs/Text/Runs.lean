import Mathlib.Data.List.Chain
import TestMatrix.Text.Natural

/-!
# Maximal runs

A text can be divided in only one way into runs that are each of one kind and of another kind than
the run before, and `runs` divides it so (`maximalRuns_iff`). All that is needed for this is where
runs meet: between a character of one kind and one of the other, a run ends (`runs_append`).
-/

namespace TestMatrix.Text

variable {cs ds : List Char} {c d : Char} {rs : List Run} {r : Run}

/-! ## The runs of a text -/

/-- The run has characters, and all of them are of its kind. -/
structure Run.WellFormed (r : Run) : Prop where
  ne_nil : r.text ≠ []
  isDigit_eq : ∀ c ∈ r.text, c.isDigit = r.numeric

/-- The runs make up the characters, each of them is of one kind, and neighbouring runs are of
different kinds, so that no run can be made longer. -/
structure MaximalRuns (cs : List Char) (rs : List Run) : Prop where
  flatMap_text : rs.flatMap Run.text = cs
  wellFormed : ∀ r ∈ rs, r.WellFormed
  isChain : rs.IsChain fun r s => r.numeric ≠ s.numeric

/-- A character that is put in front of runs comes in front of their text. -/
theorem flatMap_text_consRun (c : Char) (rs : List Run) :
    (consRun c rs).flatMap Run.text = c :: rs.flatMap Run.text := by
  cases rs with
  | nil => rfl
  | cons r rest =>
    rw [consRun]
    split <;> rfl

/-- The runs make up the text. -/
theorem flatMap_text_runs (cs : List Char) : (runs cs).flatMap Run.text = cs := by
  induction cs with
  | nil => rfl
  | cons c rest ih => rw [runs_cons, flatMap_text_consRun, ih]

/-- A character is a run of its own kind. -/
theorem Run.wellFormed_singleton (c : Char) : Run.WellFormed ⟨c.isDigit, [c]⟩ where
  ne_nil := List.cons_ne_nil c []
  isDigit_eq d hd := by rw [List.mem_singleton.mp hd]

/-- It joins the first run if that is of its kind, so all runs stay of one kind each. -/
theorem wellFormed_of_mem_consRun {c : Char} {rs : List Run} (h : ∀ r ∈ rs, r.WellFormed) {r : Run}
    (hr : r ∈ consRun c rs) : r.WellFormed := by
  cases rs with
  | nil => exact List.mem_singleton.mp hr ▸ Run.wellFormed_singleton c
  | cons first rest =>
    rw [List.forall_mem_cons] at h
    rw [consRun] at hr
    split at hr
    · next hkind =>
      rcases List.mem_cons.mp hr with rfl | hr
      · exact ⟨List.cons_ne_nil _ _, List.forall_mem_cons.mpr ⟨hkind.symm, h.1.isDigit_eq⟩⟩
      · exact h.2 r hr
    · rcases List.mem_cons.mp hr with rfl | hr
      · exact Run.wellFormed_singleton c
      · exact List.forall_mem_cons.mpr h r hr

/-- Every run is of one kind. -/
theorem wellFormed_of_mem_runs {cs : List Char} : ∀ r ∈ runs cs, r.WellFormed := by
  induction cs with
  | nil => exact List.forall_mem_nil _
  | cons c rest ih => exact fun r => wellFormed_of_mem_consRun ih

/-- Otherwise it is a run by itself, of another kind than the next. -/
theorem isChain_consRun (c : Char) {rs : List Run}
    (h : rs.IsChain fun r s => r.numeric ≠ s.numeric) :
    (consRun c rs).IsChain fun r s => r.numeric ≠ s.numeric := by
  cases rs with
  | nil => exact List.isChain_singleton _
  | cons first rest =>
    rw [consRun]
    split
    · exact List.isChain_cons.mpr (List.isChain_cons.mp h)
    · next hkind => exact List.isChain_cons_cons.mpr ⟨Ne.symm hkind, h⟩

/-- Neighbouring runs are of different kinds. -/
theorem isChain_runs (cs : List Char) : (runs cs).IsChain fun r s => r.numeric ≠ s.numeric := by
  induction cs with
  | nil => exact List.isChain_nil
  | cons c rest ih => exact isChain_consRun c ih

/-! ## Where runs meet -/

/-- Only the first run matters to it. -/
theorem consRun_append {rs : List Run} (h : rs ≠ []) (c : Char) (rs' : List Run) :
    consRun c (rs ++ rs') = consRun c rs ++ rs' := by
  cases rs with
  | nil => exact absurd rfl h
  | cons r rs =>
    rw [List.cons_append, consRun, consRun]
    split <;> rfl

/-- Where there are characters, there are runs. -/
theorem runs_ne_nil (h : cs ≠ []) : runs cs ≠ [] := by
  intro hruns
  apply h
  rw [← flatMap_text_runs cs, hruns]
  rfl

/-- The first run is of the kind of the first character. -/
theorem exists_runs_cons (c : Char) (cs : List Char) :
    ∃ r rs, runs (c :: cs) = r :: rs ∧ r.numeric = c.isDigit := by
  rw [runs_cons]
  cases runs cs with
  | nil => exact ⟨_, _, rfl, rfl⟩
  | cons r rs =>
    rw [consRun]
    split
    · next hkind => exact ⟨_, _, rfl, hkind⟩
    · exact ⟨_, _, rfl, rfl⟩

/-- Where a character of one kind is followed by one of the other kind, a run ends. -/
theorem runs_append (h : ∀ c ∈ cs.getLast?, ∀ d ∈ ds.head?, c.isDigit ≠ d.isDigit) :
    runs (cs ++ ds) = runs cs ++ runs ds := by
  induction cs with
  | nil => rfl
  | cons c cs ih =>
    cases cs with
    | nil =>
      -- The only character in front meets the first run of what follows.
      cases ds with
      | nil => rfl
      | cons d ds =>
        obtain ⟨r, rs, hruns, hkind⟩ := exists_runs_cons d ds
        have hne : r.numeric ≠ c.isDigit := by
          rw [hkind]
          exact Ne.symm (h c rfl d rfl)
        rw [List.singleton_append, runs_cons, hruns, consRun, if_neg hne]
        rfl
    | cons c' cs =>
      rw [List.getLast?_cons_cons] at h
      rw [List.cons_append, runs_cons, ih h, consRun_append (runs_ne_nil (List.cons_ne_nil c' cs)),
        ← runs_cons]

/-- Characters of one kind are one run. -/
theorem runs_of_kind {kind : Bool} (hne : cs ≠ []) (h : ∀ c ∈ cs, c.isDigit = kind) :
    runs cs = [⟨kind, cs⟩] := by
  induction cs with
  | nil => exact absurd rfl hne
  | cons c cs ih =>
    rw [List.forall_mem_cons] at h
    rw [runs_cons]
    by_cases hcs : cs = []
    · rw [hcs, runs_nil, consRun, h.1]
    · rw [ih hcs h.2, consRun, if_pos h.1.symm]

/-! ## The only division -/

/-- The first character of some runs tells the kind of the first run. -/
theorem exists_head?_of_flatMap_text (h : ∀ r ∈ rs, r.WellFormed)
    (hd : d ∈ (rs.flatMap Run.text).head?) : ∃ r ∈ rs.head?, d.isDigit = r.numeric := by
  cases rs with
  | nil => simp at hd
  | cons r rs =>
    have hr : r.WellFormed := h r List.mem_cons_self
    rw [List.flatMap_cons, List.head?_append_of_ne_nil _ hr.ne_nil] at hd
    exact ⟨r, rfl, hr.isDigit_eq d (List.mem_of_mem_head? hd)⟩

/-- Runs of alternating kinds are the runs of the text that they make up. -/
theorem runs_flatMap_text (h : ∀ r ∈ rs, r.WellFormed)
    (hchain : rs.IsChain fun r s => r.numeric ≠ s.numeric) : runs (rs.flatMap Run.text) = rs := by
  induction rs with
  | nil => rfl
  | cons r rs ih =>
    rw [List.forall_mem_cons] at h
    rw [List.isChain_cons] at hchain
    -- A run and the next one are of different kinds, so the division ends where the run does.
    have hends : ∀ c ∈ r.text.getLast?, ∀ d ∈ (rs.flatMap Run.text).head?,
        c.isDigit ≠ d.isDigit := by
      intro c hc d hd
      obtain ⟨next, hnext, hkind⟩ := exists_head?_of_flatMap_text h.2 hd
      rw [h.1.isDigit_eq c (List.mem_of_mem_getLast? hc), hkind]
      exact hchain.1 next hnext
    rw [List.flatMap_cons, runs_append hends, runs_of_kind h.1.ne_nil h.1.isDigit_eq,
      ih h.2 hchain.2, List.singleton_append]

/-- The runs of a text are its only maximal runs. -/
theorem maximalRuns_iff : MaximalRuns cs rs ↔ rs = runs cs := by
  constructor
  · intro h
    rw [← h.flatMap_text, runs_flatMap_text h.wellFormed h.isChain]
  · rintro rfl
    exact ⟨flatMap_text_runs cs, wellFormed_of_mem_runs, isChain_runs cs⟩

/-! ## A further character -/

/-- A character of its kind makes the last run longer. -/
theorem MaximalRuns.concat_same (h : MaximalRuns cs (rs ++ [r])) (hkind : r.numeric = c.isDigit) :
    MaximalRuns (cs ++ [c]) (rs ++ [⟨r.numeric, r.text ++ [c]⟩]) := by
  have hwell := List.forall_mem_append.mp h.wellFormed
  have hr : r.WellFormed := hwell.2 r List.mem_cons_self
  have hchain := List.isChain_append.mp h.isChain
  refine ⟨?_, List.forall_mem_append.mpr ⟨hwell.1, ?_⟩, ?_⟩
  · rw [← h.flatMap_text]
    simp
  · rw [List.forall_mem_singleton]
    refine ⟨by simp, ?_⟩
    rw [List.forall_mem_append, List.forall_mem_singleton]
    exact ⟨hr.isDigit_eq, hkind.symm⟩
  · refine List.isChain_append.mpr ⟨hchain.1, List.isChain_singleton _, ?_⟩
    simpa using hchain.2.2

/-- A character of the other kind is the first of a run of its own. -/
theorem MaximalRuns.concat_other (h : MaximalRuns cs (rs ++ [r])) (hkind : r.numeric ≠ c.isDigit) :
    MaximalRuns (cs ++ [c]) (rs ++ [r] ++ [⟨c.isDigit, [c]⟩]) := by
  refine ⟨?_, List.forall_mem_append.mpr ⟨h.wellFormed, ?_⟩, ?_⟩
  · rw [List.flatMap_append, h.flatMap_text]
    rfl
  · rw [List.forall_mem_singleton]
    exact Run.wellFormed_singleton c
  · refine List.isChain_append.mpr ⟨h.isChain, List.isChain_singleton _, ?_⟩
    simpa using hkind

end TestMatrix.Text

import TestMatrix.Proofs.Plan.Draws

/-!
# What operations leave alone

An operation may be refused, and a row that is asked for may be there already. The plan `Declines`
both, and both leave it as it was, so that whatever is done afterwards goes on as if the operation
had not been tried. Which operations are declined can be told from the axes and rows of the plan.

Of the others, those that search for rows only ever add rows behind those that are there, with their
picks to those that have been seen, and move the stream forwards. `Framed` collects what the
operations change and what they do not, and `framed_after` says that it holds of every plan that
operations lead to.
-/

namespace TestMatrix.Plan

variable {p : Plan} {s : Selector} {action : Action}

/-! ## What is declined -/

/-- The operation is refused, or it asks for a row that is there already. -/
def Declines (p : Plan) : Action → Prop
  | .insertAxis a => ∃ e, (p.insertAxis a).2 = .error e
  | .constrain c => ∃ e, (p.constrain c).2 = .error e
  | .nameBy names => ∃ e, (p.nameBy names).2 = .error e
  | .force s => (∃ e, (p.force s).2 = .error (.config e)) ∨
      (p.force s).2 = .ok none ∧ s.isEmpty = false ∧ p.isCovered s = true
  | _ => False

/-- A row is declined without a search. -/
theorem declines_force_iff : p.Declines (.force s) ↔
    ¬p.Knows s ∨ s.isEmpty = false ∧ p.isCovered s = true := by
  rw [Declines]
  have hforced := p.forced_force s
  generalize p.force s = outcome at hforced ⊢
  cases hforced with
  | refused hknown => simp [hknown]
  | covered hknown hempty hcovered => simp [hempty, hcovered]
  | made hknown hneeded hending => rcases hneeded with h | h <;> simp [hknown, h]
  | excused hknown hneeded hending hexcuse => rcases hneeded with h | h <;> simp [hknown, h]
  | failed hknown hneeded hending hrepeat hstrict =>
    rcases hneeded with h | h <;> simp [hknown, h]

/-- What is declined leaves the plan as it was. -/
theorem act_of_declines (h : p.Declines action) : p.act action = p := by
  -- Three operations may be refused, `force` may have nothing to do, and the others never decline.
  cases action with
  | insertAxis a =>
    obtain ⟨e, he⟩ := h
    exact (insertAxis_refusesUnless p a).eq_of_error he
  | constrain c =>
    obtain ⟨e, he⟩ := h
    exact (constrain_refusesUnless p c).eq_of_error he
  | nameBy names =>
    obtain ⟨e, he⟩ := h
    exact (nameBy_refusesUnless p names).eq_of_error he
  | force s => exact (force_of_refused_or_covered (declines_force_iff.mp h)).1
  | setStrict strict => exact h.elim
  | setBudget budget => exact h.elim
  | setStream stream => exact h.elim
  | fill count => exact h.elim

/-! ## When it is declined -/

/-- The plan has no axis of that name. -/
def Lacks (p : Plan) (name : String) : Prop := ∀ a ∈ p.axes, a.name ≠ name

/-- No axis is looked up in vain unless the plan lacks it. -/
theorem Coherent.axisIndex?_eq_none_iff (hp : p.Coherent) {name : String} :
    p.axisIndex? name = none ↔ p.Lacks name := by
  rw [hp.axisIndex?_eq, List.findIdx?_eq_none_iff]
  simp [Lacks]

/-- A selector is not known if it names an axis that the plan lacks, in whatever place. -/
theorem Coherent.not_knows_iff (hp : p.Coherent) :
    ¬p.Knows s ↔ ∃ entry ∈ s.entries, p.Lacks entry.1 := by
  simp only [Knows, not_forall, Bool.not_eq_true, Option.isSome_eq_false_iff,
    Option.isNone_iff_eq_none, hp.axisIndex?_eq_none_iff, exists_prop]

/-- Any of the three checks of an axis may be what refuses it. -/
theorem Coherent.declines_insertAxis_iff (hp : p.Coherent) {a : Axis} :
    p.Declines (.insertAxis a) ↔ a.check ≠ .ok () ∨ ¬p.Lacks a.name ∨ p.entries ≠ [] := by
  rw [Declines, (insertAxis_refusesUnless p a).exists_error_iff, hp.axisIndex?_eq_none_iff,
    not_and_or, not_and_or]

/-- Only an exclusion can be one of everything. -/
theorem requireScope_eq_ok_iff {c : Constraint} :
    requireScope c = .ok () ↔ ∀ s, c = .exclude s → s.isEmpty = false := by
  cases c with
  | exclude s => cases h : s.isEmpty <;> simp [requireScope, h]
  | excludeRow label test => simp [requireScope]
  | imply condition requirement => simp [requireScope]

/-- Any selector of a constraint, and any axis that it names, may be what refuses it. -/
theorem Coherent.declines_constrain_iff (hp : p.Coherent) {c : Constraint} :
    p.Declines (.constrain c) ↔ (∃ s, c = .exclude s ∧ s.isEmpty = true) ∨
      ∃ s ∈ c.selectors, ∃ entry ∈ s.entries, p.Lacks entry.1 := by
  rw [Declines, (constrain_refusesUnless p c).exists_error_iff, requireScope_eq_ok_iff, not_and_or]
  simp only [not_forall, exists_prop, Bool.not_eq_false, hp.not_knows_iff]

/-- Any name of a pattern may be what refuses it. -/
theorem Coherent.declines_nameBy_iff (hp : p.Coherent) {names : List String} :
    p.Declines (.nameBy names) ↔ ∃ name ∈ names, p.Lacks name := by
  rw [Declines, (nameBy_refusesUnless p names).exists_error_iff]
  simp only [not_forall, exists_prop, Bool.not_eq_true, Option.isSome_eq_false_iff,
    Option.isNone_iff_eq_none, hp.axisIndex?_eq_none_iff]

/-! ## What a search changes -/

/-- If no row is made, then nothing but the stream has moved. -/
theorem force_of_no_row (h : ∀ r, (p.force s).2 ≠ .ok (some r)) :
    ∃ draws, (p.force s).1 = { p with stream := p.stream.skip draws } := by
  obtain ⟨draws, -, hdraws⟩ := p.reaches_force s
  rcases force_cases p s with ⟨picks, stream, -, -, hforce⟩ | ⟨stream, hforce, -⟩
  · exact absurd (by rw [hforce]) (h (p.row picks))
  · refine ⟨draws, ?_⟩
    rw [hforce] at hdraws ⊢
    rw [← hdraws]

/-- Picks that are left for a selector have not been seen. -/
theorem not_mem_seen (hp : p.Coherent) {picks : List Nat} (h : picks ∈ p.remainingFor s) :
    picks ∉ p.seen := by
  rw [hp.mem_seen]
  exact (mem_remaining.mp (mem_remainingFor.mp h).1).2.2

/-- A row that is made is added with its picks, which had not been seen. -/
theorem force_of_row (hp : p.Coherent) {r : Row} (h : (p.force s).2 = .ok (some r)) :
    ∃ picks draws, picks ∉ p.seen ∧ (p.force s).1 = { p with
      entries := p.entries ++ [⟨picks, r⟩]
      seen := p.seen.insert picks
      stream := p.stream.skip draws } := by
  obtain ⟨draws, -, hdraws⟩ := p.reaches_force s
  rcases force_cases p s with ⟨picks, stream, hknown, hpicks, hforce⟩ | ⟨stream, -, hnone⟩
  · rw [hforce] at h hdraws ⊢
    obtain rfl : p.row picks = r := Option.some.inj (Except.ok.inj h)
    refine ⟨picks, draws, not_mem_seen hp (search_found hp hknown hpicks), ?_⟩
    rw [← hdraws]
    rfl
  · exact absurd h (hnone r)

/-- A plan is filled up with no more rows than are asked for. -/
theorem length_fill_le (count : Nat) (p : Plan) :
    (p.fill count).entries.length ≤ p.entries.length + count := by
  induction count generalizing p with
  | zero => exact Nat.le_refl _
  | succ count ih =>
    rcases p.search_found_or_not {} with ⟨picks, hpicks⟩ | hnone
    · rw [fill_of_found count hpicks]
      refine (ih { p.enter picks with stream := (p.search {}).tally.stream }).trans ?_
      show (p.entries ++ [p.entryOf picks]).length + count ≤ p.entries.length + (count + 1)
      rw [List.length_append, List.length_singleton]
      omega
    · rw [fill_of_not_found count hnone]
      exact Nat.le_add_right _ _

/-- The rows that a plan is filled up with are added with their picks, which had not been seen. -/
theorem fill_eq (hp : p.Coherent) (count : Nat) :
    ∃ new : List Entry, ∃ draws, new.length ≤ count ∧ (∀ e ∈ new, e.picks ∉ p.seen) ∧
      p.fill count = { p with
        entries := p.entries ++ new
        seen := new.foldl (fun seen e => seen.insert e.picks) p.seen
        stream := p.stream.skip draws } := by
  obtain ⟨draws, -, hdraws⟩ := reaches_fill count p
  obtain ⟨added, stream, hfill, hadds⟩ := fill_adds count hp
  have hlength := length_fill_le count p
  rw [hfill] at hdraws hlength ⊢
  refine ⟨added.map p.entryOf, draws, ?_, ?_, ?_⟩
  · simpa [enterAll] using hlength
  · rw [List.forall_mem_map]
    exact fun picks hpicks => not_mem_seen hp (hadds.mem_remainingFor picks hpicks)
  · rw [← hdraws, List.foldl_map]
    rfl

/-! ## All together -/

/-- What the operations on a plan change. -/
structure Framed (p : Plan) : Prop where
  /-- What is declined leaves the plan as it was. -/
  act_declined : ∀ action, p.Declines action → p.act action = p
  /-- So whatever is done afterwards goes on as if it had not been tried. -/
  after_declined : ∀ action, p.Declines action → ∀ rest, p.after (action :: rest) = p.after rest
  /-- An axis is declined if it is not sound, if there is one of its name, or if there are rows. -/
  declines_insertAxis : ∀ a, p.Declines (.insertAxis a) ↔
    a.check ≠ .ok () ∨ ¬p.Lacks a.name ∨ p.entries ≠ []
  /-- A constraint is declined if it excludes everything, or if one of its selectors names an axis,
  be it the last, that the plan lacks. -/
  declines_constrain : ∀ c, p.Declines (.constrain c) ↔
    (∃ s, c = .exclude s ∧ s.isEmpty = true) ∨
      ∃ s ∈ c.selectors, ∃ entry ∈ s.entries, p.Lacks entry.1
  /-- A name pattern is declined if the plan lacks one of the axes. -/
  declines_nameBy : ∀ names, p.Declines (.nameBy names) ↔ ∃ name ∈ names, p.Lacks name
  /-- A row is declined if its selector names an axis, be it the last, that the plan lacks, or if it
  names some and a row matches it. -/
  declines_force : ∀ s, p.Declines (.force s) ↔
    (∃ entry ∈ s.entries, p.Lacks entry.1) ∨
      s.isEmpty = false ∧ ∃ r ∈ p.rows, s.Matches r.assignment
  /-- If no row is made, whether that is a fault or not, then only the stream has moved. -/
  force_of_no_row : ∀ s, (∀ r, (p.force s).2 ≠ .ok (some r)) →
    ∃ draws, (p.force s).1 = { p with stream := p.stream.skip draws }
  /-- A row that is made stands behind the others. -/
  force_of_row : ∀ s r, (p.force s).2 = .ok (some r) →
    ∃ picks draws, picks ∉ p.seen ∧ (p.force s).1 = { p with
      entries := p.entries ++ [⟨picks, r⟩]
      seen := p.seen.insert picks
      stream := p.stream.skip draws }
  /-- The rows that a plan is filled up with stand behind the others. -/
  fill_eq : ∀ count, ∃ new : List Entry, ∃ draws, new.length ≤ count ∧
    (∀ e ∈ new, e.picks ∉ p.seen) ∧ p.fill count = { p with
      entries := p.entries ++ new
      seen := new.foldl (fun seen e => seen.insert e.picks) p.seen
      stream := p.stream.skip draws }

/-- Whatever was done with a plan before, an operation that is declined leaves it as it was, and one
that is not changes no more of it than it has to. -/
theorem framed_after (stream : RandomStream) (actions : List Action) :
    ((ofStream stream).after actions).Framed := by
  have hp : ((ofStream stream).after actions).Coherent := (reachable_after stream actions).coherent
  refine ⟨fun action => act_of_declines, fun action hdeclines rest => ?_,
    fun a => hp.declines_insertAxis_iff, fun c => hp.declines_constrain_iff,
    fun names => hp.declines_nameBy_iff, fun s => ?_, fun s => force_of_no_row,
    fun s r => force_of_row hp, fill_eq hp⟩
  · rw [after, List.foldl_cons, act_of_declines hdeclines, ← after]
  · rw [declines_force_iff, hp.not_knows_iff, isCovered_iff]

/-- The small plan declines whatever names a third axis, also where that comes last, and any axis,
since it has rows. It goes on as if it had not been asked. -/
theorem framed_after_encryption :
    let s := Selector.having (.having {} "ssl" "on") "tls" "on"
    let c : Constraint := .imply (.having {} "ssl" "on") (.having {} "tls" "on")
    encryption.Framed ∧ encryption.Declines (.force s) ∧ encryption.Declines (.constrain c) ∧
      encryption.Declines (.nameBy ["ssl", "tls"]) ∧
      encryption.Declines (.insertAxis (onOff "tls")) ∧
      encryption.after [.force s, .fill 1] = encryption.after [.fill 1] := by
  intro s c
  have hframed : encryption.Framed := framed_after (.ofSeed 7) encryptionActions
  have hlacks : encryption.Lacks "tls" := by
    unfold Lacks
    decide +kernel
  have hrows : encryption.entries ≠ [] := List.ne_nil_of_length_pos (by decide +kernel)
  have hlast : ("tls", Matcher.exactly "on") ∈ s.entries := List.mem_cons_of_mem _ (.head _)
  have hrequired : ("tls", Matcher.exactly "on") ∈ (Selector.having {} "tls" "on").entries :=
    .head _
  have hforce : encryption.Declines (.force s) :=
    (hframed.declines_force s).mpr (.inl ⟨_, hlast, hlacks⟩)
  have hconstrain : encryption.Declines (.constrain c) :=
    (hframed.declines_constrain c).mpr
      (.inr ⟨_, List.mem_cons_of_mem _ (.head _), _, hrequired, hlacks⟩)
  exact ⟨hframed, hforce, hconstrain,
    (hframed.declines_nameBy _).mpr ⟨"tls", by simp, hlacks⟩,
    (hframed.declines_insertAxis _).mpr (.inr (.inr hrows)), hframed.after_declined _ hforce _⟩

end TestMatrix.Plan

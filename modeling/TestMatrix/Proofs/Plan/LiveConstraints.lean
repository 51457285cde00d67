import TestMatrix.Proofs.Plan.History
import TestMatrix.Proofs.Search.Congruence

/-!
# Which constraints count

A constraint is `Dead` in a plan if it takes effect only on rows with a setting that the plan does
not have. No picks are ever doomed by it and no row breaks it (`Plan.isBroken_of_dead`,
`Plan.isBrokenBy_of_dead`), so the search for a row goes through the same tree without it. The same
is true of the order of the constraints and of repetitions, since a constraint only ever takes part
in the question whether any of them is broken.

`Rearranges` says that one list of constraints comes from another by such changes. Two plans that
differ in nothing else give the same replies to every sequence of calls, and come to plans that
differ in nothing else, with their streams at the same place (`answers_of_rearranges`).
-/

namespace TestMatrix

namespace Constraint

/-! ## Constraints without effect -/

/-- The selector that a row has to match for the rule to be broken, if the rule has one. -/
def trigger? : Constraint → Option Selector
  | .exclude selector => some selector
  | .excludeRow _ _ => none
  | .imply condition _ => some condition

/-- What is bound to break a rule matches its trigger. -/
theorem matches_of_isBroken {c : Constraint} {s : Selector} {σ : Assignment}
    (hs : c.trigger? = some s) (h : c.isBroken σ = true) : s.Matches σ := by
  rw [isBroken, beq_iff_eq] at h
  cases c with
  | exclude selector =>
    obtain rfl : selector = s := Option.some.inj hs
    exact (Selector.verdict_eq_some_true_iff selector σ).mp h
  | excludeRow label test => exact absurd hs (by simp [trigger?])
  | imply condition requirement =>
    obtain rfl : condition = s := Option.some.inj hs
    exact ((verdict_imply_eq_some_true_iff condition requirement σ).mp h).1

/-- A rule with a trigger judges a row by its assignment. -/
theorem isBrokenBy_eq_isBroken {c : Constraint} {s : Selector}
    (hs : c.trigger? = some s) (r : Row) : c.isBrokenBy r = c.isBroken r.assignment := by
  cases c with
  | exclude selector => rfl
  | excludeRow label test => exact absurd hs (by simp [trigger?])
  | imply condition requirement => rfl

/-- The trigger of the rule has a condition that no setting of its axis meets. -/
def Dead (axes : List Axis) (c : Constraint) : Prop :=
  ∃ s, c.trigger? = some s ∧ ∃ entry ∈ s.entries, ∀ a ∈ axes, a.name = entry.1 →
    ∀ setting ∈ a.settings, entry.2.accepts setting = false

/-! ## The same constraints -/

/-- One list of rules comes from another by changes of order, by repetitions, and by dead rules that
are put in or taken out. -/
inductive Rearranges (axes : List Axis) : List Constraint → List Constraint → Prop
  | perm {cs cs' : List Constraint} (h : cs.Perm cs') : Rearranges axes cs cs'
  /-- A rule that is there is put in again. -/
  | again {c : Constraint} {cs : List Constraint} (h : c ∈ cs) : Rearranges axes cs (c :: cs)
  /-- A dead rule is put in. -/
  | dead {c : Constraint} (cs : List Constraint) (h : c.Dead axes) : Rearranges axes cs (c :: cs)
  | symm {cs cs' : List Constraint} (h : Rearranges axes cs cs') : Rearranges axes cs' cs
  | trans {cs cs' cs'' : List Constraint} (h : Rearranges axes cs cs')
      (h' : Rearranges axes cs' cs'') : Rearranges axes cs cs''

variable {axes : List Axis} {c : Constraint} {cs cs' : List Constraint}

/-- Then the lists have the same rules, but for dead ones. -/
theorem Rearranges.mem_iff (h : Rearranges axes cs cs') (hc : ¬c.Dead axes) :
    c ∈ cs ↔ c ∈ cs' := by
  induction h with
  | perm h => exact h.mem_iff
  | @again c' cs h =>
    rw [List.mem_cons]
    refine ⟨.inr, fun hmem => hmem.elim (fun heq => ?_) id⟩
    rwa [heq]
  | @dead c' cs h =>
    rw [List.mem_cons]
    refine ⟨.inr, fun hmem => hmem.elim (fun heq => ?_) id⟩
    exact absurd (heq ▸ h) hc
  | symm h ih => exact ih.symm
  | trans h h' ih ih' => exact ih.trans ih'

/-- Where dead rules have no say, it does not matter which of the lists is asked. -/
theorem Rearranges.any_eq (h : Rearranges axes cs cs') {f : Constraint → Bool}
    (hdead : ∀ c, c.Dead axes → f c = false) : cs'.any f = cs.any f := by
  have hlive : ∀ {c}, f c = true → ¬c.Dead axes := by
    intro c hc hd
    rw [hdead c hd] at hc
    exact absurd hc Bool.false_ne_true
  -- A constraint that decides the outcome is live, and those are the same in both lists.
  rw [Bool.eq_iff_iff, List.any_eq_true, List.any_eq_true]
  constructor
  · rintro ⟨c, hc, hfc⟩
    exact ⟨c, (h.mem_iff (hlive hfc)).mpr hc, hfc⟩
  · rintro ⟨c, hc, hfc⟩
    exact ⟨c, (h.mem_iff (hlive hfc)).mp hc, hfc⟩

end Constraint

namespace Plan

variable {p : Plan} {c : Constraint} {cs : List Constraint} {picks : List Nat} {s : Selector}

/-! ## The same search -/

/-- What picks assign to an axis is one of its settings. -/
theorem mem_settings_of_assignment (hp : p.Coherent) (hrange : p.InRange picks) {name : String}
    {setting : Setting} (h : p.assignment picks name = some setting) :
    ∃ a ∈ p.axes, a.name = name ∧ setting ∈ a.settings := by
  obtain ⟨i, a, index, hi, ha, hindex, rfl⟩ := assignment_eq_some_iff.mp h
  obtain ⟨b, hb, hname⟩ := (hp.axisIndex?_eq_some_iff name i).mp hi
  obtain ⟨b', hb', hlt⟩ := hrange i index hindex
  obtain rfl : a = b := Option.some.inj (ha.symm.trans hb)
  obtain rfl : a = b' := Option.some.inj (ha.symm.trans hb')
  exact ⟨a, List.mem_of_getElem? ha, hname, List.mem_of_getElem? (Axis.getElem?_settings hlt)⟩

/-- No picks are doomed by a dead constraint. -/
theorem isBroken_of_dead (hp : p.Coherent) (hrange : p.InRange picks) (h : c.Dead p.axes) :
    c.isBroken (p.assignment picks) = false := by
  obtain ⟨s, hs, entry, hentry, hnone⟩ := h
  rw [← Bool.not_eq_true]
  intro hbroken
  obtain ⟨setting, hsetting, haccepts⟩ :=
    Constraint.matches_of_isBroken hs hbroken entry hentry
  obtain ⟨a, ha, hname, hmem⟩ := mem_settings_of_assignment hp hrange hsetting
  rw [hnone a ha hname setting hmem] at haccepts
  exact absurd haccepts Bool.false_ne_true

/-- No row breaks a dead constraint. -/
theorem isBrokenBy_of_dead (hp : p.Coherent) (htuple : picks ∈ p.tuples) (h : c.Dead p.axes) :
    c.isBrokenBy (p.row picks) = false := by
  obtain ⟨hlength, hrange⟩ := mem_tuples.mp htuple
  have hbroken := isBroken_of_dead hp hrange h
  obtain ⟨s, hs, -⟩ := h
  rw [Constraint.isBrokenBy_eq_isBroken hs, assignment_row hp hlength]
  exact hbroken

/-- The rearranged constraints doom the same picks. -/
theorem isDoomed_of_rearranges (hp : p.Coherent)
    (h : Constraint.Rearranges p.axes p.constraints cs) (hrange : p.InRange picks) :
    { p with constraints := cs }.isDoomed picks = p.isDoomed picks := by
  have hdead : ∀ c : Constraint, c.Dead p.axes → c.isBroken (p.assignment picks) = false :=
    fun _ hd => isBroken_of_dead hp hrange hd
  exact h.any_eq hdead

/-- They turn down the same complete picks. -/
theorem isInvalid_of_rearranges (hp : p.Coherent)
    (h : Constraint.Rearranges p.axes p.constraints cs) (htuple : picks ∈ p.tuples) :
    { p with constraints := cs }.isInvalid picks = p.isInvalid picks := by
  have hdead : ∀ c : Constraint, c.Dead p.axes → c.isBrokenBy (p.row picks) = false :=
    fun _ hd => isBrokenBy_of_dead hp htuple hd
  exact h.any_eq hdead

/-- The settings that go with picks are the same. -/
theorem branches_of_rearranges (hp : p.Coherent)
    (h : Constraint.Rearranges p.axes p.constraints cs) (hrange : p.InRange picks)
    (s : Selector) : { p with constraints := cs }.branches s picks = p.branches s picks := by
  unfold branches
  dsimp only
  cases ha : p.axes[picks.length]? with
  | none => rfl
  | some a =>
    refine List.filter_congr fun index hindex => ?_
    have hnext : p.InRange (picks ++ [index]) :=
      inRange_append_singleton.mpr ⟨hrange, a, ha, List.mem_range.mp hindex⟩
    rw [isDoomed_of_rearranges hp h hnext]

/-- So a search finds the same branches and leaves in both plans. -/
theorem sameTree_of_rearranges (hp : p.Coherent)
    (h : Constraint.Rearranges p.axes p.constraints cs) (s : Selector) :
    (p.problem s).SameTree ({ p with constraints := cs }.problem s) where
  levels_eq := rfl
  branches_eq path hpath := by
    -- On the way down only settings of the axes are picked, as `isBroken_of_dead` asks.
    have hrange : p.InRange path := by
      simpa using inRange_of_leads hpath (inRange_nil p)
    exact branches_of_rearranges hp h hrange s
  leaf_eq tuple htuple := by
    show { p with constraints := cs }.leaf tuple = p.leaf tuple
    rw [leaf, leaf, isInvalid_of_rearranges hp h (mem_tuples_of_isTuple htuple)]
    rfl

/-- Therefore it comes to the same end, with the same draws. -/
theorem search_of_rearranges (hp : p.Coherent)
    (h : Constraint.Rearranges p.axes p.constraints cs) (s : Selector) :
    { p with constraints := cs }.search s = p.search s :=
  Search.retry_congr (sameTree_of_rearranges hp h s) _ _ _ _

/-! ## The same rows -/

/-- Forcing a row does the same under both, and leaves each with its own constraints. -/
theorem force_of_rearranges (hp : p.Coherent)
    (h : Constraint.Rearranges p.axes p.constraints cs) (s : Selector) :
    { p with constraints := cs }.force s =
      ({ (p.force s).1 with constraints := cs }, (p.force s).2) := by
  have hrequire : { p with constraints := cs }.requireAxes ("generate_row " ++ s.text) s =
      p.requireAxes ("generate_row " ++ s.text) s := rfl
  have hcovered : { p with constraints := cs }.isCovered s = p.isCovered s := rfl
  rw [force, search_of_rearranges hp h s, hrequire, hcovered, force]
  cases p.requireAxes ("generate_row " ++ s.text) s with
  | error e => rfl
  | ok u =>
    dsimp only
    split
    · rfl
    · cases (p.search s).ending with
      | found picks => rfl
      | exhausted => rfl
      | outOfBudget => rfl

/-- So does filling the plan. -/
theorem fill_of_rearranges (count : Nat) {p : Plan} (hp : p.Coherent)
    (h : Constraint.Rearranges p.axes p.constraints cs) :
    { p with constraints := cs }.fill count = { p.fill count with constraints := cs } := by
  induction count generalizing p with
  | zero => rfl
  | succ count ih =>
    have hsearch := search_of_rearranges hp h {}
    rcases p.search_found_or_not {} with ⟨picks, hpicks⟩ | hnone
    · rw [fill_of_found count hpicks, fill_of_found count (hsearch ▸ hpicks), hsearch]
      exact ih ((hp.enter picks).of_stream (p.search {}).tally.stream) h
    · rw [fill_of_not_found count hnone, fill_of_not_found count (hsearch ▸ hnone), hsearch]

/-! ## The same replies -/

/-- A request for rows. -/
inductive Call where
  | force (s : Selector)
  | fill (count : Nat)

/-- What is reported of a request. -/
inductive Reply where
  /-- The row that was made, if any, or why there is none. -/
  | forced (row : Except PlanError (Option Row))
  /-- All rows that there are now. -/
  | filled (rows : List Row)

/-- The plan after a request, with what is reported of it. -/
def answer (p : Plan) : Call → Plan × Reply
  | .force s => ((p.force s).1, .forced (p.force s).2)
  | .fill count => (p.fill count, .filled (p.fill count).rows)

/-- The plan after some requests, one after the other, with what is reported of each. -/
def answers : List Call → Plan → Plan × List Reply
  | [], p => (p, [])
  | call :: rest, p =>
    let (q, reply) := p.answer call
    let (q, replies) := answers rest q
    (q, reply :: replies)

theorem answers_cons (p : Plan) (call : Call) (rest : List Call) : p.answers (call :: rest) =
    (((p.answer call).1.answers rest).1, (p.answer call).2 :: ((p.answer call).1.answers rest).2) :=
  rfl

/-- A single call gets the same answer under both. -/
theorem answer_of_rearranges (hp : p.Coherent)
    (h : Constraint.Rearranges p.axes p.constraints cs) (call : Call) :
    { p with constraints := cs }.answer call =
      ({ (p.answer call).1 with constraints := cs }, (p.answer call).2) := by
  cases call with
  | force s => rw [answer, force_of_rearranges hp h s, answer]
  | fill count =>
    rw [answer, fill_of_rearranges count hp h, answer]
    rfl

/-- An answer adds rows and moves the stream. -/
theorem answer_adds (hp : p.Coherent) (call : Call) :
    ∃ added stream, (p.answer call).1 = { p.enterAll added with stream } := by
  cases call with
  | force s =>
    obtain ⟨added, stream, hforce, -⟩ := force_adds hp s
    exact ⟨added, stream, hforce⟩
  | fill count =>
    obtain ⟨added, stream, hfill, -⟩ := fill_adds count hp
    exact ⟨added, stream, hfill⟩

/-- So do all calls, since every answer leaves plans that differ in their constraints only. -/
theorem answers_of_coherent (calls : List Call) {p : Plan} (hp : p.Coherent)
    (h : Constraint.Rearranges p.axes p.constraints cs) :
    { p with constraints := cs }.answers calls =
      ({ (p.answers calls).1 with constraints := cs }, (p.answers calls).2) := by
  induction calls generalizing p with
  | nil => rfl
  | cons call rest ih =>
    obtain ⟨added, stream, hadds⟩ := answer_adds hp call
    -- Neither the axes nor the constraints of the plan are other than before the call.
    have hnext : (p.answer call).1.Coherent ∧
        Constraint.Rearranges (p.answer call).1.axes (p.answer call).1.constraints cs := by
      rw [hadds]
      exact ⟨(hp.enterAll added).of_stream stream, h⟩
    rw [answers_cons, answer_of_rearranges hp h call, answers_cons, ih hnext.1 hnext.2]

/-- Two plans that differ only in the order and the repetition of their constraints, and in dead
ones, reply alike to every sequence of requests, and then still differ in nothing else. -/
theorem answers_of_rearranges (hp : p.Reachable)
    (h : Constraint.Rearranges p.axes p.constraints cs) (calls : List Call) :
    ({ p with constraints := cs }.answers calls).2 = (p.answers calls).2 ∧
      ({ p with constraints := cs }.answers calls).1.stream = (p.answers calls).1.stream ∧
      ({ p with constraints := cs }.answers calls).1 =
        { (p.answers calls).1 with constraints := cs } := by
  rw [answers_of_coherent calls hp.coherent h]
  exact ⟨rfl, rfl, rfl⟩

/-- The rule of the small plan may be repeated before there are rows, and one on a setting that the
plan does not have may be put in front of it. -/
theorem answers_of_rearranges_encryption :
    let tunnel : Constraint := .exclude (.having {} "ssl" "tunnel")
    let bothOff : Constraint := .exclude (Selector.having (.having {} "ssl" "off") "gss" "off")
    let cs := [tunnel, bothOff, bothOff]
    let p := (ofStream (.ofSeed 7)).after (encryptionActions.take 3)
    let q := { p with constraints := cs }
    let calls : List Call := [.force (.having {} "ssl" "off"), .fill 3]
    p.Reachable ∧ Constraint.Rearranges p.axes p.constraints cs ∧
      (q.answers calls).2 = (p.answers calls).2 ∧
      (q.answers calls).1.stream = (p.answers calls).1.stream ∧
      (q.answers calls).1 = { (p.answers calls).1 with constraints := cs } := by
  intro tunnel bothOff cs p q calls
  have hp : p.Reachable := reachable_after _ _
  have hsame : Constraint.Rearranges p.axes p.constraints cs := by
    have hrule : p.constraints = [bothOff] := by with_unfolding_all rfl
    have hdead : tunnel.Dead p.axes :=
      ⟨_, rfl, _, List.mem_singleton.mpr rfl, by decide +kernel⟩
    rw [hrule]
    exact .trans (.again (List.mem_singleton.mpr rfl)) (.dead _ hdead)
  exact ⟨hp, hsame, answers_of_rearranges hp hsame calls⟩

end Plan

end TestMatrix

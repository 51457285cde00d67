import TestMatrix.Proofs.Plan.Added
import TestMatrix.Proofs.Plan.Refusal

/-!
# The making of a plan

An `Action` is anything that can be done with a plan, and `after` is the plan that some actions
leave, of which any may have failed. `Reachable` plans are those that come from a plan without axes
in this way, whatever stream it draws from.

`Change` says once what an action can do to a coherent plan (`change_act`), and reachable plans are
coherent (`Reachable.coherent`). All else that is proved of reachable plans starts from there.
-/

namespace TestMatrix.Plan

/-- An operation on a plan. -/
inductive Action where
  | insertAxis (a : Axis)
  | constrain (c : Constraint)
  | nameBy (names : List String)
  | setStrict (strict : Bool)
  | setBudget (budget : Budget)
  /-- Draws from the stream for something else, and may leave it in any state. -/
  | setStream (stream : RandomStream)
  | force (s : Selector)
  | fill (count : Nat)

/-- What the rows that the operation makes have to match. -/
def Action.selector : Action → Selector
  | .force s => s
  | _ => {}

/-- The plan that an operation leaves, whether it succeeds or fails. -/
def act (p : Plan) : Action → Plan
  | .insertAxis a => (p.insertAxis a).1
  | .constrain c => (p.constrain c).1
  | .nameBy names => (p.nameBy names).1
  | .setStrict strict => { p with strict }
  | .setBudget budget => { p with budget }
  | .setStream stream => { p with stream }
  | .force s => (p.force s).1
  | .fill count => p.fill count

/-- The plan after some operations, one after the other. -/
def after (p : Plan) (actions : List Action) : Plan := actions.foldl act p

/-- A plan without axes that draws from the given stream. -/
def ofStream (stream : RandomStream) : Plan := { stream }

/-- The plan comes from one without axes by some operations. -/
def Reachable (p : Plan) : Prop := ∃ stream actions, p = (ofStream stream).after actions

theorem after_concat (p : Plan) (actions : List Action) (action : Action) :
    p.after (actions ++ [action]) = (p.after actions).act action := by
  rw [after, List.foldl_append]
  rfl

/-- Operations on a plan without axes lead to reachable plans. -/
theorem reachable_after (stream : RandomStream) (actions : List Action) :
    ((ofStream stream).after actions).Reachable :=
  ⟨stream, actions, rfl⟩

/-- One operation more leads to a reachable plan again. -/
theorem Reachable.act {p : Plan} (h : p.Reachable) (action : Action) :
    (p.act action).Reachable := by
  obtain ⟨stream, actions, rfl⟩ := h
  exact ⟨stream, actions ++ [action], (after_concat _ actions action).symm⟩

variable {p q : Plan} {s : Selector}

/-! ## What an operation changes -/

/-- What a plan may become by an operation whose rows have to match the selector. -/
inductive Change (p : Plan) (s : Selector) : Plan → Prop
  /-- A sound axis with a new name is added while there are no rows. -/
  | axis {a : Axis} (hcheck : a.check = .ok ()) (hname : p.axisIndex? a.name = none)
      (hentries : p.entries = []) : Change p s
        { p with axes := p.axes ++ [a], positions := p.positions.put a.name p.axes.length }
  | constraint {c : Constraint} (hknown : ∀ s ∈ c.selectors, p.Knows s) :
      Change p s { p with constraints := p.constraints ++ [c] }
  | pattern {pattern : List Nat} (hpattern : ∀ i ∈ pattern, ∃ name, p.axisIndex? name = some i) :
      Change p s { p with namePattern := some pattern }
  /-- Neither the axes nor what is said of them changes. -/
  | settings (strict : Bool) (budget : Budget) (stream : RandomStream) :
      Change p s { p with strict, budget, stream }
  | rows {added : List (List Nat)} (hadds : p.Adds s added) (stream : RandomStream) :
      Change p s { p.enterAll added with stream }

/-- An operation that is refused leaves the plan as it was, which is the least of all changes. -/
theorem RefusesUnless.change {condition : Prop} {x : Plan × Except ConfigError Unit}
    (h : p.RefusesUnless condition q x) (hq : condition → p.Change s q) : p.Change s x.1 :=
  h.induct (.settings p.strict p.budget p.stream) hq

/-- Operations change a plan in these ways only. -/
theorem change_act (hp : p.Coherent) (action : Action) :
    p.Change action.selector (p.act action) := by
  cases action with
  | insertAxis a =>
    exact (insertAxis_refusesUnless p a).change fun ⟨hcheck, hname, hentries⟩ =>
      .axis hcheck hname hentries
  | constrain c => exact (constrain_refusesUnless p c).change fun h => .constraint h.2
  | nameBy names =>
    -- A place comes into the pattern by the name of an axis only.
    refine (nameBy_refusesUnless p names).change fun _ => .pattern fun i hi => ?_
    obtain ⟨name, -, hname⟩ := List.mem_filterMap.mp hi
    exact ⟨name, hname⟩
  | setStrict strict => exact .settings strict p.budget p.stream
  | setBudget budget => exact .settings p.strict budget p.stream
  | setStream stream => exact .settings p.strict p.budget stream
  | force s =>
    obtain ⟨added, stream, hforce, hadds⟩ := force_adds hp s
    rw [act, hforce]
    exact .rows hadds stream
  | fill count =>
    obtain ⟨added, stream, hfill, hadds⟩ := fill_adds count hp
    rw [act, hfill]
    exact .rows hadds stream

/-! ## Reachable plans -/

/-- A plan without axes has nothing that could disagree. -/
theorem coherent_ofStream (stream : RandomStream) : (ofStream stream).Coherent where
  axisIndex?_eq_some_iff := by simp [ofStream, axisIndex?, Dictionary.valueOf?]
  mem_seen := by simp [ofStream]

/-- A new axis is found under its name, and the others are found as before. -/
theorem Coherent.concat_axis (hp : p.Coherent) {a : Axis} (hname : p.axisIndex? a.name = none) :
    ({ p with
      axes := p.axes ++ [a]
      positions := p.positions.put a.name p.axes.length } : Plan).Coherent := by
  refine ⟨fun name i => ?_, hp.mem_seen⟩
  have hfound : (∃ b, (p.axes ++ [a])[i]? = some b ∧ b.name = name) ↔
      p.axisIndex? name = some i ∨ i = p.axes.length ∧ a.name = name := by
    rw [hp.axisIndex?_eq_some_iff]
    simp [getElem?_concat_eq_some_iff, or_and_right, exists_or, and_assoc]
  rw [hfound]
  show Dictionary.valueOf? (p.positions.put a.name p.axes.length) name = some i ↔ _
  -- The new name was not there before, and the others are not touched.
  by_cases heq : name = a.name
  · subst heq
    rw [Dictionary.valueOf?_put_self, hname]
    simp [eq_comm]
  · rw [Dictionary.valueOf?_put_of_ne heq]
    simp [axisIndex?, Ne.symm heq]

/-- A coherent plan stays so. -/
theorem Change.coherent (h : p.Change s q) (hp : p.Coherent) : q.Coherent := by
  cases h with
  | axis hcheck hname hentries => exact hp.concat_axis hname
  | constraint hknown => exact ⟨hp.axisIndex?_eq_some_iff, hp.mem_seen⟩
  | pattern hpattern => exact ⟨hp.axisIndex?_eq_some_iff, hp.mem_seen⟩
  | settings strict budget stream => exact ⟨hp.axisIndex?_eq_some_iff, hp.mem_seen⟩
  | rows hadds stream => exact (hp.enterAll _).of_stream stream

/-- What holds at the start and is kept by every change holds of every reachable plan. -/
theorem Reachable.induct {Inv : Plan → Prop} (hstart : ∀ stream, Inv (ofStream stream))
    (hchange : ∀ {p q s}, p.Coherent → p.Change s q → Inv p → Inv q) (h : p.Reachable) :
    p.Coherent ∧ Inv p := by
  obtain ⟨stream, actions, rfl⟩ := h
  have hinit : (ofStream stream).Coherent ∧ Inv (ofStream stream) :=
    ⟨coherent_ofStream stream, hstart stream⟩
  refine List.foldlRecOn (motive := fun p => p.Coherent ∧ Inv p) actions Plan.act hinit ?_
  rintro p ⟨hp, hinv⟩ action -
  exact ⟨(change_act hp action).coherent hp, hchange hp (change_act hp action) hinv⟩

/-- The records of a reachable plan agree. -/
theorem Reachable.coherent (h : p.Reachable) : p.Coherent := by
  have htrue : p.Coherent ∧ True := h.induct (fun _ => trivial) fun _ _ _ => trivial
  exact htrue.1

/-- In the course of operations, each of them makes a change. -/
theorem change_after (stream : RandomStream) (actions : List Action) (action : Action) :
    ((ofStream stream).after actions).Change action.selector
      ((ofStream stream).after (actions ++ [action])) := by
  rw [after_concat]
  exact change_act (reachable_after stream actions).coherent action

/-! ## A small plan -/

/-- An axis with two settings. -/
def onOff (name : String) : Axis := { name, settings := [{ token := "on" }, { token := "off" }] }

/-- Two axes that must not both be off, and two rows. -/
def encryptionActions : List Action :=
  [.insertAxis (onOff "ssl"), .insertAxis (onOff "gss"),
    .constrain (.exclude (Selector.having (.having {} "ssl" "off") "gss" "off")), .fill 2]

/-- The plan that these operations make. -/
def encryption : Plan := (ofStream (.ofSeed 7)).after encryptionActions

theorem reachable_encryption : encryption.Reachable := reachable_after _ _

end TestMatrix.Plan

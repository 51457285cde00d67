import Mathlib.Data.List.Forall2
import TestMatrix.Proofs.Plan.Forcing
import TestMatrix.Run

/-!
# The plan that a profile lays down

A profile is laid down step by step, and any step may be refused. None is: its axes are sound and
differ in name, and the name pattern and the constraints refer to these axes only. So the plan of a
request is the blueprint of its profile (`Profile.blueprint`) with the settings of the request,
whatever these are (`Request.plan_eq`).
-/

namespace TestMatrix

variable {p : Plan} {axes : List Axis}

namespace Plan

/-! ## Adding axes -/

/-- The positions of the axes of the plan and of those that follow them. -/
def positionsWith (p : Plan) (axes : List Axis) : Dictionary Nat :=
  (axes.zipIdx p.axes.length).foldl (fun d entry => d.put entry.1.name entry.2) p.positions

/-- The plan with further axes. -/
def withAxes (p : Plan) (axes : List Axis) : Plan :=
  { p with axes := p.axes ++ axes, positions := p.positionsWith axes }

theorem withAxes_nil (p : Plan) : p.withAxes [] = p := by
  rw [withAxes, List.append_nil]
  rfl

theorem withAxes_cons (p : Plan) (a : Axis) (axes : List Axis) :
    p.withAxes (a :: axes) = (p.withAxes [a]).withAxes axes := by
  simp [withAxes, positionsWith]

/-- A sound axis with a name of its own is let through as long as there are no rows. -/
theorem insertAxis_eq_ok {a : Axis} (hp : p.Coherent) (hentries : p.entries = [])
    (hcheck : a.check = .ok ()) (hname : a.name ∉ p.axes.map (·.name)) :
    p.insertAxis a = (p.withAxes [a], .ok ()) := by
  refine (insertAxis_refusesUnless p a).eq_ok_iff.mpr ⟨⟨hcheck, ?_, hentries⟩, rfl⟩
  refine Option.eq_none_iff_forall_ne_some.mpr fun i hi => hname ?_
  obtain ⟨b, hb, hsame⟩ := (hp.axisIndex?_eq_some_iff a.name i).mp hi
  exact List.mem_map.mpr ⟨b, List.mem_of_getElem? hb, hsame⟩

/-- Sound axes that differ in name are all let through. -/
theorem takeSteps_insertAxis (hp : p.Coherent) (hentries : p.entries = [])
    (hcheck : ∀ a ∈ axes, a.check = .ok ())
    (hnames : ((p.axes ++ axes).map (·.name)).Nodup)
    (rest : List (Plan → Plan × Except ConfigError Unit)) :
    Profile.takeSteps (axes.map (fun a plan => plan.insertAxis a) ++ rest) p =
        Profile.takeSteps rest (p.withAxes axes) ∧ (p.withAxes axes).Coherent := by
  induction axes generalizing p with
  | nil => exact ⟨by rw [withAxes_nil]; rfl, by rwa [withAxes_nil]⟩
  | cons a axes ih =>
    rw [List.forall_mem_cons] at hcheck
    have hname : a.name ∉ p.axes.map (·.name) := by
      rw [List.map_append, List.nodup_append'] at hnames
      exact fun hmem => hnames.2.2 hmem List.mem_cons_self
    have hinsert := insertAxis_eq_ok hp hentries hcheck.1 hname
    have hnext : (p.withAxes [a]).Coherent :=
      hp.concat_axis ((insertAxis_refusesUnless p a).eq_ok_iff.mp hinsert).1.2.1
    -- No row is made in between, so the next axis may still be added.
    rw [withAxes_cons, List.map_cons, List.cons_append, Profile.takeSteps, hinsert]
    refine ih hnext hentries hcheck.2 ?_
    rwa [withAxes, List.append_assoc]

/-! ## Adding constraints -/

/-- Constraints on the axes of the plan are all let through, if every exclusion names an axis. -/
theorem takeSteps_constrain {constraints : List Constraint}
    (hscope : ∀ c ∈ constraints, requireScope c = .ok ())
    (hknown : ∀ c ∈ constraints, ∀ s ∈ c.selectors, p.Knows s) :
    Profile.takeSteps (constraints.map fun c plan => plan.constrain c) p =
      ({ p with constraints := p.constraints ++ constraints }, .ok ()) := by
  induction constraints generalizing p with
  | nil => rw [List.append_nil]; rfl
  | cons c constraints ih =>
    rw [List.forall_mem_cons] at hscope hknown
    have hconstrain : p.constrain c = ({ p with constraints := p.constraints ++ [c] }, .ok ()) :=
      (constrain_refusesUnless p c).eq_ok_iff.mpr ⟨⟨hscope.1, hknown.1⟩, rfl⟩
    rw [List.map_cons, Profile.takeSteps, hconstrain]
    have hrest := ih (p := { p with constraints := p.constraints ++ [c] }) hscope.2 hknown.2
    rwa [List.append_assoc] at hrest

/-! ## Laying down a matrix -/

/-- The plan with further axes, the name pattern that the names make up, and further constraints. -/
def lay (p : Plan) (axes : List Axis) (names : List String) (constraints : List Constraint) :
    Plan :=
  { p.withAxes axes with
    namePattern := some (names.filterMap (p.withAxes axes).axisIndex?)
    constraints := p.constraints ++ constraints }

/-- The steps of a matrix are all taken if the axes are sound and differ in name, and if nothing
refers to other axes. What is laid down does not depend on the settings of the plan. -/
theorem takeSteps_lay {names : List String} {constraints : List Constraint}
    (hp : p.Coherent) (hentries : p.entries = []) (hcheck : ∀ a ∈ axes, a.check = .ok ())
    (hdistinct : ((p.axes ++ axes).map (·.name)).Nodup)
    (hnames : ∀ name ∈ names, ((p.lay axes names constraints).axisIndex? name).isSome = true)
    (hscope : ∀ c ∈ constraints, requireScope c = .ok ())
    (hknown : ∀ c ∈ constraints, ∀ s ∈ c.selectors, (p.lay axes names constraints).Knows s)
    (strict : Bool) (budget : Budget) (stream : RandomStream) :
    Profile.takeSteps (axes.map (fun a plan => plan.insertAxis a) ++
        [fun plan => plan.nameBy names] ++ constraints.map (fun c plan => plan.constrain c))
        { p with strict, budget, stream } =
      ({ p.lay axes names constraints with strict, budget, stream }, .ok ()) := by
  let q : Plan := { p with strict, budget, stream }
  have hq : q.Coherent := ⟨hp.axisIndex?_eq_some_iff, hp.mem_seen⟩
  have hnamed : (q.withAxes axes).nameBy names = ({ q.withAxes axes with
      namePattern := some (names.filterMap (q.withAxes axes).axisIndex?) }, .ok ()) :=
    (nameBy_refusesUnless _ names).eq_ok_iff.mpr ⟨hnames, rfl⟩
  rw [List.append_assoc, (takeSteps_insertAxis hq hentries hcheck hdistinct _).1,
    List.singleton_append, Profile.takeSteps, hnamed]
  exact takeSteps_constrain hscope hknown

end Plan

/-! ## The two profiles -/

namespace Profile

/-- The plan that the profile lays down, before it is given a stream and settings. -/
def blueprint (profile : Profile) : Plan :=
  (Plan.ofSeed 0).lay profile.axes nameAxes profile.constraints

/-- The axes of a profile are sound. -/
theorem check_axes (profile : Profile) : ∀ a ∈ profile.axes, a.check = .ok () := by
  have hcheck : ∀ a ∈ profile.axes, a.check.toOption = some () := by
    obtain ⟨_ | _⟩ := profile <;> decide +kernel
  exact fun a ha => eq_ok_of_toOption (hcheck a ha)

/-- They differ in name. -/
theorem nodup_axes (profile : Profile) : (profile.axes.map (·.name)).Nodup := by
  obtain ⟨_ | _⟩ := profile <;> decide +kernel

/-- The name pattern refers to axes of the profile. -/
theorem knows_nameAxes (profile : Profile) :
    ∀ name ∈ nameAxes, (profile.blueprint.axisIndex? name).isSome = true := by
  obtain ⟨_ | _⟩ := profile <;> decide +kernel

/-- The constraints refer to axes of the profile. -/
theorem knows_constraints (profile : Profile) :
    ∀ c ∈ profile.constraints, ∀ s ∈ c.selectors, profile.blueprint.Knows s := by
  obtain ⟨_ | _⟩ := profile <;> decide +kernel

/-- No constraint of a profile excludes everything. -/
theorem requireScope_constraints (profile : Profile) :
    ∀ c ∈ profile.constraints, Plan.requireScope c = .ok () := by
  have hscope : ∀ c ∈ profile.constraints, (Plan.requireScope c).toOption = some () := by
    obtain ⟨_ | _⟩ := profile <;> decide +kernel
  exact fun c hc => eq_ok_of_toOption (hscope c hc)

end Profile

/-- The plan of a request is the blueprint of its profile, whatever its settings are. -/
theorem Request.plan_eq (r : Request) : r.plan =
    ({ r.profile.blueprint with
        strict := r.strict, budget := r.budget, stream := .ofSeed r.seed }, .ok ()) := by
  have hempty : (Plan.ofSeed 0).Coherent := Plan.coherent_ofStream _
  rw [plan, Profile.layOut, Profile.steps]
  exact Plan.takeSteps_lay hempty rfl r.profile.check_axes r.profile.nodup_axes
    r.profile.knows_nameAxes r.profile.requireScope_constraints r.profile.knows_constraints
    r.strict r.budget (.ofSeed r.seed)

end TestMatrix

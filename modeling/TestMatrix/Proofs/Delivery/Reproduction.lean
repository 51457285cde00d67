import Mathlib.Data.List.Forall2
import TestMatrix.Proofs.Delivery.Agreement
import TestMatrix.Proofs.Request.Sufficiency
import TestMatrix.Proofs.Text.Numeral

/-!
# Runs that are repeated

A run reports its seed as the setting of a variable. The digits in it are read as the seed again,
and an explicit seed wins over all else, so an environment with this setting has the same seed
whatever the other variables say (`determine_of_lookup`).

A run in such an environment is prepared from the same request, so it delivers the same matrix. Only
the summary differs, because it says where the seed comes from. But whether texts can be delivered
does not depend on what they are, as long as the standard output gets the same (`carryOut_alike`),
and therefore the second run succeeds as the first one did (`reported_seed_reproduces`).
-/

namespace TestMatrix

/-! ## Deliveries that succeed alike -/

/-- The steps deliver to the same place. What is printed is the same, because the standard output
may be limited. -/
inductive Step.Alike : Step → Step → Prop
  | replaceFile (path text text' : String) :
    Alike (.replaceFile path text) (.replaceFile path text')
  | appendOutput (text text' : String) : Alike (.appendOutput text) (.appendOutput text')
  | appendSummary (text text' : String) : Alike (.appendSummary text) (.appendSummary text')
  | print (text : String) : Alike (.print text) (.print text)

/-- The hosts have the same directories, their sinks lead to the same files, and their standard
outputs are the same. -/
structure Host.Alike (h k : Host) : Prop where
  sameDirectories : h.files.SameDirectories k.files
  output_path? : k.output.path? = h.output.path?
  summary_path? : k.summary.path? = h.summary.path?
  stdout_eq : k.stdout = h.stdout

variable {step step' : Step} {steps steps' : List Step} {h h' k : Host}

/-- If a text can be added to a sink, then any text can be added to a sink that leads to the same
file. -/
theorem Sink.exists_append {s s' t : Sink} {fs fs' gs : Files} {text : String}
    (hsame : fs.SameDirectories gs) (hpath : t.path? = s.path?)
    (happend : s.append fs text = .ok (s', fs')) (text' : String) :
    ∃ t' gs', t.append gs text' = .ok (t', gs') ∧ t'.path? = s'.path? ∧
      fs'.SameDirectories gs' := by
  -- Whether a text can be added depends on the path and the directories only.
  have hlocate := exists_append_iff.mp ⟨s', fs', happend⟩
  have hother : ∃ t' gs', t.append gs text' = .ok (t', gs') := by
    rw [exists_append_iff, hpath]
    intro path hpath
    obtain ⟨location, hlocate⟩ := hlocate path hpath
    exact ⟨location, (Files.locate_eq_ok_iff hsame).mpr hlocate⟩
  obtain ⟨t', gs', hother⟩ := hother
  have hstores := stores_append happend
  have hstores' := stores_append hother
  refine ⟨t', gs', hother, ?_, ?_⟩
  · rw [hstores'.path?_eq, hpath, hstores.path?_eq]
  · exact hstores.sameDirectories.symm.trans (hsame.trans hstores'.sameDirectories)

/-- Of two steps that are alike, on hosts that are alike, the second succeeds if the first does. -/
theorem Host.Alike.take (halike : h.Alike k) (hsteps : step.Alike step')
    (htake : step.take h = (h', .ok ())) : ∃ k', step'.take k = (k', .ok ()) ∧ h'.Alike k' := by
  cases hsteps with
  | replaceFile path text text' =>
    rw [Step.take] at htake ⊢
    cases hreplace : h.files.replace path text with
    | error e => simp [hreplace] at htake
    | ok fs =>
      -- The path was followed there, and directories are all that is looked at on the way.
      obtain ⟨location, hlocate, -⟩ := Files.writes_of_replace hreplace
      have hother : k.files.replace path text' = .ok (k.files.put location (.file text')) := by
        rw [Files.replace, (Files.locate_eq_ok_iff halike.sameDirectories).mpr hlocate]
      have hsame := (Files.writes_of_replace hreplace).sameDirectories.symm.trans
        (halike.sameDirectories.trans (Files.writes_of_replace hother).sameDirectories)
      rw [hreplace] at htake
      rw [hother]
      obtain ⟨rfl, -⟩ := Prod.mk.inj htake
      exact ⟨_, rfl, hsame, halike.output_path?, halike.summary_path?, halike.stdout_eq⟩
  | appendOutput text text' =>
    rw [take_appendOutput] at htake ⊢
    cases happend : h.output.append h.files text with
    | error e => simp [happend] at htake
    | ok next =>
      obtain ⟨output, files⟩ := next
      obtain ⟨output', files', happend', hpath, hsame⟩ :=
        Sink.exists_append halike.sameDirectories halike.output_path? happend text'
      rw [happend] at htake
      rw [happend']
      obtain ⟨rfl, -⟩ := Prod.mk.inj htake
      exact ⟨_, rfl, hsame, hpath, halike.summary_path?, halike.stdout_eq⟩
  | appendSummary text text' =>
    rw [take_appendSummary] at htake ⊢
    cases happend : h.summary.append h.files text with
    | error e => simp [happend] at htake
    | ok next =>
      obtain ⟨summary, files⟩ := next
      obtain ⟨summary', files', happend', hpath, hsame⟩ :=
        Sink.exists_append halike.sameDirectories halike.summary_path? happend text'
      rw [happend] at htake
      rw [happend']
      obtain ⟨rfl, -⟩ := Prod.mk.inj htake
      exact ⟨_, rfl, hsame, halike.output_path?, hpath, halike.stdout_eq⟩
  | print text =>
    rw [Step.take, Host.print] at htake ⊢
    rw [halike.stdout_eq]
    generalize h.stdout.write text = written at htake ⊢
    obtain ⟨stdout, done⟩ := written
    obtain ⟨rfl, hdone⟩ := Prod.mk.inj htake
    exact ⟨_, Prod.ext rfl hdone, halike.sameDirectories, halike.output_path?,
      halike.summary_path?, rfl⟩

/-- So do all steps of a delivery. -/
theorem Host.Alike.carryOut (halike : h.Alike k) (hsteps : List.Forall₂ Step.Alike steps steps')
    (hcarry : carryOut steps h = (h', .ok ())) :
    ∃ k', TestMatrix.carryOut steps' k = (k', .ok ()) ∧ h'.Alike k' := by
  induction hsteps generalizing h k with
  | nil =>
    obtain ⟨rfl, -⟩ := Prod.mk.inj hcarry
    exact ⟨k, rfl, halike⟩
  | @cons step step' steps steps' hstep _ ih =>
    rw [TestMatrix.carryOut] at hcarry ⊢
    rcases htake : step.take h with ⟨mid, e | done⟩
    -- A step that fails is no part of a delivery that succeeds.
    · simp [htake] at hcarry
    · rw [htake] at hcarry
      obtain ⟨mid', htake', hmid⟩ := halike.take hstep htake
      rw [htake']
      exact ih hmid hcarry

/-! ## Seeds -/

/-- A variable has a text as its value, and all others are as they were. -/
structure Variables.Sets (vars : Variables) (name text : String) (again : Variables) : Prop where
  lookup_self : again.lookup name = some (.text text)
  lookup_of_ne : ∀ other ≠ name, again.lookup other = vars.lookup other

namespace Seed

/-- What a seed is reported as: the text after the equals sign of its setting. -/
def reported (s : Seed) : String :=
  String.ofList ((s.asVariable.toList.dropWhile (· != '=')).drop 1)

/-- The seed is reported by its value. -/
theorem reported_eq (s : Seed) : s.reported = s.valueText := by
  have hsetting : s.asVariable.toList = "RNG_SEED".toList ++ '=' :: s.valueText.toList := by
    rw [asVariable, String.toList_append]
    rfl
  have hname : "RNG_SEED".toList.all (· != '=') = true := by decide
  rw [reported, hsetting, List.dropWhile_append_of_pos (List.all_eq_true.mp hname)]
  simp

/-- The digits of a seed are read as this seed. -/
theorem seedOfText_valueText (s : Seed) : seedOfText s.valueText = s.value := by
  rw [seedOfText, valueText, Text.trim_toDigits, String.toList_ofList,
    Text.readWord_toDigits s.value.toNat_lt]
  dsimp only
  rw [UInt64.ofNat_toNat]

/-- An environment with the reported setting has this seed, unless another one is asked for. -/
theorem determine_of_lookup {s : Seed} {again : Variables}
    (hagain : again.lookup "RNG_SEED" = some (.text s.reported)) {explicit : Option String}
    (hblank : ∀ text ∈ explicit, ∀ c ∈ text.toList, Text.isBlank c = true) (fresh : UInt64) :
    determine explicit again fresh = ⟨s.value, .explicit⟩ := by
  have hexplicit : explicit.bind Text.filled? = none := by
    cases explicit with
    | none => rfl
    | some text => rw [Option.bind_some, Text.filled?_eq_none (hblank text rfl)]
  have hseed : again.seedText? = some s.valueText := by
    rw [Variables.seedText?, Variables.filled?, Variables.text?, hagain, reported_eq, valueText,
      Option.bind_some, VariableValue.text?, Option.bind_some, Text.filled?_toDigits]
  rw [determine, hexplicit, hseed, Option.none_or]
  dsimp only
  rw [s.seedOfText_valueText]

end Seed

/-! ## Runs -/

variable {o : Instructions} {vars again : Variables} {s : Seed} {fresh fresh' : UInt64}
  {report : Report}

/-- Setting one variable does not fill or empty another. -/
theorem Variables.Sets.filled?_eq {name text other : String} (hsets : vars.Sets name text again)
    (hne : other ≠ name) : again.filled? other = vars.filled? other := by
  rw [filled?, filled?, text?, text?, hsets.lookup_of_ne other hne]

/-- Where the seed comes from has no part in what is made of it, and no part of it is read from the
variable that holds the seed. -/
theorem Instructions.request_of_sets {text : String} (hsets : vars.Sets "RNG_SEED" text again)
    {s' : Seed} (hvalue : s'.value = s.value) :
    { o with seed := none }.request again s' = o.request vars s := by
  have hjobs : again.jobs? = vars.jobs? := by
    rw [Variables.jobs?, Variables.jobs?, hsets.filled?_eq (by decide)]
  have hrepository : again.repository? = vars.repository? := hsets.filled?_eq (by decide)
  simp only [request, jobsIn, hjobs, hrepository, hvalue]

/-- Steps that differ in the seed that they report are alike. -/
theorem Instructions.alike_stepsFor (o : Instructions) (s s' : Seed) (d : Document)
    (block : String) :
    List.Forall₂ Step.Alike (o.stepsFor s d block)
      ({ o with seed := none }.stepsFor s' d block) := by
  have hrest := List.Forall₂.cons (Step.Alike.appendOutput block block)
    (.cons (Step.Alike.appendSummary (summaryText s d) (summaryText s' d))
      (.cons (Step.Alike.print (o.printed d ++ "\n")) .nil))
  rw [stepsFor, stepsFor]
  cases o.exportPath with
  | none => exact hrest
  | some path => exact .cons (.replaceFile path d.pretty d.pretty) hrest

/-- The variable that holds the seed names no file. -/
theorem Host.ofVariables_of_sets {text : String} (hsets : vars.Sets "RNG_SEED" text again)
    (files : Files) :
    Host.ofVariables again files = { Host.ofVariables vars files with vars := again } := by
  have houtput : again.outputPath? = vars.outputPath? := by
    rw [Variables.outputPath?, Variables.outputPath?, Variables.path?, Variables.path?,
      hsets.lookup_of_ne _ (by decide)]
  have hsummary : again.summaryPath? = vars.summaryPath? := by
    rw [Variables.summaryPath?, Variables.summaryPath?, Variables.path?, Variables.path?,
      hsets.lookup_of_ne _ (by decide)]
  rw [ofVariables, ofVariables, houtput, hsummary]

/-- The seed that a run reports reproduces the run, wherever it came from. In an environment where
the variable for the seed is set to what is reported, it is the explicit seed of every run that asks
for none, or for a blank one, whatever the other variables are. If the other variables are the same,
then a run that succeeded can be repeated without asking for a seed: it succeeds again with the same
report. Where texts go in such an environment is not changed by the setting either. -/
theorem reported_seed_reproduces (explicit : Option String) (vars : Variables) (fresh : UInt64) :
    let s := Seed.determine explicit vars fresh
    (∀ again : Variables, again.lookup "RNG_SEED" = some (.text s.reported) →
      ∀ explicit', (∀ text ∈ explicit', ∀ c ∈ text.toList, Text.isBlank c = true) →
        ∀ fresh', Seed.determine explicit' again fresh' = ⟨s.value, .explicit⟩) ∧
    ∀ again : Variables, vars.Sets "RNG_SEED" s.reported again →
      (∀ (o : Instructions) (h h' : Host) (report : Report), o.seed = explicit → h.vars = vars →
        o.follow h fresh = (h', .ok report) → ∀ fresh', ∃ h'',
          { o with seed := none }.follow { h with vars := again } fresh' = (h'', .ok report)) ∧
      ∀ files, Host.ofVariables again files =
        { Host.ofVariables vars files with vars := again } := by
  intro s
  refine ⟨fun again hagain explicit' hblank fresh' => Seed.determine_of_lookup hagain hblank fresh',
    fun again hsets => ⟨?_, Host.ofVariables_of_sets hsets⟩⟩
  rintro o h h' report rfl rfl hfollow fresh'
  obtain ⟨shipment, hprepare, hcarried, rfl⟩ := follow_eq_ok_iff.mp hfollow
  obtain ⟨request, report, hrequest, hreport, rfl⟩ := prepare_eq_ok_iff.mp hprepare
  -- The second run reads the seed that was reported, so it makes the same matrix.
  have hseed : Seed.determine none again fresh' = ⟨s.value, .explicit⟩ :=
    Seed.determine_of_lookup hsets.lookup_self (by simp) fresh'
  have hrequest' : { o with seed := none }.request again (Seed.determine none again fresh') =
      .ok request := by
    rw [Instructions.request_of_sets hsets (congrArg Seed.value hseed)]
    exact hrequest
  have hprepare' := prepare_eq_ok_iff.mpr ⟨request, report, hrequest', hreport, rfl⟩
  -- The two hosts differ in a variable only, which no step looks at.
  have halike : h.Alike { h with vars := again } := ⟨fun _ => Iff.rfl, rfl, rfl, rfl⟩
  obtain ⟨h'', hcarried', -⟩ := halike.carryOut (o.alike_stepsFor _ _ _ _) hcarried
  exact ⟨h'', follow_eq_ok_iff.mpr ⟨_, hprepare', hcarried', rfl⟩⟩

/-- A variable in front of the others is the one that counts. -/
theorem Variables.sets_cons (vars : Variables) (name text : String) :
    vars.Sets name text ((name, .text text) :: vars) where
  lookup_self := List.lookup_cons_self
  lookup_of_ne other hne := by rw [List.lookup_cons, beq_false_of_ne hne]

/-- The run of a pull request, with budget enough, is repeated outside of it with a blank seed. -/
theorem reported_seed_reproduces_pullRequest :
    let vars : Variables :=
      [("GITHUB_REF", .text "refs/pull/42/merge"), ("MATRIX_JOBS", .text " 3\n")]
    let o : Instructions := { budget := ⟨1, 42988566⟩ }
    let s := Seed.determine none vars 7
    let again := ("RNG_SEED", VariableValue.text s.reported) :: vars
    s.origin = .pullRequest "42" ∧ s.reported = "17661420568835545970" ∧
      Seed.determine (some " ") again 8 = ⟨s.value, .explicit⟩ ∧
      ∃ h' h'' report, o.follow (Host.ofMemory vars) 7 = (h', .ok report) ∧
        o.follow (Host.ofMemory again) 8 = (h'', .ok report) := by
  intro vars o s again
  have hsets : vars.Sets "RNG_SEED" s.reported again := vars.sets_cons _ _
  have hreproduces := reported_seed_reproduces none vars 7
  have horigin : s.origin = .pullRequest "42" ∧ s.reported = "17661420568835545970" := by
    decide +kernel
  have hblank : " ".toList.all Text.isBlank = true := by decide +kernel
  refine ⟨horigin.1, horigin.2, hreproduces.1 again hsets.lookup_self (some " ") ?_ 8, ?_⟩
  · intro text htext
    obtain rfl := Option.mem_some_iff.mp htext
    exact List.all_eq_true.mp hblank
  let r : Request := { seed := s.value, jobs := 3, budget := ⟨1, 42988566⟩ }
  obtain ⟨report, hreport⟩ := r.exists_report (by decide +kernel)
  have hjobs : vars.jobs? = .ok (some 3) := eq_ok_of_toOption (by decide +kernel)
  have hrepository : vars.repository? = none := by decide +kernel
  have hrequest : o.request vars s = .ok r := by
    simp only [Instructions.request, Instructions.jobsIn, o, hjobs, hrepository]
    rfl
  have hprepare := prepare_eq_ok_iff.mpr ⟨r, report, hrequest, hreport, rfl⟩
  have hfollow : ∃ h', o.follow (Host.ofMemory vars) 7 = (h', .ok report) :=
    ⟨_, follow_eq_ok_iff.mpr ⟨_, hprepare, rfl, rfl⟩⟩
  obtain ⟨h', hfollow⟩ := hfollow
  obtain ⟨h'', hfollow'⟩ := (hreproduces.2 again hsets).1 o _ h' report rfl rfl hfollow 8
  exact ⟨h', h'', report, hfollow, hfollow'⟩

end TestMatrix

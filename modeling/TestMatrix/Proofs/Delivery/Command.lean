import TestMatrix.Proofs.Delivery.Reproduction
import TestMatrix.Proofs.Request.Fields
import TestMatrix.Proofs.Request.Leniency

/-!
# The command of the summary

The summary of a run has a line with a command that is to repeat the run. The command sets the
variable for the seed and no other, and it gives no instructions, so what it runs is the default
request for this seed, whatever was asked for before (`Host.HasOnly.exists_follow_iff`). That
repeats the runs of default requests, and strict ones too, because strictness only refuses. If a
request differs in something else, the command does not say so. A run that has a job for self-hosted
runners is never repeated (`command_repeats_defaults`, `command_misses_repository`).
-/

namespace TestMatrix

variable {o : Instructions} {h h' k : Host} {fresh : UInt64} {report report' : Report} {s : Seed}

/-! ## The command -/

/-- The summary says how to repeat the run. -/
theorem exists_command (s : Seed) (d : Document) : ∃ before after, summaryText s d = before ++
    ("- Reproduce locally: `" ++ s.asVariable ++ " cargo run -p matrix_gen`\n") ++ after := by
  refine ⟨String.join
      ["### Test matrix\n\n", "- Seed: `", s.valueText, "` (", s.origin.text, ")\n"],
    String.join (["- Jobs: ", String.ofList (Nat.toDigits 10 d.jobs.length), "\n\n"] ++
      d.names.map fun name => "- " ++ name ++ "\n"), ?_⟩
  rw [summaryText]
  simp [String.join_cons, String.append_assoc]

/-! ## Hosts that take everything -/

/-- What is delivered to the host goes to no file, and as much as there is. -/
structure Host.TakesAll (k : Host) : Prop where
  output : k.output.path? = none
  summary : k.summary.path? = none
  stdout : k.stdout.room = none

/-- A host in memory takes everything. -/
theorem Host.takesAll_ofMemory (vars : Variables) : (Host.ofMemory vars).TakesAll :=
  ⟨rfl, rfl, rfl⟩

/-- Such a host takes every step that writes to no file of its own. -/
theorem Host.TakesAll.exists_carryOut (hk : k.TakesAll) (block summary text : String) :
    ∃ k', carryOut [.appendOutput block, .appendSummary summary, .print text] k = (k', .ok ()) := by
  obtain ⟨vars, output, summary, files, ⟨room, taken⟩⟩ := k
  obtain rfl : room = none := hk.stdout
  cases output with
  | file path => exact absurd hk.output (by simp [Sink.path?])
  | closed =>
    cases summary with
    | file path => exact absurd hk.summary (by simp [Sink.path?])
    | closed => exact ⟨_, rfl⟩
    | memory old => exact ⟨_, rfl⟩
  | memory old =>
    cases summary with
    | file path => exact absurd hk.summary (by simp [Sink.path?])
    | closed => exact ⟨_, rfl⟩
    | memory old => exact ⟨_, rfl⟩

/-- On such a host, a run that makes no file of its own succeeds as soon as its matrix is made. -/
theorem Host.TakesAll.exists_follow_iff (hk : k.TakesAll) (hexport : o.exportPath = none)
    (fresh : UInt64) : (∃ k', o.follow k fresh = (k', .ok report)) ↔
      ∃ request, o.request k.vars (Seed.determine o.seed k.vars fresh) = .ok request ∧
        request.generate = .ok report := by
  constructor
  · rintro ⟨k', hfollow⟩
    obtain ⟨shipment, hprepare, -, rfl⟩ := follow_eq_ok_iff.mp hfollow
    obtain ⟨request, report, hrequest, hreport, rfl⟩ := prepare_eq_ok_iff.mp hprepare
    exact ⟨request, hrequest, hreport⟩
  · rintro ⟨request, hrequest, hreport⟩
    have hprepare := prepare_eq_ok_iff.mpr ⟨request, report, hrequest, hreport, rfl⟩
    rw [Instructions.stepsFor, hexport] at hprepare
    obtain ⟨k', hcarried⟩ := hk.exists_carryOut _ _ _
    exact ⟨k', follow_eq_ok_iff.mpr ⟨_, hprepare, hcarried, rfl⟩⟩

/-- The host has the setting of the command and no other variable. -/
structure Host.HasOnly (k : Host) (s : Seed) : Prop extends k.TakesAll where
  vars_eq : k.vars = [("RNG_SEED", .text s.reported)]

/-- A host with a seed and nothing else is one of those that the reported command is run on. -/
theorem Host.hasOnly_ofMemory (s : Seed) :
    (Host.ofMemory [("RNG_SEED", .text s.reported)]).HasOnly s :=
  ⟨Host.takesAll_ofMemory _, rfl⟩

/-- The command asks for the default request with the seed that it sets. -/
theorem Host.HasOnly.request_eq (hk : k.HasOnly s) (fresh : UInt64) :
    Instructions.request {} k.vars (Seed.determine none k.vars fresh) =
      .ok { seed := s.value } := by
  have hlookup : k.vars.lookup "RNG_SEED" = some (.text s.reported) := by
    rw [hk.vars_eq]
    exact List.lookup_cons_self
  rw [Seed.determine_of_lookup hlookup (by simp), hk.vars_eq]
  rfl

/-- What the command runs is the default request for the seed, and nothing else decides whether that
succeeds. -/
theorem Host.HasOnly.exists_follow_iff (hk : k.HasOnly s) (fresh : UInt64) :
    (∃ k', Instructions.follow {} k fresh = (k', .ok report)) ↔
      Request.generate { seed := s.value } = .ok report := by
  rw [hk.toTakesAll.exists_follow_iff rfl, hk.request_eq fresh]
  simp

/-! ## Self-hosted runners -/

/-- The matrix that has no self-hosted runners differs from every document with a job for them. -/
theorem document_ne_of_selfHosted {r : Request} (h : r.generate = .ok report)
    (hprofile : r.profile.selfHosted = false) {d : Document} {job : Json.Object}
    (hjob : job ∈ d.jobs) (hos : job.valueOf? "os" = some (.text "self-hosted")) :
    report.document ≠ d := by
  rintro rfl
  have hmem : r.profile.systemAxis ∈ r.profile.axes := by simp [Profile.axes]
  have hkey : "os" ∉ Job.lostKeys ++ Job.derivedKeys := by decide
  have htoken := Request.token_mem_of_mem_jobs h hmem hkey hjob hos
  simp [Profile.systemAxis, hprofile, Axis.tokens, Profile.plainSetting] at htoken

/-- The row for the first goal stays while the others are forced. -/
theorem Plan.isCovered_forceAll_of_force {p : Plan} (hp : p.Reachable) {s s' : Selector}
    (h : (p.force s).1.isCovered s' = true) (rest : List Selector) :
    (p.forceAll (s :: rest)).1.isCovered s' = true := by
  rw [forceAll_cons]
  cases (p.force s).2 with
  | error e => exact h
  | ok row => exact isCovered_mono (reachable_forceAll (hp.act (.force s)) rest).2 h

/-- The first goal of every profile is the rare setting of the hash axis. -/
theorem Profile.goals_eq_cons (profile : Profile) (p : Plan) :
    ∃ rest, profile.goals p = Selector.having {} "hash" "same" :: rest :=
  ⟨_, rfl⟩

/-- The first row of the repository with self-hosted runners is for one of them. -/
theorem exists_report_selfHosted :
    ∃ report, ({ seed := 1, profile := ⟨true⟩ } : Request).generate = .ok report ∧
      ∃ job ∈ report.document.jobs, job.valueOf? "os" = some (.text "self-hosted") := by
  let r : Request := { seed := 1, profile := ⟨true⟩ }
  have hfirst : (r.plan.1.force (Selector.having {} "hash" "same")).1.isCovered
      (Selector.having {} "os" "self-hosted") = true := by decide +kernel
  have hforced : r.forced.1.isCovered (Selector.having {} "os" "self-hosted") = true := by
    obtain ⟨rest, hgoals⟩ := r.profile.goals_eq_cons r.plan.1
    rw [Request.forced, hgoals]
    exact Plan.isCovered_forceAll_of_force r.reachable_plan.1 hfirst rest
  have hcovered := Request.isCovered_filled_of_forced hforced
  have hrows := Plan.entries_ne_nil_of_isCovered hcovered
  obtain ⟨report, hreport⟩ := Request.exists_report_of_lenient rfl hrows
  exact ⟨report, hreport, Request.exists_job_of_isCovered hreport (by decide) hcovered⟩

/-! ## Runs that the command repeats -/

/-- The summary of a run that succeeds holds the command. Where there are no other variables, the
command comes to what the default request for the seed comes to. So it repeats the run if the
request differed from the default one in strictness at most, and it never does if the run has a job
for self-hosted runners. -/
theorem command_repeats_defaults (hfollow : o.follow h fresh = (h', .ok report)) :
    let s := Seed.determine o.seed h.vars fresh
    (∃ shipment before after, o.prepare h.vars fresh = .ok shipment ∧ .appendSummary (before ++
      ("- Reproduce locally: `" ++ s.asVariable ++ " cargo run -p matrix_gen`\n") ++ after) ∈
        shipment.steps) ∧
    ∀ k : Host, k.HasOnly s → ∀ fresh' : UInt64,
      (∀ report', (∃ k', Instructions.follow {} k fresh' = (k', .ok report')) ↔
        Request.generate { seed := s.value } = .ok report') ∧
      (o.request h.vars s = .ok { seed := s.value, strict := o.strict } →
        ∃ k', Instructions.follow {} k fresh' = (k', .ok report)) ∧
      ∀ job ∈ report.document.jobs, job.valueOf? "os" = some (.text "self-hosted") →
        ∀ k' report', Instructions.follow {} k fresh' = (k', .ok report') →
          report'.document ≠ report.document := by
  intro s
  obtain ⟨shipment, hprepare, -, rfl⟩ := follow_eq_ok_iff.mp hfollow
  obtain ⟨request, report, hrequest, hreport, rfl⟩ := prepare_eq_ok_iff.mp hprepare
  refine ⟨?_, fun k hk fresh' => ⟨fun report' => hk.exists_follow_iff fresh',
    fun hdefault => ?_, fun job hjob hos k' report' hagain => ?_⟩⟩
  · obtain ⟨before, after, hsummary⟩ := exists_command s report.document
    refine ⟨_, before, after, hprepare, ?_⟩
    rw [← hsummary]
    simp [Instructions.stepsFor, s]
  -- A default request that is strict gives the same report when it is repeated leniently.
  · obtain rfl := Except.ok.inj (hrequest.symm.trans hdefault)
    have hlenient := Request.generate_lenient hreport
    exact (hk.exists_follow_iff fresh').mpr hlenient
  -- A default matrix has no job on a self-hosted runner, so one that has such a job is not
  -- repeated.
  · have hagain := (hk.exists_follow_iff fresh').mp ⟨k', hagain⟩
    exact document_ne_of_selfHosted hagain rfl hjob hos

/-- A run in a fork that prints its document on one line is repeated. -/
theorem command_repeats_defaults_fork :
    let o : Instructions := { seed := some "1", json := true }
    let h := Host.ofMemory [("GITHUB_REPOSITORY", .text "fork/pgjdbc")]
    let s := Seed.determine o.seed h.vars 0
    ∃ h' report, o.follow h 0 = (h', .ok report) ∧
      o.request h.vars s = .ok { seed := s.value, strict := o.strict } ∧
      ∃ k', Instructions.follow {} (Host.ofMemory [("RNG_SEED", .text s.reported)]) 0 =
        (k', .ok report) := by
  intro o h s
  obtain ⟨goals, hgoals, -⟩ := exists_report_goals
  obtain ⟨report, hreport, -⟩ := Request.generate_of_le hgoals (Nat.zero_le defaultJobs)
  have hrequest : o.request h.vars s = .ok { seed := 1 } := rfl
  obtain ⟨h', hfollow⟩ :=
    ((Host.takesAll_ofMemory _).exists_follow_iff rfl 0).mpr ⟨_, hrequest, hreport⟩
  exact ⟨h', report, hfollow, hrequest,
    ((command_repeats_defaults hfollow).2 _ (Host.hasOnly_ofMemory s) 0).2.1 hrequest⟩

/-- The command does not repeat the run of the repository with self-hosted runners, because it does
not set the variable for the repository. Both runs succeed. -/
theorem command_misses_repository :
    let h := Host.ofMemory
      [("RNG_SEED", .text "1"), ("GITHUB_REPOSITORY", .text Profile.canonicalRepository)]
    let s := Seed.determine none h.vars 0
    s.asVariable = "RNG_SEED=1" ∧
      ∃ h' report k' report', Instructions.follow {} h 0 = (h', .ok report) ∧
        Instructions.follow {} (Host.ofMemory [("RNG_SEED", .text "1")]) 0 = (k', .ok report') ∧
        report'.document ≠ report.document := by
  intro h s
  obtain ⟨hsetting, hreported⟩ : s.asVariable = "RNG_SEED=1" ∧ s.reported = "1" := by
    decide +kernel
  have honly : (Host.ofMemory [("RNG_SEED", .text "1")]).HasOnly s := by
    rw [← hreported]
    exact Host.hasOnly_ofMemory s
  -- The first run has the seed and the repository, and a job on a self-hosted runner.
  obtain ⟨report, hreport, job, hjob, hos⟩ := exists_report_selfHosted
  have hrequest : Instructions.request {} h.vars s = .ok { seed := 1, profile := ⟨true⟩ } := rfl
  obtain ⟨h', hfollow⟩ :=
    ((Host.takesAll_ofMemory _).exists_follow_iff rfl 0).mpr ⟨_, hrequest, hreport⟩
  obtain ⟨goals, hgoals, -⟩ := exists_report_goals
  obtain ⟨report', hreport', -⟩ := Request.generate_of_le hgoals (Nat.zero_le defaultJobs)
  obtain ⟨k', hagain⟩ := (honly.exists_follow_iff 0).mpr hreport'
  exact ⟨hsetting, h', report, k', report', hfollow, hagain,
    document_ne_of_selfHosted hreport' rfl hjob hos⟩

end TestMatrix

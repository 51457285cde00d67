import TestMatrix.Proofs.Delivery.Channels
import TestMatrix.Proofs.Json.OneLine
import TestMatrix.Proofs.Request.Growth

/-!
# Runs that fail

A run fails either before it delivers anything or at one of its channels, and its error tells which:
only a channel that cannot be written is reported as such (`ne_cannotWrite_of_prepare`). A matrix
that has been made is never refused as an output (`publish_never_refused`). In the first case the
host is as it was. In the second the delivery stops at that channel (`StopsAt`): those before it
have their whole texts, those after it nothing of theirs, and the standard output, which comes last,
has a proper beginning of its text at most (`failed_run_stops_at_channel`).
-/

namespace TestMatrix

variable {o : Instructions} {vars : Variables} {fresh : UInt64} {shipment : Shipment}
  {h mid h' : Host}

/-! ## Preparation -/

/-- What a shipment has for a channel. -/
def Shipment.textFor (s : Shipment) (o : Instructions) : Channel → String
  | .exportFile => s.report.document.pretty
  | .output => OutputBlock.block Document.key s.report.document.compact
  | .summary => summaryText s.seed s.report.document
  | .stdout => o.printed s.report.document ++ "\n"

/-- The steps of a shipment deliver its texts to the channels in order. -/
theorem steps_of_prepare (h : o.prepare vars fresh = .ok shipment) :
    shipment.steps = o.deliveries (shipment.textFor o) Channel.order := by
  obtain ⟨request, -, h⟩ := bind_eq_ok_iff.mp h
  obtain ⟨report, -, h⟩ := bind_eq_ok_iff.mp h
  rw [Document.render_compact] at h
  obtain rfl := (Except.ok.inj h).symm
  rw [Channel.order, Instructions.deliveries_cons]
  rfl

/-- The only variable that is refused is the number of rows. -/
theorem exists_invalidVariable_of_request {seed : Seed} {e : EnvironmentError}
    (h : o.request vars seed = .error e) :
    ∃ value reason, e = .invalidVariable "MATRIX_JOBS" value reason := by
  rcases bind_eq_error_iff.mp h with h | ⟨jobs, -, h⟩
  · rw [Instructions.jobsIn] at h
    split at h
    · simp at h
    · cases hjobs : vars.jobs? with
      | ok jobs => simp [hjobs, Except.map] at h
      | error e' =>
        rw [hjobs] at h
        obtain rfl : e' = e := Except.error.inj h
        rw [Variables.jobs?] at hjobs
        split at hjobs
        · simp at hjobs
        · next value _ =>
          split at hjobs
          · simp at hjobs
          · next reason _ => exact ⟨value, reason, (Except.error.inj hjobs).symm⟩
  · simp [pure, Except.pure] at h

/-- What goes wrong before the delivery is never that something cannot be written. -/
theorem ne_cannotWrite_of_prepare {e : RunError} (h : o.prepare vars fresh = .error e)
    (target : String) (cause : WriteError) : e ≠ .environment (.cannotWrite target cause) := by
  rcases bind_eq_error_iff.mp h with h | ⟨request, -, h⟩
  · obtain ⟨e', hrequest, rfl⟩ := mapError_eq_error_iff.mp h
    obtain ⟨value, reason, rfl⟩ := exists_invalidVariable_of_request hrequest
    simp
  rcases bind_eq_error_iff.mp h with h | ⟨report, -, h⟩
  · obtain ⟨e', -, rfl⟩ := mapError_eq_error_iff.mp h
    simp
  · rw [Document.render_compact] at h
    simp [Except.mapError, bind, Except.bind, pure, Except.pure] at h

/-! ## Publishing -/

/-- Publishing a document makes the block of the output once more, which is not refused then
either, and is the same. -/
theorem Host.publish_eq (h : Host) (d : Document) :
    h.publish d = h.appendOutput (OutputBlock.block Document.key d.compact) := by
  rw [publish, setOutput, Document.render_compact]
  cases houtput : h.output with
  | closed => rw [appendOutput, houtput]
  | memory old => rfl
  | file path => rfl

/-- A document is published, or else the file of the outputs cannot be written, in which case the
host is as it was. Whatever the texts in
its jobs are, it is written on one line, and that line is not the delimiter. -/
theorem publish_never_refused (d : Document) :
    '\n' ∉ d.compact.toList ∧ '\r' ∉ d.compact.toList ∧
    OutputBlock.render Document.key d.compact =
      .ok (OutputBlock.block Document.key d.compact) ∧
    ∀ h : Host, (∀ key delimiter, (h.publish d).2 ≠ .error (.delimiterInValue key delimiter)) ∧
      ((∃ h' done, h.publish d = (h', .ok done)) ∨
        ∃ path cause, h.output = .file path ∧
          h.publish d = (h, .error (.cannotWrite path cause))) := by
  refine ⟨d.not_mem_compact (by decide), d.not_mem_compact (by decide), d.render_compact, ?_⟩
  intro h
  -- The block is already known to be rendered, so appending it is all that is left to fail.
  have hcases : (∃ h' done, h.publish d = (h', .ok done)) ∨
      ∃ path cause, h.output = .file path ∧
        h.publish d = (h, .error (.cannotWrite path cause)) := by
    rw [h.publish_eq, h.appendOutput_eq]
    cases happend : h.output.append h.files (OutputBlock.block Document.key d.compact) with
    | ok next => exact .inl ⟨_, _, rfl⟩
    | error e =>
      obtain ⟨path, cause, hpath, rfl⟩ := Sink.cannotWrite_of_append happend
      exact .inr ⟨path, cause, hpath, rfl⟩
  refine ⟨fun key delimiter hrefused => ?_, hcases⟩
  rcases hcases with ⟨h', done, hdone⟩ | ⟨path, cause, -, hbroken⟩
  · simp [hdone] at hrefused
  · simp [hbroken] at hrefused

/-! ## Delivery -/

/-- A delivery that has come to a channel and no further. -/
structure StopsAt (o : Instructions) (texts : Channel → String) (done : List Channel)
    (failing : Channel) (later : List Channel) (h h' : Host) : Prop where
  order_eq : Channel.order = done ++ failing :: later
  isConfigured : failing.IsConfigured o h
  /-- The channels before it hold their whole texts. -/
  holds_of_mem_done : ∀ c ∈ done, c.IsConfigured o h →
    c.holds? o h' = some (c.contentAfter (c.holds? o h) (texts c))
  /-- The channels after it hold what they held. -/
  holds_of_mem_later : ∀ c ∈ later, c.holds? o h' = c.holds? o h
  /-- So does the channel itself if it is a file, and nothing is printed. -/
  holds_failing : failing ≠ .stdout →
    failing.holds? o h' = failing.holds? o h ∧ h'.stdout.taken = h.stdout.taken
  /-- The standard output has taken a proper beginning of its text. -/
  taken_stdout : failing = .stdout → ∃ part, part <+: (texts .stdout).toList ∧
    part ≠ (texts .stdout).toList ∧ h'.stdout.taken = h.stdout.taken ++ String.ofList part

/-- No channel is served twice. -/
theorem nodup_order : Channel.order.Nodup := by decide

/-- Only the standard output changes when a delivery fails. -/
theorem Breaks.holds_of_ne {c failing : Channel} {text : String}
    (hbreaks : Breaks o failing text mid h') (hne : c ≠ failing) :
    c.holds? o h' = c.holds? o mid := by
  have htaken := hbreaks.taken
  split at htaken
  · next hstdout =>
    obtain ⟨stdout, part, rfl, -⟩ := htaken
    rw [hstdout] at hne
    cases c with
    | stdout => exact absurd rfl hne
    | exportFile => rfl
    | output => rfl
    | summary => rfl
  · rw [htaken]

/-- The standard output is not among the channels before the one that fails. -/
theorem stdout_mem_of_order {done later : List Channel} {failing : Channel}
    (horder : Channel.order = done ++ failing :: later) : .stdout ∈ failing :: later := by
  have hlast : (done ++ failing :: later).getLast? = some .stdout := by
    rw [← horder]
    rfl
  rw [List.getLast?_append_of_ne_nil _ (List.cons_ne_nil failing later)] at hlast
  exact List.mem_of_getLast? hlast

/-- What has been delivered before a delivery fails stays, and the rest has not been touched. -/
theorem Breaks.stopsAt {texts : Channel → String} {done later : List Channel} {failing : Channel}
    (horder : Channel.order = done ++ failing :: later) (hcompletes : Completes o texts done h mid)
    (hbreaks : Breaks o failing (texts failing) mid h') :
    StopsAt o texts done failing later h h' := by
  -- The channels are all different, so the one that fails is neither before nor after itself.
  obtain ⟨-, hrest, hdisjoint⟩ := List.nodup_append.mp (horder ▸ nodup_order)
  have hfailing : failing ∉ done := fun hmem =>
    hdisjoint failing hmem failing List.mem_cons_self rfl
  -- The standard output comes last of all, so it is not among those that are done.
  have hstdout : mid.stdout.taken = h.stdout.taken := by
    have hmem : .stdout ∉ done := fun hmem =>
      hdisjoint .stdout hmem .stdout (stdout_mem_of_order horder) rfl
    exact Option.some.inj (hcompletes.holds_of_not_mem .stdout hmem)
  have htaken := hbreaks.taken
  refine ⟨horder, (hcompletes.isConfigured_iff failing).mp hbreaks.isConfigured, ?_, ?_, ?_, ?_⟩
  · intro c hc hopen
    have hne : c ≠ failing := fun heq => hfailing (heq ▸ hc)
    rw [hbreaks.holds_of_ne hne]
    exact hcompletes.holds_of_mem c hc hopen
  · intro c hc
    have hne : c ≠ failing := fun heq => (List.nodup_cons.mp hrest).1 (heq ▸ hc)
    have hnot : c ∉ done := fun hmem => hdisjoint c hmem c (List.mem_cons_of_mem _ hc) rfl
    rw [hbreaks.holds_of_ne hne]
    exact hcompletes.holds_of_not_mem c hnot
  · intro hne
    rw [if_neg hne] at htaken
    rw [htaken]
    exact ⟨hcompletes.holds_of_not_mem failing hfailing, hstdout⟩
  · rintro rfl
    rw [if_pos rfl] at htaken
    obtain ⟨stdout, part, rfl, hprefix, hne, htaken⟩ := htaken
    exact ⟨part, hprefix, hne, htaken.trans (by rw [hstdout])⟩

/-- A run that fails has either changed nothing, or come to a channel that cannot be written. Unless
its error says that something cannot be written, the host is as it was before. Otherwise the matrix
was made, and in the order of file, output, summary and standard output the channels before the one
that the error names hold their whole texts, and those after it what they held. The standard output
has taken nothing unless it is that channel itself, and then less than the whole text. -/
theorem failed_run_stops_at_channel {e : RunError} (hdistinct : o.Distinct h)
    (hfollow : o.follow h fresh = (h', .error e)) :
    ((∀ target cause, e ≠ .environment (.cannotWrite target cause)) → h' = h) ∧
    ∀ target cause, e = .environment (.cannotWrite target cause) →
      ∃ shipment done failing later, o.prepare h.vars fresh = .ok shipment ∧
        target = failing.target o h ∧
        StopsAt o (shipment.textFor o) done failing later h h' := by
  rw [Instructions.follow] at hfollow
  cases hprepare : o.prepare h.vars fresh with
  | error e' =>
    rw [hprepare] at hfollow
    obtain ⟨rfl, hsame⟩ := Prod.mk.inj hfollow
    obtain rfl := Except.error.inj hsame
    -- Nothing has been delivered yet, and an error of this kind is never one of writing.
    refine ⟨fun _ => rfl, fun target cause heq => ?_⟩
    exact absurd heq (ne_cannotWrite_of_prepare hprepare target cause)
  | ok shipment =>
    rw [hprepare] at hfollow
    dsimp only at hfollow
    rw [steps_of_prepare hprepare] at hfollow
    have houtcome := carryOut_deliveries (shipment.textFor o) nodup_order hdistinct
    generalize carryOut (o.deliveries (shipment.textFor o) Channel.order) h = outcome at *
    cases houtcome with
    | completed hcompletes => simp at hfollow
    | @broken done later failing mid h'' e'' horder hcompletes hbreaks herror =>
      obtain ⟨cause', rfl⟩ := herror
      obtain ⟨rfl, hsame⟩ := Prod.mk.inj hfollow
      obtain rfl := Except.error.inj hsame
      refine ⟨fun hother => absurd rfl (hother _ _), fun target cause heq => ?_⟩
      have htarget : failing.target o h = target := by
        injection heq with heq
        injection heq
      exact ⟨shipment, done, failing, later, rfl, htarget.symm, hbreaks.stopsAt horder hcompletes⟩

/-- A number of rows that is none is refused before anything is delivered, and if there is a
directory in the place of the summary, the output alone has been written. -/
theorem failed_run_stops_at_channel_directory :
    let refused := Host.ofMemory [("MATRIX_JOBS", .text "many")]
    let h : Host :=
      { output := .file "log", summary := .file "out",
        files := { entries := [(["out"], .directory)] } }
    let o : Instructions := { seed := some "1", jobs := some 0 }
    Instructions.Distinct {} refused ∧ o.Distinct h ∧
      (∃ h' value reason, Instructions.follow {} refused 0 =
        (h', .error (.environment (.invalidVariable "MATRIX_JOBS" value reason))) ∧ h' = refused) ∧
      ∃ cause h' shipment done failing later,
        o.follow h 0 = (h', .error (.environment (.cannotWrite "out" cause))) ∧
        o.prepare h.vars 0 = .ok shipment ∧ "out" = failing.target o h ∧
        StopsAt o (shipment.textFor o) done failing later h h' := by
  intro refused h o
  have hrefused : Instructions.Distinct {} refused := by
    intro c c' _ path path' hpath
    cases c <;> cases hpath
  have hdistinct : o.Distinct h := by
    have hfails : ∀ location, h.files.locate "out" ≠ .ok location := by
      intro location hlocate
      have hdirectory : h.files.locate "out" = .error .isDirectory := rfl
      rw [hdirectory] at hlocate
      cases hlocate
    intro c c' hne path path' hpath hpath' location hlocate
    cases c <;> cases hpath <;> cases c' <;> cases hpath'
    · exact absurd rfl hne
    · exact hfails location
    · exact absurd hlocate (hfails location)
    · exact absurd rfl hne
  refine ⟨hrefused, hdistinct, ?_, ?_⟩
  · have hfollow : Instructions.follow {} refused 0 = (refused,
        .error (.environment (.invalidVariable "MATRIX_JOBS" "many" .invalidDigit))) := rfl
    exact ⟨refused, _, _, hfollow, (failed_run_stops_at_channel hrefused hfollow).1 (by simp)⟩
  · obtain ⟨report, hreport, -⟩ := exists_report_goals
    have hprepare : o.prepare h.vars 0 = .ok
        { seed := ⟨1, .explicit⟩, report := report
          steps := o.stepsFor ⟨1, .explicit⟩ report.document
            (OutputBlock.block Document.key report.document.compact) } := by
      have hreport' : (Request.generate { seed := 1, jobs := 0 }).mapError RunError.plan =
          .ok report := by
        rw [hreport]
        rfl
      refine bind_eq_ok_iff.mpr ⟨{ seed := 1, jobs := 0 }, rfl, ?_⟩
      refine bind_eq_ok_iff.mpr ⟨report, hreport', ?_⟩
      rw [Document.render_compact]
      rfl
    have hfollow : ∃ h', o.follow h 0 =
        (h', .error (.environment (.cannotWrite "out" .isDirectory))) := by
      rw [Instructions.follow, hprepare]
      exact ⟨_, rfl⟩
    obtain ⟨h', hfollow⟩ := hfollow
    obtain ⟨shipment, done, failing, later, hshipment, htarget, hstops⟩ :=
      (failed_run_stops_at_channel hdistinct hfollow).2 _ _ rfl
    exact ⟨_, h', shipment, done, failing, later, hfollow, hshipment, htarget, hstops⟩

end TestMatrix

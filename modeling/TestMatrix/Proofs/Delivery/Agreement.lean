import TestMatrix.Proofs.Delivery.Failure
import TestMatrix.Proofs.Output.Reading
import TestMatrix.Proofs.Request.Jobs

/-!
# All channels carry the same matrix

A run that succeeds has delivered its texts to all channels that are configured
(`completes_of_follow`). Three of these texts are the document of the run: what is printed, the body
of the block in the output, and the file of the matrix. They are rendered in different ways and read
back in different ways, and come to the same document (`channels_agree`), because documents of runs
can be read back in either layout.
-/

namespace TestMatrix

variable {o : Instructions} {vars : Variables} {fresh : UInt64} {shipment : Shipment}
  {h h' : Host} {report : Report}

/-! ## Runs that succeed -/

/-- A shipment is made if the environment says what to make and that can be made. -/
theorem prepare_eq_ok_iff : o.prepare vars fresh = .ok shipment ↔
    ∃ request report, o.request vars (Seed.determine o.seed vars fresh) = .ok request ∧
      request.generate = .ok report ∧ shipment =
        { seed := Seed.determine o.seed vars fresh, report
          steps := o.stepsFor (Seed.determine o.seed vars fresh) report.document
            (OutputBlock.block Document.key report.document.compact) } := by
  simp only [Instructions.prepare, bind_eq_ok_iff, mapError_eq_ok_iff,
    Document.render_compact]
  constructor
  · rintro ⟨request, hrequest, report, hreport, block, hblock, hshipment⟩
    obtain rfl := Except.ok.inj hblock
    exact ⟨request, report, hrequest, hreport, (Except.ok.inj hshipment).symm⟩
  · rintro ⟨request, report, hrequest, hreport, rfl⟩
    exact ⟨request, hrequest, report, hreport, _, rfl, rfl⟩

/-- A run succeeds if a shipment is made and all of its steps are taken. -/
theorem follow_eq_ok_iff : o.follow h fresh = (h', .ok report) ↔
    ∃ shipment, o.prepare h.vars fresh = .ok shipment ∧
      carryOut shipment.steps h = (h', .ok ()) ∧ shipment.report = report := by
  rw [Instructions.follow]
  cases hprepare : o.prepare h.vars fresh with
  | error e => simp
  | ok shipment =>
    simp only [Except.ok.injEq, exists_eq_left']
    generalize carryOut shipment.steps h = outcome
    rcases outcome with ⟨last, e | done⟩ <;> simp

/-- A run that succeeds has delivered to all of its channels. -/
theorem completes_of_follow (hdistinct : o.Distinct h)
    (hfollow : o.follow h fresh = (h', .ok report)) :
    ∃ shipment, o.prepare h.vars fresh = .ok shipment ∧ shipment.report = report ∧
      Completes o (shipment.textFor o) Channel.order h h' := by
  obtain ⟨shipment, hprepare, hcarried, hreport⟩ := follow_eq_ok_iff.mp hfollow
  refine ⟨shipment, hprepare, hreport, ?_⟩
  rw [steps_of_prepare hprepare] at hcarried
  have houtcome := carryOut_deliveries (shipment.textFor o) nodup_order hdistinct
  rw [hcarried] at houtcome
  cases houtcome with
  | completed hcompletes => exact hcompletes

/-- The document of a run can be read back. -/
theorem readable_of_follow (hfollow : o.follow h fresh = (h', .ok report)) :
    report.document.Readable := by
  obtain ⟨shipment, hprepare, -, rfl⟩ := follow_eq_ok_iff.mp hfollow
  obtain ⟨request, report, -, hreport, rfl⟩ := prepare_eq_ok_iff.mp hprepare
  exact Request.readable_document hreport

/-! ## Three readers -/

/-- The block of a document is read as the document on one line. -/
theorem OutputBlock.read?_block_document (d : Document) :
    read? (block Document.key d.compact) = some [(Document.key, d.compact)] := by
  have hvalue : collides Document.key d.compact = false :=
    (render_eq_ok_iff.mp d.render_compact).1
  have hread := readLines_block (by decide) (by decide) hvalue []
  rw [List.append_nil] at hread
  exact hread

/-- A document is printed so that it can be read back, on one line or indented. -/
theorem Instructions.ofText?_printed (o : Instructions) {d : Document} (hd : d.Readable) :
    Document.ofText? (o.printed d) = some d := by
  rw [printed]
  split
  · exact Document.ofText?_compact hd
  · exact Document.ofText?_pretty hd

/-- All channels carry the same matrix. After a run that succeeds, one document and a line feed have
been printed, the output has grown by one block with the key of the matrix if it leads anywhere, and
the file of the matrix, if there is to be one, holds the indented document. What is read from each
of them is the document of the report, whether it is printed on one line or not. -/
theorem channels_agree (hdistinct : o.Distinct h)
    (hfollow : o.follow h fresh = (h', .ok report)) :
    (∃ text, h'.stdout.taken = h.stdout.taken ++ (text ++ "\n") ∧
      text = o.printed report.document ∧ Document.ofText? text = some report.document) ∧
    (h.output ≠ .closed → ∃ block body,
      h'.output.read? h'.files = some ((h.output.read? h.files).getD "" ++ block) ∧
      OutputBlock.render Document.key body = .ok block ∧
      OutputBlock.read? block = some [(Document.key, body)] ∧
      Document.ofText? body = some report.document) ∧
    ∀ path, o.exportPath = some path → ∃ text, h'.files.read? path = some text ∧
      text = report.document.pretty ∧ Document.ofText? text = some report.document := by
  have hread : report.document.Readable := readable_of_follow hfollow
  obtain ⟨shipment, -, rfl, hcompletes⟩ := completes_of_follow hdistinct hfollow
  -- No channel is left out of the order, so what is said of those in it holds of all.
  have hholds := fun c => hcompletes.holds_of_mem c (by cases c <;> decide)
  refine ⟨⟨_, ?_, rfl, o.ofText?_printed hread⟩, fun hopen => ?_, fun path hpath => ?_⟩
  · have hopen : Channel.stdout.IsConfigured o h := by simp [Channel.IsConfigured, Channel.sink]
    exact Option.some.inj (hholds .stdout hopen)
  · exact ⟨_, _, hholds .output hopen, Document.render_compact _,
      OutputBlock.read?_block_document _, Document.ofText?_compact hread⟩
  · have hsink : ∀ h : Host, Channel.exportFile.sink o h = .file path := fun h => by
      rw [Channel.sink, hpath]
      rfl
    have hopen : Channel.exportFile.IsConfigured o h := by
      rw [Channel.IsConfigured, hsink]
      simp
    have hfile := hholds .exportFile hopen
    rw [Channel.holds?, hsink] at hfile
    exact ⟨_, hfile, rfl, Document.ofText?_pretty hread⟩

/-- A run that prints on one line, adds to an output file with something in it, and makes a file of
the matrix. -/
theorem channels_agree_json :
    let o : Instructions :=
      { seed := some "1", jobs := some 0, exportPath := some "matrix.json", json := true }
    let h : Host := { output := .file "out", files := ⟨[(["out"], .file "done=1\n")]⟩ }
    ∃ h' report, o.Distinct h ∧ o.follow h 0 = (h', .ok report) ∧
      h'.stdout.taken = report.document.compact ++ "\n" ∧
      Document.ofText? report.document.compact = some report.document ∧
      (∃ block body, h'.output.read? h'.files = some ("done=1\n" ++ block) ∧
        OutputBlock.read? block = some [(Document.key, body)] ∧
        Document.ofText? body = some report.document) ∧
      ∃ text, h'.files.read? "matrix.json" = some text ∧
        Document.ofText? text = some report.document := by
  intro o h
  have hdistinct : o.Distinct h := by
    have hexport : h.files.locate "matrix.json" = .ok ["matrix.json"] := rfl
    have houtput : h.files.locate "out" = .ok ["out"] := rfl
    -- Only the file of the matrix and the outputs have a path here, and the two are at different
    -- places.
    intro c c' hne path path' hpath hpath' location hlocate
    cases c <;> cases hpath <;> cases c' <;> cases hpath'
    · exact absurd rfl hne
    · rw [hexport] at hlocate
      rw [houtput, ← Except.ok.inj hlocate]
      simp
    · rw [houtput] at hlocate
      rw [hexport, ← Except.ok.inj hlocate]
      simp
    · exact absurd rfl hne
  obtain ⟨report, hreport, -⟩ := exists_report_goals
  have hrequest : o.request h.vars (Seed.determine o.seed h.vars 0) =
      .ok { seed := 1, jobs := 0 } := rfl
  have hprepare := prepare_eq_ok_iff.mpr ⟨_, report, hrequest, hreport, rfl⟩
  have hfollow : ∃ h', o.follow h 0 = (h', .ok report) :=
    ⟨_, follow_eq_ok_iff.mpr ⟨_, hprepare, rfl, rfl⟩⟩
  obtain ⟨h', hfollow⟩ := hfollow
  obtain ⟨⟨text, htaken, rfl, hprinted⟩, houtput, hexport⟩ := channels_agree hdistinct hfollow
  obtain ⟨block, body, hheld, -, hblock, hbody⟩ := houtput (by simp [h])
  obtain ⟨text, hfile, -, htext⟩ := hexport "matrix.json" rfl
  have hcompact : o.printed report.document = report.document.compact := rfl
  have hbefore : (h.output.read? h.files).getD "" = "done=1\n" := rfl
  rw [hcompact] at htaken hprinted
  rw [hbefore] at hheld
  refine ⟨h', report, hdistinct, hfollow, ?_, hprinted, ⟨block, body, hheld, hblock, hbody⟩,
    text, hfile, htext⟩
  rw [htaken]
  exact String.empty_append

end TestMatrix

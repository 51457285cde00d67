import TestMatrix.Proofs.Delivery.Writing

/-!
# Channels

A run delivers to four channels, each of which is a sink (`Channel.sink`): the file of the matrix,
where the text replaces what is there, and the output, the summary and the standard output, where it
is added. The steps of a delivery are those of its channels in `Channel.order`.

`Delivers` says once what a step does that succeeds, and `Breaks` what one does that fails. So a
delivery is complete for the channels before the one that fails and has not touched those after it
(`carryOut_deliveries`), as long as no two channels write to the same file (`Distinct`).
-/

namespace TestMatrix

/-! ## Sinks -/

namespace Sink

variable {s s' : Sink} {fs fs' : Files} {text content : String}

/-- What a sink holds, if anything. -/
def read? (fs : Files) : Sink → Option String
  | .closed => none
  | .memory text => some text
  | .file path => fs.read? path

/-- Adds a text to what a sink holds, if it leads anywhere. -/
def append (fs : Files) (text : String) : Sink → Except EnvironmentError (Sink × Files)
  | .closed => .ok (.closed, fs)
  | .memory old => .ok (.memory (old ++ text), fs)
  | .file path => (fs.append path text).map fun files => (.file path, files)

/-- The sink and the files after a text has become what the sink holds, if it leads anywhere. -/
inductive Stores (fs : Files) (content : String) : Sink → Sink → Files → Prop
  | closed : Stores fs content .closed .closed fs
  | memory (old : String) : Stores fs content (.memory old) (.memory content) fs
  | file {path : String} {fs' : Files} (h : fs.Writes path content fs') :
      Stores fs content (.file path) (.file path) fs'

/-- What a sink holds after a text was added is what it held and the text. -/
theorem stores_append (h : s.append fs text = .ok (s', fs')) :
    Stores fs ((s.read? fs).getD "" ++ text) s s' fs' := by
  cases s with
  | closed =>
    obtain ⟨rfl, rfl⟩ := Prod.mk.inj (Except.ok.inj h)
    exact .closed
  | memory old =>
    obtain ⟨rfl, rfl⟩ := Prod.mk.inj (Except.ok.inj h)
    exact .memory old
  | file path =>
    rw [append] at h
    cases happend : fs.append path text with
    | error e => simp [happend, Except.map] at h
    | ok files =>
      rw [happend] at h
      obtain ⟨rfl, rfl⟩ := Prod.mk.inj (Except.ok.inj h)
      exact .file (Files.writes_of_append happend)

/-- Only the file of a sink can keep a text from being added. -/
theorem cannotWrite_of_append {e : EnvironmentError} (h : s.append fs text = .error e) :
    ∃ path cause, s = .file path ∧ e = .cannotWrite path cause := by
  cases s with
  | closed => simp [append] at h
  | memory old => simp [append] at h
  | file path =>
    rw [append] at h
    cases happend : fs.append path text with
    | ok files => simp [happend, Except.map] at h
    | error e' =>
      rw [happend] at h
      obtain ⟨cause, hcause⟩ := Files.cannotWrite_of_append happend
      exact ⟨path, cause, rfl, (Except.error.inj h).symm.trans hcause⟩

/-- A text can be added to a sink just if the path of the sink, if it has one, is that of a file. -/
theorem exists_append_iff :
    (∃ s' fs', s.append fs text = .ok (s', fs')) ↔
      ∀ path, s.path? = some path → ∃ location, fs.locate path = .ok location := by
  cases s with
  | closed => exact iff_of_true ⟨_, _, rfl⟩ (by simp [path?])
  | memory old => exact iff_of_true ⟨_, _, rfl⟩ (by simp [path?])
  | file path =>
    simp only [append, Files.append, path?, Option.some.injEq, forall_eq']
    cases fs.locate path <;> simp [Except.map]

/-- A sink leads where it led. -/
theorem Stores.path?_eq (h : Stores fs content s s' fs') : s'.path? = s.path? := by
  cases h <;> rfl

/-- No sink is opened or closed. -/
theorem Stores.eq_closed_iff (h : Stores fs content s s' fs') : s' = .closed ↔ s = .closed := by
  cases h <;> simp

/-- Nothing becomes a directory or ceases to be one. -/
theorem Stores.sameDirectories (h : Stores fs content s s' fs') : fs.SameDirectories fs' := by
  cases h with
  | closed => exact fun _ => Iff.rfl
  | memory old => exact fun _ => Iff.rfl
  | file h => exact h.sameDirectories

/-- An open sink holds the content then. -/
theorem Stores.read?_self (h : Stores fs content s s' fs') (hopen : s ≠ .closed) :
    s'.read? fs' = some content := by
  cases h with
  | closed => exact absurd rfl hopen
  | memory old => rfl
  | file h => exact h.read?_self

/-- What another sink holds stays the same, unless both lead to the same file. -/
theorem Stores.read?_of_apart (h : Stores fs content s s' fs') {other : Sink}
    (hapart : ∀ path path', s.path? = some path → other.path? = some path' → fs.Apart path path') :
    other.read? fs' = other.read? fs := by
  cases other with
  | closed => rfl
  | memory text => rfl
  | file path' =>
    cases h with
    | closed => rfl
    | memory old => rfl
    | file h => exact h.read?_of_apart (hapart _ path' rfl rfl)

end Sink

/-! ## Channels -/

/-- Where a run delivers to. -/
inductive Channel where
  /-- A file of its own. -/
  | exportFile
  /-- The output of the workflow step. -/
  | output
  /-- The summary of the workflow step. -/
  | summary
  /-- The standard output. -/
  | stdout
deriving DecidableEq

namespace Channel

/-- The channels in the order in which they are served. -/
def order : List Channel := [.exportFile, .output, .summary, .stdout]

/-- What a channel holds after a text was delivered, given what it held before. -/
def contentAfter (old : Option String) (text : String) : Channel → String
  | .exportFile => text
  | _ => old.getD "" ++ text

/-- The step that delivers a text to a channel, if there is one. -/
def step? (o : Instructions) (text : String) : Channel → Option Step
  | .exportFile => o.exportPath.map fun path => .replaceFile path text
  | .output => some (.appendOutput text)
  | .summary => some (.appendSummary text)
  | .stdout => some (.print text)

/-- Where the texts of a channel go. -/
def sink (o : Instructions) (h : Host) : Channel → Sink
  | .exportFile => (o.exportPath.map Sink.file).getD .closed
  | .output => h.output
  | .summary => h.summary
  | .stdout => .memory h.stdout.taken

/-- The channel leads somewhere. -/
def IsConfigured (o : Instructions) (h : Host) (c : Channel) : Prop := c.sink o h ≠ .closed

/-- What a channel holds, if anything. -/
def holds? (o : Instructions) (h : Host) (c : Channel) : Option String := (c.sink o h).read? h.files

/-- What an error calls the channel. -/
def target (o : Instructions) (h : Host) (c : Channel) : String :=
  (c.sink o h).path?.getD "stdout"

end Channel

/-- No two channels write to the same file. -/
def Instructions.Distinct (o : Instructions) (h : Host) : Prop :=
  ∀ c c' : Channel, c ≠ c' → ∀ path path', (c.sink o h).path? = some path →
    (c'.sink o h).path? = some path' → h.files.Apart path path'

/-! ## One step -/

variable {o : Instructions} {h mid h' : Host} {c : Channel} {text : String} {step : Step}

/-- The text has been delivered to the channel, and nothing to the others. -/
structure Delivers (o : Instructions) (c : Channel) (text : String) (h h' : Host) : Prop where
  /-- The channel holds what it is to hold. -/
  stores : Sink.Stores h.files (c.contentAfter (c.holds? o h) text) (c.sink o h) (c.sink o h')
    h'.files
  /-- The other channels lead where they led. -/
  sink_of_ne : ∀ c' ≠ c, c'.sink o h' = c'.sink o h

/-- The text has not been delivered. -/
structure Breaks (o : Instructions) (c : Channel) (text : String) (h h' : Host) : Prop where
  isConfigured : c.IsConfigured o h
  /-- The standard output takes a proper beginning of its text, and all else takes nothing. -/
  taken : if c = .stdout then
      ∃ stdout part, h' = { h with stdout } ∧ part <+: text.toList ∧ part ≠ text.toList ∧
        stdout.taken = h.stdout.taken ++ String.ofList part
    else h' = h

/-- What comes of a step that delivers a text to a channel. -/
inductive Outcome (o : Instructions) (c : Channel) (text : String) (h : Host) :
    Host × Except EnvironmentError Unit → Prop
  | delivered {h' : Host} (hdelivers : Delivers o c text h h') : Outcome o c text h (h', .ok ())
  | broken {h' : Host} {e : EnvironmentError} (hbreaks : Breaks o c text h h')
      (herror : ∃ cause, e = .cannotWrite (c.target o h) cause) : Outcome o c text h (h', .error e)

/-- Replacing the file of the matrix delivers to it, or fails. -/
theorem outcome_replaceFile {path : String} (hpath : o.exportPath = some path) (h : Host)
    (text : String) : Outcome o .exportFile text h ((Step.replaceFile path text).take h) := by
  have hsink : ∀ h : Host, Channel.exportFile.sink o h = .file path := fun h => by
    rw [Channel.sink, hpath]
    rfl
  rw [Step.take]
  cases hreplace : h.files.replace path text with
  | ok files =>
    refine .delivered ⟨?_, ?_⟩
    · rw [hsink, hsink]
      exact .file (Files.writes_of_replace hreplace)
    · rintro (_ | _ | _ | _) hne
      · exact absurd rfl hne
      all_goals rfl
  | error e =>
    have hopen : Channel.exportFile.IsConfigured o h := by
      rw [Channel.IsConfigured, hsink]
      simp
    refine .broken ⟨hopen, rfl⟩ ?_
    rw [Channel.target, hsink]
    exact Files.cannotWrite_of_replace hreplace

/-- Adding to a sink of the host delivers to its channel, or fails. -/
theorem outcome_append (put : Sink → Files → Host)
    (hcontent : c.contentAfter (c.holds? o h) text = (c.holds? o h).getD "" ++ text)
    (hstdout : c ≠ .stdout) (hfiles : ∀ s fs, (put s fs).files = fs)
    (hsink : ∀ s fs, c.sink o (put s fs) = s)
    (hother : ∀ s fs, ∀ c' ≠ c, c'.sink o (put s fs) = c'.sink o h) :
    Outcome o c text h (match (c.sink o h).append h.files text with
      | .ok (s, fs) => (put s fs, .ok ())
      | .error e => (h, .error e)) := by
  cases happend : (c.sink o h).append h.files text with
  | ok next =>
    obtain ⟨s, fs⟩ := next
    refine .delivered ⟨?_, hother s fs⟩
    rw [hcontent, hsink, hfiles]
    exact Sink.stores_append happend
  | error e =>
    -- What cannot be appended to is a file, so the channel leads somewhere and is named by its
    -- path.
    obtain ⟨path, cause, hpath, rfl⟩ := Sink.cannotWrite_of_append happend
    have hopen : c.IsConfigured o h := by
      rw [Channel.IsConfigured, hpath]
      simp
    refine .broken ⟨hopen, by rw [if_neg hstdout]⟩ ⟨cause, ?_⟩
    rw [Channel.target, hpath]
    rfl

/-- Adding to the output of the workflow step is adding to its sink. -/
theorem Host.appendOutput_eq (h : Host) (text : String) : h.appendOutput text =
    match h.output.append h.files text with
    | .ok (output, files) => ({ h with output, files }, .ok (decide (h.output ≠ .closed)))
    | .error e => (h, .error e) := by
  obtain ⟨vars, output, summary, files, stdout⟩ := h
  cases output with
  | closed => rfl
  | memory old => rfl
  | file path =>
    rw [appendOutput, Sink.append]
    dsimp only
    cases files.append path text <;> rfl

/-- Adding to the summary of the workflow step is adding to its sink. -/
theorem Host.appendSummary_eq (h : Host) (text : String) : h.appendSummary text =
    match h.summary.append h.files text with
    | .ok (summary, files) => ({ h with summary, files }, .ok (decide (h.summary ≠ .closed)))
    | .error e => (h, .error e) := by
  obtain ⟨vars, output, summary, files, stdout⟩ := h
  cases summary with
  | closed => rfl
  | memory old => rfl
  | file path =>
    rw [appendSummary, Sink.append]
    dsimp only
    cases files.append path text <;> rfl

/-- The step that adds to the outputs is adding to their sink. -/
theorem take_appendOutput (h : Host) (text : String) : (Step.appendOutput text).take h =
    match h.output.append h.files text with
    | .ok (output, files) => ({ h with output, files }, .ok ())
    | .error e => (h, .error e) := by
  rw [Step.take, Host.appendOutput_eq]
  cases h.output.append h.files text <;> rfl

/-- The step that adds to the summary is adding to its sink. -/
theorem take_appendSummary (h : Host) (text : String) : (Step.appendSummary text).take h =
    match h.summary.append h.files text with
    | .ok (summary, files) => ({ h with summary, files }, .ok ())
    | .error e => (h, .error e) := by
  rw [Step.take, Host.appendSummary_eq]
  cases h.summary.append h.files text <;> rfl

/-- Adding to the outputs delivers to them, or fails. -/
theorem outcome_appendOutput (h : Host) (text : String) :
    Outcome o .output text h ((Step.appendOutput text).take h) := by
  rw [take_appendOutput]
  refine outcome_append (fun output files => { h with output, files }) rfl (by simp)
    (fun _ _ => rfl) (fun _ _ => rfl) ?_
  rintro s fs (_ | _ | _ | _) hne
  case output => exact absurd rfl hne
  all_goals rfl

/-- Adding to the summary delivers to it, or fails. -/
theorem outcome_appendSummary (h : Host) (text : String) :
    Outcome o .summary text h ((Step.appendSummary text).take h) := by
  rw [take_appendSummary]
  refine outcome_append (fun summary files => { h with summary, files }) rfl (by simp)
    (fun _ _ => rfl) (fun _ _ => rfl) ?_
  rintro s fs (_ | _ | _ | _) hne
  case summary => exact absurd rfl hne
  all_goals rfl

/-- Printing delivers to the standard output, or fails with a proper beginning of the text printed.
-/
theorem outcome_print (h : Host) (text : String) :
    Outcome o .stdout text h ((Step.print text).take h) := by
  have hother : ∀ stdout, ∀ c' ≠ Channel.stdout, c'.sink o { h with stdout } = c'.sink o h := by
    rintro stdout (_ | _ | _ | _) hne
    case stdout => exact absurd rfl hne
    all_goals rfl
  have hcases := h.stdout.write_cases text
  rw [Step.take, Host.print]
  generalize h.stdout.write text = written at hcases ⊢
  obtain ⟨stdout, done⟩ := written
  rcases hcases with ⟨hdone, htaken⟩ | ⟨hdone, part, hprefix, hne, htaken⟩
  · obtain rfl : done = true := hdone
    refine .delivered ⟨?_, hother stdout⟩
    show Sink.Stores h.files (h.stdout.taken ++ text) (.memory h.stdout.taken)
      (.memory stdout.taken) h.files
    rw [htaken]
    exact .memory h.stdout.taken
  · obtain rfl : done = false := hdone
    have hopen : Channel.stdout.IsConfigured o h := by simp [Channel.IsConfigured, Channel.sink]
    refine .broken ⟨hopen, ?_⟩ ⟨.closed, rfl⟩
    rw [if_pos rfl]
    exact ⟨stdout, part, rfl, hprefix, hne, htaken⟩

/-- A step delivers its text to its channel, or it fails. -/
theorem outcome_take (hstep : c.step? o text = some step) (h : Host) :
    Outcome o c text h (step.take h) := by
  cases c with
  | exportFile =>
    obtain ⟨path, hpath, rfl⟩ := Option.map_eq_some_iff.mp hstep
    exact outcome_replaceFile hpath h text
  | output =>
    obtain rfl := Option.some.inj hstep
    exact outcome_appendOutput h text
  | summary =>
    obtain rfl := Option.some.inj hstep
    exact outcome_appendSummary h text
  | stdout =>
    obtain rfl := Option.some.inj hstep
    exact outcome_print h text

/-- A channel that gets no step leads nowhere. -/
theorem not_isConfigured_of_step? (hstep : c.step? o text = none) (h : Host) :
    ¬c.IsConfigured o h := by
  cases c with
  | exportFile =>
    have hpath : o.exportPath = none := Option.map_eq_none_iff.mp hstep
    rw [Channel.IsConfigured, Channel.sink, hpath]
    simp
  | output => simp [Channel.step?] at hstep
  | summary => simp [Channel.step?] at hstep
  | stdout => simp [Channel.step?] at hstep

/-! ## All steps -/

/-- The steps that deliver a text to each of some channels. -/
def Instructions.deliveries (o : Instructions) (texts : Channel → String) (cs : List Channel) :
    List Step :=
  cs.filterMap fun c => c.step? o (texts c)

theorem Instructions.deliveries_cons (o : Instructions) (texts : Channel → String) (c : Channel)
    (rest : List Channel) : o.deliveries texts (c :: rest) =
      (c.step? o (texts c)).toList ++ o.deliveries texts rest := by
  rw [deliveries, List.filterMap_cons]
  cases c.step? o (texts c) <;> rfl

/-- Texts have been delivered to some channels, and nothing to the others. -/
structure Completes (o : Instructions) (texts : Channel → String) (done : List Channel)
    (h h' : Host) : Prop where
  /-- The channels lead where they led. -/
  path?_eq : ∀ c : Channel, (c.sink o h').path? = (c.sink o h).path?
  isConfigured_iff : ∀ c : Channel, c.IsConfigured o h' ↔ c.IsConfigured o h
  sameDirectories : h.files.SameDirectories h'.files
  /-- What has been delivered is there as a whole. -/
  holds_of_mem : ∀ c ∈ done, c.IsConfigured o h →
    c.holds? o h' = some (c.contentAfter (c.holds? o h) (texts c))
  holds_of_not_mem : ∀ c ∉ done, c.holds? o h' = c.holds? o h

variable {texts : Channel → String} {done : List Channel}

theorem Completes.refl (o : Instructions) (texts : Channel → String) (h : Host) :
    Completes o texts [] h h where
  path?_eq _ := rfl
  isConfigured_iff _ := Iff.rfl
  sameDirectories _ := Iff.rfl
  holds_of_mem := by simp
  holds_of_not_mem _ _ := rfl

/-- Channels that do not share a file before a delivery do not share one after it. -/
theorem Completes.distinct (hcompletes : Completes o texts done h h') (hdistinct : o.Distinct h) :
    o.Distinct h' := by
  intro c c' hne path path' hpath hpath'
  rw [hcompletes.path?_eq] at hpath hpath'
  exact (hdistinct c c' hne path path' hpath hpath').of_sameDirectories hcompletes.sameDirectories

/-- An error calls a channel the same after a delivery as before. -/
theorem Completes.target_eq (hcompletes : Completes o texts done h h') (c : Channel) :
    c.target o h' = c.target o h := by
  rw [Channel.target, Channel.target, hcompletes.path?_eq]

/-- A channel that leads nowhere has been served if nothing is done. -/
theorem Completes.of_not_isConfigured (hclosed : ¬c.IsConfigured o h) :
    Completes o texts [c] h h where
  path?_eq _ := rfl
  isConfigured_iff _ := Iff.rfl
  sameDirectories _ := Iff.rfl
  holds_of_mem _ hmem hopen := absurd (List.mem_singleton.mp hmem ▸ hopen) hclosed
  holds_of_not_mem _ _ := rfl

/-- A delivery to one channel leaves the others alone, because none of them writes to its file. -/
theorem Delivers.completes (hdelivers : Delivers o c (texts c) h h') (hdistinct : o.Distinct h) :
    Completes o texts [c] h h' where
  path?_eq c' := by
    by_cases hc : c' = c
    · rw [hc]
      exact hdelivers.stores.path?_eq
    · rw [hdelivers.sink_of_ne c' hc]
  isConfigured_iff c' := by
    by_cases hc : c' = c
    · rw [hc]
      exact not_congr hdelivers.stores.eq_closed_iff
    · rw [Channel.IsConfigured, hdelivers.sink_of_ne c' hc]
      exact Iff.rfl
  sameDirectories := hdelivers.stores.sameDirectories
  holds_of_mem c' hmem hopen := by
    obtain rfl : c' = c := List.mem_singleton.mp hmem
    exact hdelivers.stores.read?_self hopen
  holds_of_not_mem c' hmem := by
    have hc : c' ≠ c := fun heq => hmem (List.mem_singleton.mpr heq)
    rw [Channel.holds?, hdelivers.sink_of_ne c' hc]
    exact hdelivers.stores.read?_of_apart (hdistinct c c' (Ne.symm hc))

/-- Deliveries to different channels do not interfere. -/
theorem Completes.append {more : List Channel} (hfirst : Completes o texts done h mid)
    (hmore : Completes o texts more mid h') (hdisjoint : done.Disjoint more) :
    Completes o texts (done ++ more) h h' where
  path?_eq c := (hmore.path?_eq c).trans (hfirst.path?_eq c)
  isConfigured_iff c := (hmore.isConfigured_iff c).trans (hfirst.isConfigured_iff c)
  sameDirectories location :=
    (hmore.sameDirectories location).trans (hfirst.sameDirectories location)
  holds_of_mem c hmem hopen := by
    by_cases hc : c ∈ done
    · rw [hmore.holds_of_not_mem c (hdisjoint hc)]
      exact hfirst.holds_of_mem c hc hopen
    · have hc' : c ∈ more := (List.mem_append.mp hmem).resolve_left hc
      rw [hmore.holds_of_mem c hc' ((hfirst.isConfigured_iff c).mpr hopen),
        hfirst.holds_of_not_mem c hc]
  holds_of_not_mem c hmem := by
    rw [List.mem_append, not_or] at hmem
    rw [hmore.holds_of_not_mem c hmem.2, hfirst.holds_of_not_mem c hmem.1]

/-- What comes of the deliveries to some channels. -/
inductive Outcomes (o : Instructions) (texts : Channel → String) (cs : List Channel) (h : Host) :
    Host × Except EnvironmentError Unit → Prop
  | completed {h' : Host} (hcompletes : Completes o texts cs h h') :
      Outcomes o texts cs h (h', .ok ())
  /-- Those to the channels before the one that fails are complete. -/
  | broken {done later : List Channel} {failing : Channel} {mid h' : Host} {e : EnvironmentError}
      (hcs : cs = done ++ failing :: later) (hcompletes : Completes o texts done h mid)
      (hbreaks : Breaks o failing (texts failing) mid h')
      (herror : ∃ cause, e = .cannotWrite (failing.target o h) cause) :
      Outcomes o texts cs h (h', .error e)

/-- Deliveries are made one after the other, up to the first that fails. -/
theorem carryOut_deliveries (texts : Channel → String) {cs : List Channel} (hnodup : cs.Nodup)
    {h : Host} (hdistinct : o.Distinct h) :
    Outcomes o texts cs h (carryOut (o.deliveries texts cs) h) := by
  induction cs generalizing h with
  | nil => exact .completed (.refl o texts h)
  | cons c rest ih =>
    obtain ⟨hc, hrest⟩ := List.nodup_cons.mp hnodup
    have hdisjoint : [c].Disjoint rest := List.disjoint_cons_left.mpr ⟨hc, List.disjoint_nil_left _⟩
    -- Once the channel is served, the others are served from there.
    have hgoOn : ∀ mid, Completes o texts [c] h mid →
        Outcomes o texts (c :: rest) h (carryOut (o.deliveries texts rest) mid) := by
      intro mid hfirst
      have hlater := ih hrest (hfirst.distinct hdistinct)
      generalize carryOut (o.deliveries texts rest) mid = outcome at hlater ⊢
      cases hlater with
      | completed hcompletes => exact .completed (hfirst.append hcompletes hdisjoint)
      | @broken done later failing mid' h' e hcs hcompletes hbreaks herror =>
        rw [hfirst.target_eq] at herror
        rw [hcs] at hdisjoint ⊢
        have hdone : [c].Disjoint done :=
          List.disjoint_of_subset_right (List.subset_append_left _ _) hdisjoint
        exact .broken rfl (hfirst.append hcompletes hdone) hbreaks herror
    rw [Instructions.deliveries_cons]
    cases hstep : c.step? o (texts c) with
    | none => exact hgoOn h (.of_not_isConfigured (not_isConfigured_of_step? hstep h))
    | some step =>
      rw [Option.toList_some, List.singleton_append, carryOut]
      have htake := outcome_take hstep h
      generalize step.take h = outcome at htake ⊢
      cases htake with
      | delivered hdelivers => exact hgoOn _ (hdelivers.completes hdistinct)
      | broken hbreaks herror =>
        have hcs : c :: rest = [] ++ c :: rest := rfl
        exact .broken hcs (.refl o texts h) hbreaks herror

end TestMatrix

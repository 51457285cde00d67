import TestMatrix.Proofs.Delivery.Channels
import TestMatrix.Proofs.Text.Utf8

/-!
# Hosts in memory

A host that keeps in memory what is appended stands for one that appends to files. What a call is
answered, and what it adds to the outputs and to the summary, can be said without a host
(`Call.answer`, `Call.outputs`, `Call.summary`), and every host that takes all that is appended does
just that (`Host.Holds.call`). So two such hosts give the same answers to any calls and add the same
texts to what they held (`memory_stands_for_files`).

The values of the variables may come as texts or in bytes. A host only looks at their texts, and the
bytes of a text are read as that text (`Variables.Spell.text?_eq`).
-/

namespace TestMatrix

/-! ## Variables -/

/-- The value stands for the text, as a text or in its bytes. -/
inductive VariableValue.Spells (s : String) : VariableValue → Prop
  | text : Spells s (.text s)
  | bytes : Spells s (.bytes (Text.bytes s))

/-- A value says the text that it stands for, also where it comes in bytes. -/
theorem VariableValue.Spells.text?_eq {s : String} {value : VariableValue} (h : value.Spells s) :
    value.text? = some s := by
  cases h with
  | text => rfl
  | bytes => exact Text.ofUtf8?_bytes s

namespace Variables

variable {texts : List (String × String)} {vars vars' : Variables} {name : String}

/-- The variables with these texts as their values. -/
def ofTexts (texts : List (String × String)) : Variables :=
  texts.map fun entry => (entry.1, .text entry.2)

/-- The variables have the given names, and their values stand for the given texts. -/
def Spell (texts : List (String × String)) (vars : Variables) : Prop :=
  List.Forall₂ (fun entry v => v.1 = entry.1 ∧ v.2.Spells entry.2) texts vars

/-- Texts stand for themselves. -/
theorem spell_ofTexts (texts : List (String × String)) : Spell texts (ofTexts texts) := by
  rw [Spell, ofTexts, List.forall₂_map_right_iff, List.forall₂_same]
  exact fun entry _ => ⟨rfl, .text⟩

/-- What a variable says is its text, in whichever form it comes. -/
theorem Spell.text?_eq (h : Spell texts vars) : vars.text? name = texts.lookup name := by
  induction h with
  | nil => rfl
  | @cons entry v texts vars hentry _ ih =>
    obtain ⟨entryName, text⟩ := entry
    obtain ⟨varName, value⟩ := v
    obtain ⟨rfl, hspells⟩ : varName = entryName ∧ value.Spells text := hentry
    rw [text?, List.lookup_cons, List.lookup_cons]
    cases name == varName with
    | false => exact ih
    | true => exact hspells.text?_eq

/-- The variables say the same about a run. -/
structure Agree (vars vars' : Variables) : Prop where
  seedText?_eq : vars'.seedText? = vars.seedText?
  pullRequest?_eq : vars'.pullRequest? = vars.pullRequest?
  jobs?_eq : vars'.jobs? = vars.jobs?
  repository?_eq : vars'.repository? = vars.repository?

/-- What variables say about a run depends on nothing but their texts. -/
theorem Agree.of_text? (h : ∀ name, vars'.text? name = vars.text? name) : Agree vars vars' := by
  have hfilled : vars'.filled? = vars.filled? := funext fun name => by rw [filled?, filled?, h]
  refine ⟨?_, ?_, ?_, ?_⟩
  · rw [seedText?, seedText?, hfilled]
  · rw [pullRequest?, pullRequest?, hfilled]
  · rw [jobs?, jobs?, hfilled]
  · rw [repository?, repository?, hfilled]

end Variables

/-! ## Two sinks -/

/-- A file that can be read is at a place. -/
theorem Files.exists_locate_of_read? {fs : Files} {path content : String}
    (h : fs.read? path = some content) : ∃ location, fs.locate path = .ok location := by
  rw [read?] at h
  cases hlocate : fs.locate path with
  | ok location => exact ⟨location, rfl⟩
  | error cause => simp [hlocate] at h

namespace Sink

variable {s s' t : Sink} {fs fs' : Files} {a b text path : String}

/-- A sink that holds something is open. -/
theorem ne_closed_of_read? (h : s.read? fs = some a) : s ≠ .closed := by
  rintro rfl
  simp [read?] at h

/-- If it leads to a file, the path of that file can be followed. -/
theorem exists_locate_of_read? (h : s.read? fs = some a) (hpath : s.path? = some path) :
    ∃ location, fs.locate path = .ok location := by
  cases s with
  | closed => simp [path?] at hpath
  | memory old => simp [path?] at hpath
  | file path' =>
    obtain rfl : path' = path := Option.some.inj hpath
    exact Files.exists_locate_of_read? h

/-- A sink that holds something and has no path keeps it in memory. -/
theorem eq_memory_of_path? (hpath : s.path? = none) (h : s.read? fs = some a) : s = .memory a := by
  cases s with
  | closed => simp [read?] at h
  | memory old => rw [Option.some.inj h]
  | file path => simp [path?] at hpath

/-- A sink with a path leads to the file there. -/
theorem eq_file_of_path? (hpath : s.path? = some path) : s = .file path := by
  cases s with
  | closed => simp [path?] at hpath
  | memory old => simp [path?] at hpath
  | file path' => rw [Option.some.inj hpath]

/-- Two sinks that take all that is appended, not both in the same file, and what they hold. -/
structure Hold (fs : Files) (s t : Sink) (a b : String) : Prop where
  left : s.read? fs = some a
  right : t.read? fs = some b
  apart : ∀ path path', s.path? = some path → t.path? = some path' → fs.Apart path path'

theorem Hold.symm (h : Hold fs s t a b) : Hold fs t s b a where
  left := h.right
  right := h.left
  apart path path' hpath hpath' location hlocate hlocate' :=
    h.apart path' path hpath' hpath location hlocate' hlocate

/-- What is appended to one of them does not show in the other. -/
theorem Hold.append (h : Hold fs s t a b) (text : String) :
    ∃ s' fs', s.append fs text = .ok (s', fs') ∧ s'.path? = s.path? ∧
      Hold fs' s' t (a ++ text) b := by
  obtain ⟨s', fs', happend⟩ :=
    exists_append_iff.mpr fun _ hpath => exists_locate_of_read? h.left hpath
  have hstores := stores_append happend
  rw [h.left, Option.getD_some] at hstores
  refine ⟨s', fs', happend, hstores.path?_eq, ?_, ?_, ?_⟩
  · exact hstores.read?_self (ne_closed_of_read? h.left)
  · rw [hstores.read?_of_apart h.apart]
    exact h.right
  · intro path path' hpath hpath'
    rw [hstores.path?_eq] at hpath
    exact (h.apart path path' hpath hpath').of_sameDirectories hstores.sameDirectories

end Sink

/-! ## Calls -/

/-- What a host can be asked to append. -/
inductive Call where
  /-- A value among the outputs. -/
  | setOutput (key value : String)
  /-- A text at the end of the summary. -/
  | appendSummary (text : String)
deriving DecidableEq

namespace Call

/-- What a host that takes all that is appended answers: only a value that holds its delimiter is
refused. -/
def answer : Call → Except EnvironmentError Bool
  | .setOutput key value => (OutputBlock.render key value).map fun _ => true
  | .appendSummary _ => .ok true

/-- What is added to the outputs; a value that is refused adds nothing. -/
def outputs : Call → String
  | .setOutput key value => (OutputBlock.render key value).toOption.getD ""
  | .appendSummary _ => ""

/-- What is added to the summary. -/
def summary : Call → String
  | .setOutput _ _ => ""
  | .appendSummary text => text

end Call

namespace Host

variable {h mid h' : Host} {outputs summary : String}

/-- Makes a call. -/
def call (h : Host) : Call → Host × Except EnvironmentError Bool
  | .setOutput key value => h.setOutput key value
  | .appendSummary text => h.appendSummary text

/-- Makes one call after the other, whatever the answers, and gives these in order. -/
def perform (h : Host) : List Call → Host × List (Except EnvironmentError Bool)
  | [] => (h, [])
  | c :: rest =>
    let (h, answer) := h.call c
    let (h, answers) := h.perform rest
    (h, answer :: answers)

/-- The host takes all that is appended, and this is what it holds. -/
def Holds (h : Host) (outputs summary : String) : Prop :=
  Sink.Hold h.files h.output h.summary outputs summary

/-- The variables are the same, and the sinks lead where they led. -/
structure SamePlaces (h h' : Host) : Prop where
  vars_eq : h'.vars = h.vars
  output_path? : h'.output.path? = h.output.path?
  summary_path? : h'.summary.path? = h.summary.path?

theorem SamePlaces.refl (h : Host) : h.SamePlaces h := ⟨rfl, rfl, rfl⟩

theorem SamePlaces.trans (hfirst : h.SamePlaces mid) (hsecond : mid.SamePlaces h') :
    h.SamePlaces h' where
  vars_eq := hsecond.vars_eq.trans hfirst.vars_eq
  output_path? := hsecond.output_path?.trans hfirst.output_path?
  summary_path? := hsecond.summary_path?.trans hfirst.summary_path?

/-- An output is checked and then appended. -/
theorem setOutput_eq (hopen : h.output ≠ .closed) (key value : String) :
    h.setOutput key value = match OutputBlock.render key value with
      | .ok block => h.appendOutput block
      | .error e => (h, .error e) := by
  rw [setOutput]
  split
  · next hclosed => exact absurd hclosed hopen
  · rfl

/-- Adding to the outputs succeeds, and adds to nothing else. -/
theorem Holds.appendOutput (hholds : h.Holds outputs summary) (text : String) :
    ∃ h', h.appendOutput text = (h', .ok true) ∧ h.SamePlaces h' ∧
      h'.Holds (outputs ++ text) summary := by
  obtain ⟨output, files, happend, hpath, hhold⟩ := Sink.Hold.append hholds text
  have hopen := Sink.ne_closed_of_read? hholds.left
  refine ⟨{ h with output, files }, ?_, ⟨rfl, hpath, rfl⟩, hhold⟩
  rw [appendOutput_eq, happend]
  simp [hopen]

/-- Adding to the summary succeeds, and adds to nothing else. -/
theorem Holds.appendSummary (hholds : h.Holds outputs summary) (text : String) :
    ∃ h', h.appendSummary text = (h', .ok true) ∧ h.SamePlaces h' ∧
      h'.Holds outputs (summary ++ text) := by
  obtain ⟨summary, files, happend, hpath, hhold⟩ := Sink.Hold.append hholds.symm text
  have hopen := Sink.ne_closed_of_read? hholds.right
  refine ⟨{ h with summary, files }, ?_, ⟨rfl, rfl, hpath⟩, hhold.symm⟩
  rw [appendSummary_eq, happend]
  simp [hopen]

/-- A call is answered, and adds to the outputs and the summary, without regard to where they go. -/
theorem Holds.call (hholds : h.Holds outputs summary) (c : Call) :
    (h.call c).2 = c.answer ∧ h.SamePlaces (h.call c).1 ∧
      (h.call c).1.Holds (outputs ++ c.outputs) (summary ++ c.summary) := by
  cases c with
  | setOutput key value =>
    rw [Host.call, Call.answer, Call.outputs, Call.summary, String.append_empty,
      setOutput_eq (Sink.ne_closed_of_read? hholds.left)]
    cases OutputBlock.render key value with
    | error e =>
      -- The value is refused, and the host is left with what it held.
      refine ⟨rfl, .refl h, ?_⟩
      show h.Holds (outputs ++ "") summary
      rwa [String.append_empty]
    | ok block =>
      obtain ⟨h', happend, hsame, hholds'⟩ := hholds.appendOutput block
      dsimp only
      rw [happend]
      exact ⟨rfl, hsame, hholds'⟩
  | appendSummary text =>
    obtain ⟨h', happend, hsame, hholds'⟩ := hholds.appendSummary text
    rw [Host.call, Call.answer, Call.outputs, Call.summary, String.append_empty, happend]
    exact ⟨rfl, hsame, hholds'⟩

/-- So do any calls, one after the other. -/
theorem Holds.perform (hholds : h.Holds outputs summary) (calls : List Call) :
    (h.perform calls).2 = calls.map Call.answer ∧ h.SamePlaces (h.perform calls).1 ∧
      (h.perform calls).1.Holds (outputs ++ String.join (calls.map Call.outputs))
        (summary ++ String.join (calls.map Call.summary)) := by
  induction calls generalizing h outputs summary with
  | nil =>
    refine ⟨rfl, .refl h, ?_⟩
    show h.Holds (outputs ++ "") (summary ++ "")
    rwa [String.append_empty, String.append_empty]
  | cons c rest ih =>
    obtain ⟨hanswer, hsame, hholds'⟩ := hholds.call c
    -- What the first call leaves holds its texts too, so the other calls add behind them.
    obtain ⟨hanswers, hsames, hrest⟩ := ih hholds'
    rw [String.append_assoc, String.append_assoc] at hrest
    refine ⟨congrArg₂ List.cons hanswer hanswers, hsame.trans hsames, ?_⟩
    rw [List.map_cons, List.map_cons, String.join_cons, String.join_cons]
    exact hrest

/-- A new host in memory holds nothing yet. -/
theorem holds_ofMemory (vars : Variables) : (ofMemory vars).Holds "" "" :=
  ⟨rfl, rfl, by simp [ofMemory, Sink.path?]⟩

end Host

/-- A host in memory and one that appends to two files answer any calls alike, and what is added to
the files is what is kept in memory. Their variables tell both the same. -/
theorem memory_stands_for_files {texts : List (String × String)} {h : Host}
    {outputPath summaryPath oldOutputs oldSummary : String} (hvars : h.vars.Spell texts)
    (houtput : h.output = .file outputPath) (hsummary : h.summary = .file summaryPath)
    (hapart : h.files.Apart outputPath summaryPath)
    (holdOutputs : h.files.read? outputPath = some oldOutputs)
    (holdSummary : h.files.read? summaryPath = some oldSummary) (calls : List Call) :
    let memory := (Host.ofMemory (.ofTexts texts)).perform calls
    let files := h.perform calls
    files.2 = memory.2 ∧ memory.2 = calls.map Call.answer ∧
      (∃ outputs summary, memory.1.output = .memory outputs ∧ memory.1.summary = .memory summary ∧
        files.1.files.read? outputPath = some (oldOutputs ++ outputs) ∧
        files.1.files.read? summaryPath = some (oldSummary ++ summary) ∧
        outputs = String.join (calls.map Call.outputs) ∧
        summary = String.join (calls.map Call.summary)) ∧
      memory.1.vars.Agree files.1.vars := by
  intro memory files
  have hfiles : h.Holds oldOutputs oldSummary := by
    refine ⟨?_, ?_, ?_⟩
    · rw [houtput]
      exact holdOutputs
    · rw [hsummary]
      exact holdSummary
    · simpa [houtput, hsummary, Sink.path?] using hapart
  -- Both hosts take all that is appended, and the calls do the same to any such host.
  obtain ⟨hanswers, hsame, hholds⟩ := (Host.holds_ofMemory (.ofTexts texts)).perform calls
  obtain ⟨hanswers', hsame', hholds'⟩ := hfiles.perform calls
  rw [String.empty_append, String.empty_append] at hholds
  refine ⟨hanswers'.trans hanswers.symm, hanswers,
    ⟨_, _, Sink.eq_memory_of_path? hsame.output_path? hholds.left,
      Sink.eq_memory_of_path? hsame.summary_path? hholds.right, ?_, ?_, rfl, rfl⟩, ?_⟩
  · have hread := hholds'.left
    rwa [Sink.eq_file_of_path? (hsame'.output_path?.trans (by rw [houtput]; rfl))] at hread
  · have hread := hholds'.right
    rwa [Sink.eq_file_of_path? (hsame'.summary_path?.trans (by rw [hsummary]; rfl))] at hread
  · refine .of_text? fun name => ?_
    rw [hsame.vars_eq, hsame'.vars_eq, hvars.text?_eq]
    exact (Variables.spell_ofTexts texts).text?_eq.symm

/-- A value that holds its delimiter is refused between two calls that are not, and a variable comes
in bytes. -/
theorem memory_stands_for_files_refused :
    let texts := [("GITHUB_REF", "refs/pull/ß7/merge"), ("MATRIX_JOBS", "many")]
    let h : Host := {
      vars := [("GITHUB_REF", .bytes (Text.bytes "refs/pull/ß7/merge")),
        ("MATRIX_JOBS", .text "many")]
      output := .file "out"
      summary := .file "./summary"
      files := ⟨[(["out"], .file "a=1\n"), (["summary"], .file "")]⟩ }
    let calls := [.setOutput "matrix" "\x7b\x7d", .setOutput "key" "\r\nKEY_BODY",
      .appendSummary "# Seed\n"]
    let memory := (Host.ofMemory (.ofTexts texts)).perform calls
    let files := h.perform calls
    (h.vars.Spell texts ∧ h.files.Apart "out" "./summary" ∧
      h.files.read? "out" = some "a=1\n" ∧ h.files.read? "./summary" = some "") ∧
    memory.2 = [.ok true, .error (.delimiterInValue "key" "KEY_BODY"), .ok true] ∧
    files.2 = memory.2 ∧
    memory.1.output = .memory "matrix<<MATRIX_BODY\n\x7b\x7d\nMATRIX_BODY\n" ∧
    memory.1.summary = .memory "# Seed\n" ∧
    files.1.files.read? "out" = some "a=1\nmatrix<<MATRIX_BODY\n\x7b\x7d\nMATRIX_BODY\n" ∧
    files.1.files.read? "./summary" = some "# Seed\n" ∧
    memory.1.vars.Agree files.1.vars ∧ memory.1.vars.pullRequest? = some "ß7" := by
  intro texts h calls memory files
  have hvars : h.vars.Spell texts := .cons ⟨rfl, .bytes⟩ (.cons ⟨rfl, .text⟩ .nil)
  have hapart : h.files.Apart "out" "./summary" := by
    have houtput : h.files.locate "out" = .ok ["out"] := rfl
    have hsummary : h.files.locate "./summary" = .ok ["summary"] := rfl
    intro location hlocate
    rw [houtput] at hlocate
    rw [hsummary, ← Except.ok.inj hlocate]
    simp
  have holdOutputs : h.files.read? "out" = some "a=1\n" := by decide +kernel
  have holdSummary : h.files.read? "./summary" = some "" := by decide +kernel
  have hanswers : calls.map Call.answer =
      [.ok true, .error (.delimiterInValue "key" "KEY_BODY"), .ok true] := by decide +kernel
  have houtputs : String.join (calls.map Call.outputs) =
      "matrix<<MATRIX_BODY\n\x7b\x7d\nMATRIX_BODY\n" := by decide +kernel
  have hsummaries : String.join (calls.map Call.summary) = "# Seed\n" := by decide +kernel
  obtain ⟨hsame, hmemory,
    ⟨outputs, summary, houtput, hsummary, hreadOutput, hreadSummary, rfl, rfl⟩, hagree⟩ :=
    memory_stands_for_files hvars rfl rfl hapart holdOutputs holdSummary calls
  rw [houtputs] at houtput hreadOutput
  rw [hsummaries] at hsummary hreadSummary
  exact ⟨⟨hvars, hapart, holdOutputs, holdSummary⟩, hmemory.trans hanswers, hsame, houtput,
    hsummary, hreadOutput, hreadSummary, hagree, by decide +kernel⟩

end TestMatrix

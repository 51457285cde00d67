import TestMatrix.Files
import TestMatrix.OutputBlock
import TestMatrix.Run
import TestMatrix.Seed

/-!
# Delivering a matrix

A matrix is delivered to up to four places: a file of its own, the output and the summary of the
workflow step, and the standard output, in this order. `prepare` does everything that can go wrong
besides writing: it makes the matrix and all the texts, and gives them as a list of steps.
`carryOut` takes the steps one after the other on a `Host` and stops at the first that fails. So a
run that fails before it delivers has written nothing, and one that fails while it delivers has done
the steps before the failing one and none after it.
-/

namespace TestMatrix

/-! ## Hosts -/

/-- Where a text of the workflow step goes. -/
inductive Sink where
  /-- Nowhere. -/
  | closed
  /-- To the end of a text that is kept. -/
  | memory (text : String)
  /-- To the end of a file. -/
  | file (path : String)
deriving DecidableEq, Repr, Inhabited

/-- The path of the file that a sink appends to. -/
def Sink.path? : Sink → Option String
  | .file path => some path
  | _ => none

/-- The standard output: what it has taken, and how many more bytes it takes if there is a limit. -/
structure StandardOutput where
  /-- The bytes that it still takes. -/
  room : Option Nat := none
  /-- What it has taken. -/
  taken : String := ""
deriving DecidableEq, Repr, Inhabited

/-- The longest beginning of a text that fits into `room` bytes. -/
def fitting (room : Nat) : List Char → List Char
  | [] => []
  | c :: rest => if c.utf8Size ≤ room then c :: fitting (room - c.utf8Size) rest else []

/-- Writes a text to the standard output, which fails if not all of it is taken. -/
def StandardOutput.write (out : StandardOutput) (text : String) : StandardOutput × Bool :=
  match out.room with
  | none => ({ out with taken := out.taken ++ text }, true)
  | some room =>
    if text.utf8ByteSize ≤ room then
      ({ room := some (room - text.utf8ByteSize), taken := out.taken ++ text }, true)
    else
      let part := String.ofList (fitting room text.toList)
      ({ room := some 0, taken := out.taken ++ part }, false)

/-- All that a run can see and change. -/
structure Host where
  /-- The variables of the workflow. -/
  vars : Variables := []
  /-- Where outputs of the workflow step go. -/
  output : Sink := .closed
  /-- Where the summary of the workflow step goes. -/
  summary : Sink := .closed
  /-- The files. -/
  files : Files := {}
  /-- The standard output. -/
  stdout : StandardOutput := {}
deriving Inhabited

/-! An operation on a host gives the host that it leaves, also where it fails. -/

namespace Host

/-- A host that keeps what is appended. -/
def ofMemory (vars : Variables) : Host :=
  { vars, output := .memory "", summary := .memory "" }

/-- A host that appends to the files which its variables name. -/
def ofVariables (vars : Variables) (files : Files) : Host where
  vars := vars
  output := match vars.outputPath? with
    | some path => .file path
    | none => .closed
  summary := match vars.summaryPath? with
    | some path => .file path
    | none => .closed
  files := files

/-- Adds a text to the outputs; the answer says whether they go anywhere. -/
def appendOutput (h : Host) (text : String) : Host × Except EnvironmentError Bool :=
  match h.output with
  | .closed => (h, .ok false)
  | .memory old => ({ h with output := .memory (old ++ text) }, .ok true)
  | .file path =>
    match h.files.append path text with
    | .ok files => ({ h with files }, .ok true)
    | .error e => (h, .error e)

/-- Adds a text to the summary; the answer says whether it goes anywhere. -/
def appendSummary (h : Host) (text : String) : Host × Except EnvironmentError Bool :=
  match h.summary with
  | .closed => (h, .ok false)
  | .memory old => ({ h with summary := .memory (old ++ text) }, .ok true)
  | .file path =>
    match h.files.append path text with
    | .ok files => ({ h with files }, .ok true)
    | .error e => (h, .error e)

/-- Adds the block of a key and a value to the outputs, if they go anywhere. -/
def setOutput (h : Host) (key value : String) : Host × Except EnvironmentError Bool :=
  match h.output with
  | .closed => (h, .ok false)
  | _ =>
    match OutputBlock.render key value with
    | .ok block => h.appendOutput block
    | .error e => (h, .error e)

/-- Publishes a document among the outputs. -/
def publish (h : Host) (d : Document) : Host × Except EnvironmentError Bool :=
  h.setOutput Document.key d.compact

/-- Writes a text to the standard output. -/
def print (h : Host) (text : String) : Host × Except EnvironmentError Unit :=
  let (stdout, done) := h.stdout.write text
  ({ h with stdout }, if done then .ok () else .error (.cannotWrite "stdout" .closed))

end Host

/-! ## Preparation -/

/-- What a run is asked to do. What is left open is taken from the environment. -/
structure Instructions where
  /-- The text of the seed. -/
  seed : Option String := none
  /-- How many rows are added to those of the goals. -/
  jobs : Option Nat := none
  /-- The repository that the matrix is for. -/
  repository : Option String := none
  /-- The file that gets the indented document. -/
  exportPath : Option String := none
  /-- Whether it is an error if a goal cannot be met. -/
  strict : Bool := false
  /-- How much may be searched for one row. -/
  budget : Budget := {}
  /-- Whether the document is printed on one line. -/
  json : Bool := false
deriving Inhabited

/-- Why a run fails. -/
inductive RunError where
  /-- The matrix cannot be made. -/
  | plan (e : PlanError)
  /-- The environment cannot be read or written. -/
  | environment (e : EnvironmentError)

/-- The wording of the error. -/
def RunError.message : RunError → String
  | .plan e => e.message
  | .environment e => e.message

/-- The wording of the error with its causes. -/
def RunError.fullMessage : RunError → String
  | .plan e => e.message
  | .environment e => e.fullMessage

/-- One delivery. -/
inductive Step where
  /-- A text becomes the content of a file. -/
  | replaceFile (path text : String)
  /-- A text is added to the outputs. -/
  | appendOutput (text : String)
  /-- A text is added to the summary. -/
  | appendSummary (text : String)
  /-- A text is printed. -/
  | print (text : String)
deriving DecidableEq, Repr, Inhabited

/-- A matrix that is ready to be delivered. -/
structure Shipment where
  /-- The seed that the matrix was made from. -/
  seed : Seed
  /-- The matrix. -/
  report : Report
  /-- What is left to do. -/
  steps : List Step
deriving Inhabited

/-- The summary of a run: its seed, how to repeat it, and the names of the jobs. -/
def summaryText (seed : Seed) (d : Document) : String :=
  String.join (
    ["### Test matrix\n\n",
      "- Seed: `", seed.valueText, "` (", seed.origin.text, ")\n",
      "- Reproduce locally: `", seed.asVariable, " cargo run -p matrix_gen`\n",
      "- Jobs: ", String.ofList (Nat.toDigits 10 d.jobs.length), "\n\n"] ++
    d.names.map fun name => "- " ++ name ++ "\n")

namespace Instructions

/-- The number of rows that is asked for. -/
def jobsIn (o : Instructions) (vars : Variables) : Except EnvironmentError Nat :=
  match o.jobs with
  | some jobs => .ok jobs
  | none => vars.jobs?.map fun jobs => jobs.getD defaultJobs

/-- What the matrix is made from. -/
def request (o : Instructions) (vars : Variables) (seed : Seed) :
    Except EnvironmentError Request := do
  let jobs ← o.jobsIn vars
  return {
    seed := seed.value
    jobs
    profile := .ofRepository (o.repository.or vars.repository?)
    strict := o.strict
    budget := o.budget }

/-- The document as it is printed. -/
def printed (o : Instructions) (d : Document) : String := if o.json then d.compact else d.pretty

/-- The steps that deliver a matrix, with the block of the outputs already made. -/
def stepsFor (o : Instructions) (seed : Seed) (d : Document) (block : String) : List Step :=
  (o.exportPath.map fun path => Step.replaceFile path d.pretty).toList ++
    [.appendOutput block, .appendSummary (summaryText seed d), .print (o.printed d ++ "\n")]

/-- Makes the matrix and all texts. -/
def prepare (o : Instructions) (vars : Variables) (fresh : UInt64) : Except RunError Shipment := do
  let seed := Seed.determine o.seed vars fresh
  let request ← (o.request vars seed).mapError .environment
  let report ← request.generate.mapError .plan
  let block ← (OutputBlock.render Document.key report.document.compact).mapError .environment
  return { seed, report, steps := o.stepsFor seed report.document block }

end Instructions

/-! ## Delivery -/

/-- Takes one step. -/
def Step.take (h : Host) : Step → Host × Except EnvironmentError Unit
  | .replaceFile path text =>
    match h.files.replace path text with
    | .ok files => ({ h with files }, .ok ())
    | .error e => (h, .error e)
  | .appendOutput text =>
    let (h, answer) := h.appendOutput text
    (h, answer.map fun _ => ())
  | .appendSummary text =>
    let (h, answer) := h.appendSummary text
    (h, answer.map fun _ => ())
  | .print text => h.print text

/-- Takes steps one after the other up to the first that fails. -/
def carryOut : List Step → Host → Host × Except EnvironmentError Unit
  | [], h => (h, .ok ())
  | step :: rest, h =>
    match step.take h with
    | (h, .ok ()) => carryOut rest h
    | (h, .error e) => (h, .error e)

/-- A whole run on a host. -/
def Instructions.follow (o : Instructions) (h : Host) (fresh : UInt64) :
    Host × Except RunError Report :=
  match o.prepare h.vars fresh with
  | .error e => (h, .error e)
  | .ok shipment =>
    match carryOut shipment.steps h with
    | (h, .ok ()) => (h, .ok shipment.report)
    | (h, .error e) => (h, .error (.environment e))

end TestMatrix

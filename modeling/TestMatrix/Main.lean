import TestMatrix.CommandLine

/-!
# The program

The outer layer of the program: it reads the variables of the process, draws the seed of a run that
has no other, and takes the steps of a delivery on the real files and the real standard output.
-/

namespace TestMatrix.Program

/-- The variables that the generator reads. -/
def variableNames : List String :=
  ["RNG_SEED", "GITHUB_REF", "GITHUB_PR_NUMBER", "MATRIX_JOBS", "GITHUB_REPOSITORY",
    "GITHUB_OUTPUT", "GITHUB_STEP_SUMMARY"]

/-- The variables of the process. -/
def readVariables : IO Variables :=
  variableNames.filterMapM fun name => do
    return (← IO.getEnv name).map fun value => (name, .text value)

/-- A seed that nothing determines. -/
def freshSeed : IO UInt64 := do
  let bytes ← IO.getRandomBytes 8
  return bytes.toList.foldl (fun seed b => seed * 256 + b.toUInt64) 0

/-- Why a file could not be written. -/
def causeOf : IO.Error → WriteError
  | .noFileOrDirectory .. => .notFound
  | .inappropriateType _ 20 _ => .notDirectory
  | .inappropriateType _ 21 _ => .isDirectory
  | .inappropriateType _ code details => .other (details ++ " (os error " ++ toString code ++ ")")
  | .permissionDenied _ code details => .other (details ++ " (os error " ++ toString code ++ ")")
  | e => .other (toString e)

/-- Writes something, and names the target if that fails. -/
def writing (target : String) (action : IO Unit) : IO (Except EnvironmentError Unit) :=
  tryCatch (action *> pure (.ok ())) fun e => pure (.error (.cannotWrite target (causeOf e)))

/-- Adds a text to where it goes. -/
def appendTo (sink : Sink) (text : String) : IO (Except EnvironmentError Unit) :=
  match sink with
  | .file path => writing path do
    let file ← IO.FS.Handle.mk path .append
    file.putStr text
  | _ => pure (.ok ())

/-- Takes one step of a delivery. -/
def takeStep (h : Host) : Step → IO (Except EnvironmentError Unit)
  | .replaceFile path text => writing path (IO.FS.writeFile path text)
  | .appendOutput text => appendTo h.output text
  | .appendSummary text => appendTo h.summary text
  | .print text => writing "stdout" do
    let stdout ← IO.getStdout
    stdout.putStr text
    stdout.flush

/-- Takes the steps of a delivery up to the first that fails. -/
def takeSteps (h : Host) : List Step → IO (Except EnvironmentError Unit)
  | [] => pure (.ok ())
  | step :: rest => do
    match ← takeStep h step with
    | .ok () => takeSteps h rest
    | .error e => return .error e

/-- Tells why a run failed. -/
def fail (e : RunError) : IO UInt32 := do
  IO.eprintln ("ERROR " ++ e.fullMessage)
  return 1

/-- A run with the given arguments. -/
def execute (a : Arguments) : IO UInt32 := do
  let h := a.redirect (Host.ofVariables (← readVariables) {})
  match a.instructions.prepare h.vars (← freshSeed) with
  | .error e => fail e
  | .ok shipment =>
    IO.eprintln
      ("using seed " ++ shipment.seed.text ++ "; reproduce with " ++ shipment.seed.asVariable)
    match ← takeSteps h shipment.steps with
    | .ok () => return 0
    | .error e => fail (.environment e)

end TestMatrix.Program

/-- The program. -/
def main (arguments : List String) : IO UInt32 := do
  match TestMatrix.Arguments.parse arguments with
  | .error .help =>
    IO.print TestMatrix.CommandLine.usage
    return 0
  | .error .invalid =>
    IO.eprint TestMatrix.CommandLine.usage
    return 2
  | .ok a => TestMatrix.Program.execute a

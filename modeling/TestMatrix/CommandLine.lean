import TestMatrix.Delivery

/-!
# The command line

`Arguments.parse` reads the arguments of the program one by one; the first that is wrong, or asks
for help, ends it. An option with a value has it in the next argument or attached to its name, and
every option is given at most once. Nothing that begins with a minus sign is taken for a separate
value, and there are no arguments besides options.

`CommandLine.run` is the whole program on a host, with its exit code.
-/

namespace TestMatrix

/-- An option with a value. -/
inductive Field where
  /-- The text of the seed. -/
  | seed
  /-- How many rows are added to those of the goals. -/
  | jobs
  /-- The repository that the matrix is for. -/
  | repository
  /-- The file that outputs are appended to. -/
  | output
  /-- The file that the summary is appended to. -/
  | summary
  /-- The file that gets the indented document. -/
  | exportFile
  /-- How many searches are started for a row. -/
  | maxAttempts
  /-- How many backtrack steps a search may take. -/
  | maxBacktracks
deriving DecidableEq, Repr, Inhabited

/-- An option without a value. -/
inductive Flag where
  /-- A goal that cannot be met is an error. -/
  | strict
  /-- The document is printed on one line. -/
  | json
  /-- More is logged. -/
  | verbose
  /-- The usage is shown. -/
  | help
deriving DecidableEq, Repr, Inhabited

/-- An option. -/
inductive OptionName where
  /-- An option with a value. -/
  | field (f : Field)
  /-- An option without a value. -/
  | flag (f : Flag)
deriving DecidableEq, Repr, Inhabited

/-- The option with a long name. -/
def OptionName.ofLong? : String → Option OptionName
  | "seed" => some (.field .seed)
  | "jobs" => some (.field .jobs)
  | "repository" => some (.field .repository)
  | "output" => some (.field .output)
  | "summary" => some (.field .summary)
  | "export" => some (.field .exportFile)
  | "max-attempts" => some (.field .maxAttempts)
  | "max-backtracks" => some (.field .maxBacktracks)
  | "strict" => some (.flag .strict)
  | "json" => some (.flag .json)
  | "verbose" => some (.flag .verbose)
  | "help" => some (.flag .help)
  | _ => none

/-- The option with a one-letter name. -/
def OptionName.ofShort? : Char → Option OptionName
  | 's' => some (.field .seed)
  | 'j' => some (.field .jobs)
  | 'v' => some (.flag .verbose)
  | 'h' => some (.flag .help)
  | _ => none

/-- Whether the text is a value for the option: a file has a name, and a number has digits. -/
def Field.admits (f : Field) (value : String) : Bool :=
  match f with
  | .seed | .repository => true
  | .output | .summary | .exportFile => !value.isEmpty
  | .jobs | .maxAttempts | .maxBacktracks => (Text.readWord value.toList).toBool

/-- Why the arguments are not followed. -/
inductive Refusal where
  /-- They ask for the usage to be shown. -/
  | help
  /-- They are wrong. -/
  | invalid
deriving DecidableEq, Repr, Inhabited

/-- What the arguments say. -/
structure Arguments where
  /-- The values that were given. -/
  values : List (Field × String) := []
  /-- The flags that were given. -/
  flags : List Flag := []
  /-- The option whose value comes next. -/
  pending : Option Field := none
  /-- Whether options have been declared to end. -/
  ended : Bool := false
deriving DecidableEq, Repr, Inhabited

namespace Arguments

/-- Takes the value of an option. -/
def setValue (a : Arguments) (f : Field) (value : String) : Except Refusal Arguments :=
  if (a.values.lookup f).isSome || !f.admits value then .error .invalid
  else .ok { a with values := (f, value) :: a.values, pending := none }

/-- Takes a flag. -/
def setFlag (a : Arguments) (f : Flag) : Except Refusal Arguments :=
  if f = .help then .error .help
  else if a.flags.contains f then .error .invalid
  else .ok { a with flags := f :: a.flags }

/-- Takes an option with the value that is attached to it, if there is one. -/
def setOption (a : Arguments) (name : OptionName) (attached : Option String) :
    Except Refusal Arguments :=
  match name, attached with
  | .field f, some value => a.setValue f value
  | .field f, none => .ok { a with pending := some f }
  | .flag f, none => a.setFlag f
  | .flag _, some _ => .error .invalid

/-- Takes the letters of an argument of one-letter options. What follows an option with a value is
its value, perhaps after an equals sign. -/
def takeLetters (a : Arguments) : List Char → Except Refusal Arguments
  | [] => .ok a
  | c :: rest =>
    match OptionName.ofShort? c with
    | none => .error .invalid
    | some (.flag f) => do (← a.setFlag f).takeLetters rest
    | some (.field f) =>
      let attached := match rest with
        | [] => none
        | '=' :: value => some (String.ofList value)
        | value => some (String.ofList value)
      a.setOption (.field f) attached

/-- Takes an argument of a long option, without its minus signs. -/
def takeLong (a : Arguments) (cs : List Char) : Except Refusal Arguments :=
  let name := cs.takeWhile (· != '=')
  let attached := match cs.dropWhile (· != '=') with
    | [] => none
    | _ :: value => some (String.ofList value)
  match OptionName.ofLong? (String.ofList name) with
  | some name => a.setOption name attached
  | none => .error .invalid

/-- Takes one argument. -/
def take (a : Arguments) (argument : String) : Except Refusal Arguments :=
  if a.ended then .error .invalid
  else match argument.toList, a.pending with
    | ['-', '-'], _ => .ok { a with ended := true }
    | '-' :: '-' :: cs, none => a.takeLong cs
    | '-' :: c :: cs, none => a.takeLetters (c :: cs)
    | '-' :: _ :: _, some _ => .error .invalid
    | _, some f => a.setValue f argument
    | _, none => .error .invalid

/-- Reads the arguments. -/
def parse (arguments : List String) : Except Refusal Arguments := do
  let a ← arguments.foldlM take {}
  if a.pending.isSome then .error .invalid else return a

/-- The value of an option. -/
def value? (a : Arguments) (f : Field) : Option String := a.values.lookup f

/-- The number that is the value of an option. -/
def number? (a : Arguments) (f : Field) : Option Nat :=
  (a.value? f).bind fun value => (Text.readWord value.toList).toOption

/-- What the run is asked to do. -/
def instructions (a : Arguments) : Instructions where
  seed := a.value? .seed
  jobs := a.number? .jobs
  repository := a.value? .repository
  exportPath := a.value? .exportFile
  strict := a.flags.contains .strict
  budget :=
    { maxAttempts := (a.number? .maxAttempts).getD ({} : Budget).maxAttempts
      maxBacktracks := (a.number? .maxBacktracks).getD ({} : Budget).maxBacktracks }
  json := a.flags.contains .json

/-- The host with the files that the arguments name in place of those that its variables name. -/
def redirect (a : Arguments) (h : Host) : Host :=
  { h with
    output := ((a.value? .output).map Sink.file).getD h.output
    summary := ((a.value? .summary).map Sink.file).getD h.summary }

end Arguments

namespace CommandLine

/-- How to use the program. -/
def usage : String :=
  "Generate a seeded CI test matrix for pgjdbc\n\n" ++
  "Usage: matrix-gen [OPTIONS]\n\n" ++
  "Options:\n" ++
  "  -s, --seed <SEED>\n" ++
  "          Seed (number or any text); overrides RNG_SEED and the PR-derived seed\n" ++
  "  -j, --jobs <JOBS>\n" ++
  "          Random rows on top of the coverage rows (default: MATRIX_JOBS or 5)\n" ++
  "      --repository <REPOSITORY>\n" ++
  "          owner/name of the repository (default: GITHUB_REPOSITORY)\n" ++
  "      --output <OUTPUT>\n" ++
  "          Output file for the `matrix` key (default: GITHUB_OUTPUT)\n" ++
  "      --summary <SUMMARY>\n" ++
  "          Markdown summary file (default: GITHUB_STEP_SUMMARY)\n" ++
  "      --export <EXPORT>\n" ++
  "          Also write the pretty JSON document to this file\n" ++
  "      --strict\n" ++
  "          Fail when a coverage row cannot be satisfied\n" ++
  "      --max-attempts <MAX_ATTEMPTS>\n" ++
  "          Fresh search attempts per row [default: 32]\n" ++
  "      --max-backtracks <MAX_BACKTRACKS>\n" ++
  "          Backtrack steps per search attempt [default: 4096]\n" ++
  "      --json\n" ++
  "          Print only the compact JSON document\n" ++
  "  -v, --verbose\n" ++
  "          Verbose output\n" ++
  "  -h, --help\n" ++
  "          Print help\n"

/-- How the program ends. -/
structure Result where
  /-- Zero for success, one for a failed run, two for arguments that are not followed. -/
  exitCode : Nat
  /-- The error of a failed run. -/
  error : Option String
  /-- The host afterwards. -/
  host : Host
deriving Inhabited

/-- Runs the program with the given arguments on a host whose outputs go where its variables say. -/
def run (arguments : List String) (h : Host) (fresh : UInt64) : Result :=
  match Arguments.parse arguments with
  | .error .help => ⟨0, none, h⟩
  | .error .invalid => ⟨2, none, h⟩
  | .ok a =>
    match a.instructions.follow (a.redirect h) fresh with
    | (h, .ok _) => ⟨0, none, h⟩
    | (h, .error e) => ⟨1, some e.fullMessage, h⟩

end CommandLine

end TestMatrix

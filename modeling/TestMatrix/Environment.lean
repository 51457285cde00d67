import TestMatrix.Text.Blank
import TestMatrix.Text.Numeral
import TestMatrix.Text.Quoted
import TestMatrix.Text.Utf8

/-!
# The environment of a workflow

A workflow speaks to the generator through variables. `Variables` gives what each of them says: a
seed, the pull request that is built, the number of rows, the repository, and the files that results
are appended to. Texts count without the blanks around them, and a blank text says nothing.
-/

namespace TestMatrix

/-- Why a file or the standard output cannot be written. -/
inductive WriteError where
  /-- There is no file or directory of that name. -/
  | notFound
  /-- Something on the way to the file is not a directory. -/
  | notDirectory
  /-- There is a directory in the place of the file. -/
  | isDirectory
  /-- A name on the way is too long. -/
  | nameTooLong
  /-- The path holds a character that no file name can hold. -/
  | nulInPath
  /-- The other side takes no more. -/
  | closed
  /-- Something else, in the words of the operating system. -/
  | other (description : String)
deriving DecidableEq, Repr, Inhabited

/-- The wording of the cause. -/
def WriteError.message : WriteError → String
  | .notFound => "No such file or directory (os error 2)"
  | .notDirectory => "Not a directory (os error 20)"
  | .isDirectory => "Is a directory (os error 21)"
  | .nameTooLong => "File name too long (os error 36)"
  | .nulInPath => "file name contained an unexpected NUL byte"
  | .closed => "closed"
  | .other description => description

/-- What can go wrong between the generator and its environment. -/
inductive EnvironmentError where
  /-- A variable is set to something that cannot be used. -/
  | invalidVariable (name value : String) (reason : Text.NumeralError)
  /-- A published value holds the line that is to end it. -/
  | delimiterInValue (key delimiter : String)
  /-- A file or the standard output cannot be written. -/
  | cannotWrite (target : String) (cause : WriteError)
deriving DecidableEq, Repr

namespace EnvironmentError

/-- The wording of the error. -/
def message : EnvironmentError → String
  | .invalidVariable name value reason =>
    "invalid value for " ++ name ++ ": " ++ Text.quote value ++ " (" ++ reason.message ++ ")"
  | .delimiterInValue key delimiter =>
    "output `" ++ key ++ "` contains its delimiter line `" ++ delimiter ++ "`"
  | .cannotWrite target _ => "failed to write " ++ target

/-- The wording of the error with its cause. -/
def fullMessage (e : EnvironmentError) : String :=
  match e with
  | .cannotWrite _ cause => e.message ++ ": " ++ cause.message
  | _ => e.message

end EnvironmentError

/-! ## Variables -/

/-- The value of a variable. -/
inductive VariableValue where
  /-- A text. -/
  | text (s : String)
  /-- Bytes, which need not be the bytes of a text. -/
  | bytes (bs : List UInt8)
deriving DecidableEq, Repr, Inhabited

/-- The text that the value is, if it is one. -/
def VariableValue.text? : VariableValue → Option String
  | .text s => some s
  | .bytes bs => Text.ofUtf8? bs

/-- The text that is shown for the value. -/
def VariableValue.shown : VariableValue → String
  | .text s => s
  | .bytes bs => Text.showUtf8 bs

/-- The variables that are set, with their values. -/
abbrev Variables := List (String × VariableValue)

namespace Variables

/-- The text of a variable; a value that is no text counts as not set. -/
def text? (vars : Variables) (name : String) : Option String :=
  (vars.lookup name).bind VariableValue.text?

/-- The text of a variable without the blanks around it, if anything is left. -/
def filled? (vars : Variables) (name : String) : Option String :=
  (vars.text? name).bind Text.filled?

/-- The path that a variable holds, if it is not empty. Blanks belong to a path. -/
def path? (vars : Variables) (name : String) : Option String :=
  match vars.lookup name with
  | some value => if value.shown.isEmpty then none else some value.shown
  | none => none

/-- The seed that the workflow asks for. -/
def seedText? (vars : Variables) : Option String := vars.filled? "RNG_SEED"

/-- What the references of pull requests begin with. -/
def pullPath : List Char := "refs/pull/".toList

/-- The number of the pull request in a reference: what follows `refs/pull/` up to the next slash.
-/
def pullRequestOfRef? (ref : String) : Option String :=
  if pullPath.isPrefixOf ref.toList then
    let id := (ref.toList.drop pullPath.length).takeWhile (· != '/')
    if id.isEmpty then none else some (String.ofList id)
  else none

/-- The pull request that is built: the one in the reference, or else the one given by number. -/
def pullRequest? (vars : Variables) : Option String :=
  ((vars.filled? "GITHUB_REF").bind pullRequestOfRef?).or (vars.filled? "GITHUB_PR_NUMBER")

/-- The number of rows that the workflow asks for. -/
def jobs? (vars : Variables) : Except EnvironmentError (Option Nat) :=
  match vars.filled? "MATRIX_JOBS" with
  | none => .ok none
  | some text =>
    match Text.readWord text.toList with
    | .ok n => .ok (some n)
    | .error reason => .error (.invalidVariable "MATRIX_JOBS" text reason)

/-- The repository that the workflow runs in. -/
def repository? (vars : Variables) : Option String := vars.filled? "GITHUB_REPOSITORY"

/-- The file that outputs are appended to. -/
def outputPath? (vars : Variables) : Option String := vars.path? "GITHUB_OUTPUT"

/-- The file that the summary is appended to. -/
def summaryPath? (vars : Variables) : Option String := vars.path? "GITHUB_STEP_SUMMARY"

end Variables

end TestMatrix

import TestMatrix.Environment

/-!
# Files

`Files` is a tree of directories and files as seen from the working directory. `replace` and
`append` write a text to the file with a given path, which they create if they can; where they
cannot, they say why. A path is followed name by name, so what is wrong first on the way decides.
-/

namespace TestMatrix

/-- What a path leads to. -/
inductive FileEntry where
  /-- A directory. -/
  | directory
  /-- A file with its content. -/
  | file (content : String)
deriving DecidableEq, Repr, Inhabited

/-- The names on the way from the working directory to a file or directory. -/
abbrev Location := List String

/-- The files and directories below the working directory. -/
structure Files where
  /-- Every entry with its location. -/
  entries : List (Location × FileEntry) := []
deriving DecidableEq, Repr, Inhabited

namespace Files

/-- What is at a location; the working directory is a directory. -/
def entry? (fs : Files) (location : Location) : Option FileEntry :=
  if location.isEmpty then some .directory else fs.entries.lookup location

/-- The tree with an entry at a location, in place of the one that was there. -/
def put (fs : Files) (location : Location) (entry : FileEntry) : Files :=
  ⟨(location, entry) :: fs.entries.filter fun e => e.1 != location⟩

/-- The tree with directories for all names on the way down from a directory, where there is nothing
yet. -/
def makeDirectories (fs : Files) (here : Location) : List String → Files
  | [] => fs
  | name :: rest =>
    let next := here ++ [name]
    let fs := if (fs.entry? next).isSome then fs else fs.put next .directory
    fs.makeDirectories next rest

/-! ## Paths -/

/-- No name has more bytes. -/
def maxNameSize : Nat := 255

/-- No path has as many bytes. -/
def maxPathSize : Nat := 4096

/-- The names in a path; an empty one stands for no step at all. -/
def pathNames (path : String) : List String := (path.toList.splitOn '/').map String.ofList

/-- Follows names from a directory to a directory. -/
def follow (fs : Files) (here : Location) : List String → Except WriteError Location
  | [] => .ok here
  | name :: rest =>
    if name = "" ∨ name = "." then fs.follow here rest
    else if name = ".." then fs.follow here.dropLast rest
    else if maxNameSize < name.utf8ByteSize then .error .nameTooLong
    else match fs.entry? (here ++ [name]) with
      | some .directory => fs.follow (here ++ [name]) rest
      | some (.file _) => .error .notDirectory
      | none => .error .notFound

/-- The location of the file that writing to the names leads to. A path that ends in a slash or in
dots is one of a directory. -/
def target (fs : Files) (names : List String) : Except WriteError Location :=
  match (names.reverse.dropWhile (· == "")).reverse with
  | [] => .error .isDirectory
  | first :: rest => do
    let steps := first :: rest
    let here ← fs.follow [] steps.dropLast
    let name := steps.getLast?.getD ""
    if name = "." ∨ name = ".." ∨ names.getLast? = some "" then .error .isDirectory
    else if maxNameSize < name.utf8ByteSize then .error .nameTooLong
    else if fs.entry? (here ++ [name]) = some .directory then .error .isDirectory
    else .ok (here ++ [name])

/-- The location of the file that writing to a path leads to. -/
def locate (fs : Files) (path : String) : Except WriteError Location :=
  if path.isEmpty then .error .notFound
  else if path.toList.contains '\x00' then .error .nulInPath
  else if maxPathSize ≤ path.utf8ByteSize then .error .nameTooLong
  else fs.target (pathNames path)

/-! ## Writing -/

/-- The content at a location; empty if there is no file. -/
def content (fs : Files) (location : Location) : String :=
  match fs.entry? location with
  | some (.file content) => content
  | _ => ""

/-- Makes a text the content of the file with the given path. -/
def replace (fs : Files) (path text : String) : Except EnvironmentError Files :=
  match fs.locate path with
  | .ok location => .ok (fs.put location (.file text))
  | .error cause => .error (.cannotWrite path cause)

/-- Adds a text to the file with the given path. -/
def append (fs : Files) (path text : String) : Except EnvironmentError Files :=
  match fs.locate path with
  | .ok location => .ok (fs.put location (.file (fs.content location ++ text)))
  | .error cause => .error (.cannotWrite path cause)

end Files

end TestMatrix

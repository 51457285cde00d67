import TestMatrix.Json.Literal
import TestMatrix.Json.Writer

/-!
# The matrix document

A `Document` is the list of jobs that a workflow runs. Its text is an object whose only member holds
the jobs, on one line (`compact`) or indented (`pretty`), and `Document.ofText?` reads it back.
-/

namespace TestMatrix

/-- The jobs of a matrix in order. -/
structure Document where
  /-- The jobs. -/
  jobs : List Json.Object
deriving Inhabited

namespace Document

/-- The key under which the document is published. -/
def key : String := "matrix"

/-- The names of the jobs that have one. -/
def names (d : Document) : List String :=
  d.jobs.filterMap fun job => (job.valueOf? "name").bind Json.text?

/-- The document as a value. -/
def toJson (d : Document) : Json := .object [("include", .array (d.jobs.map .object))]

/-- The document on one line. -/
def compact (d : Document) : String := d.toJson.compact

/-- The document with a line for every field. -/
def pretty (d : Document) : String := d.toJson.pretty

/-- Reads a job, which stands inside two brackets. -/
def job? (l : Json.Literal) : Option Json.Object :=
  (l.toJson? (Json.maxDepth - 2)).bind Json.object?

/-- Reads a document. -/
def ofLiteral? (l : Json.Literal) : Option Document := do
  match ← l.record? ["include"] with
  | [some (.array items)] => return ⟨← items.mapM job?⟩
  | _ => none

/-- Reads the text of a document. -/
def ofText? (s : String) : Option Document := (Json.Literal.ofText? s).bind ofLiteral?

end Document

end TestMatrix

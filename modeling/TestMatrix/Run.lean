import TestMatrix.Document
import TestMatrix.Job
import TestMatrix.Text.Natural

/-!
# A run

`generate` makes the matrix of a profile from a seed: it forces a row for every goal of the profile,
adds the rows that are asked for, sorts all rows by name and makes a job of each. The stream goes on
from row to row and then from job to job, so that the seed determines the document.
-/

namespace TestMatrix

/-- How many rows are added to those of the goals if nobody says otherwise. -/
def defaultJobs : Nat := 5

/-- What a matrix is made from. -/
structure Request where
  /-- The seed of the stream. -/
  seed : UInt64
  /-- How many rows are added to those of the goals. -/
  jobs : Nat := defaultJobs
  /-- The definition of the matrix. -/
  profile : Profile := {}
  /-- Whether it is an error if a goal cannot be met. -/
  strict : Bool := false
  /-- How much may be searched for one row. -/
  budget : Budget := {}
deriving Inhabited

/-- A finished matrix. -/
structure Report where
  /-- The seed that it was made from. -/
  seed : UInt64
  /-- How many rows the goals took. -/
  forced : Nat
  /-- How many rows were added to them. -/
  random : Nat
  /-- The jobs. -/
  document : Document
deriving Inhabited

/-- The number of jobs. -/
def Report.total (r : Report) : Nat := r.document.jobs.length

/-- Forces a row for every selector, and counts those that were made. -/
def Plan.forceAll : List Selector → Plan → Plan × Except PlanError Nat
  | [], p => (p, .ok 0)
  | s :: rest, p =>
    match p.force s with
    | (p, .error e) => (p, .error e)
    | (p, .ok row) =>
      match Plan.forceAll rest p with
      | (p, .error e) => (p, .error e)
      | (p, .ok count) => (p, .ok (count + if row.isSome then 1 else 0))

namespace Request

/-- The plan with the matrix laid down and no rows yet. -/
def plan (r : Request) : Plan × Except ConfigError Unit :=
  r.profile.layOut { Plan.ofSeed r.seed with strict := r.strict, budget := r.budget }

/-- Makes the matrix. -/
def generate (r : Request) : Except PlanError Report := do
  let (defined, outcome) := r.plan
  outcome.mapError .config
  let (covered, count) := defined.forceAll (r.profile.goals defined)
  let forced ← count
  let filled := covered.fill r.jobs
  let (rows, stream) ← filled.result
  let (jobs, _) := Job.ofRows (Text.naturalSort (·.name) rows) stream
  return {
    seed := r.seed
    forced
    random := filled.entries.length - covered.entries.length
    document := ⟨jobs⟩ }

end Request

end TestMatrix

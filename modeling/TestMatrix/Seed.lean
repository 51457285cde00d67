import TestMatrix.Environment
import TestMatrix.Json.Literal

/-!
# Where the seed comes from

A seed that is asked for wins. Without one, the runs of a pull request share a seed of their own,
and all other runs get a fresh one. `Seed.determine` decides this, and a `Seed` remembers its
`Origin`, so that a run can say how to be repeated.
-/

namespace TestMatrix

/-- Where a seed comes from. -/
inductive Origin where
  /-- It was asked for. -/
  | explicit
  /-- It belongs to a pull request. -/
  | pullRequest (id : String)
  /-- It was drawn for this run. -/
  | random
deriving DecidableEq, Repr, Inhabited

/-- A seed and its origin. -/
structure Seed where
  /-- The seed. -/
  value : UInt64
  /-- Where it comes from. -/
  origin : Origin
deriving DecidableEq, Repr, Inhabited

/-! ## Seeds of texts -/

/-- One step of the Fowler–Noll–Vo hash. -/
def hashStep (hash : UInt64) (b : UInt8) : UInt64 := (hash ^^^ b.toUInt64) * 0x100000001b3

/-- The Fowler–Noll–Vo hash of some bytes. -/
def hashBytes (bytes : List UInt8) : UInt64 := bytes.foldl hashStep 0xcbf29ce484222325

/-- The seed that a text stands for: the number that it is, or else its hash. -/
def seedOfText (text : String) : UInt64 :=
  let text := Text.trim text
  match Text.readWord text.toList with
  | .ok n => UInt64.ofNat n
  | .error _ => hashBytes text.toUTF8.toList

/-- What the number of a pull request is multiplied by, so that neighbouring pull requests get seeds
far apart. -/
def pullRequestFactor : UInt64 := 0x9e3779b97f4a7c15

namespace Origin

/-- The origin in messages. -/
def text : Origin → String
  | .explicit => "explicit"
  | .pullRequest id => "pull request #" ++ id
  | .random => "random"

/-- The origin as a record: its kind, and the pull request if there is one. -/
def toJson : Origin → Json
  | .explicit => .object [("kind", .text "explicit")]
  | .pullRequest id => .object [("kind", .text "pull_request"), ("id", .text id)]
  | .random => .object [("kind", .text "random")]

/-- The name of a kind in an object, where it may also be the only key of an object. -/
def kind? : Json.Literal → Option String
  | .text name => name
  | .object [(name, .null)] => name
  | _ => none

/-- The origin of the given kind with what is said of it besides. -/
def ofKind? (kind : String) (detail : Option Json.Literal) : Option Origin :=
  match kind, detail with
  | "explicit", none => some .explicit
  | "explicit", some .null => some .explicit
  | "random", none => some .random
  | "random", some .null => some .random
  | "pull_request", some (.text id) => id.map .pullRequest
  | _, _ => none

/-- Reads an origin: an object with a kind, or a list of a kind and what is said of it. -/
def ofLiteral? (l : Json.Literal) : Option Origin := do
  match l, ← l.record? ["kind", "id"] with
  | .array _, [some kind, some detail] => ofKind? (← kind.text?) (some detail)
  | .object _, [some kind, detail] => ofKind? (← kind? kind) detail
  | _, _ => none

end Origin

namespace Seed

/-- The seed of a run. `explicit` is the text that the caller asks for, and `fresh` is drawn for the
case that nothing else decides. -/
def determine (explicit : Option String) (vars : Variables) (fresh : UInt64) : Seed :=
  match (explicit.bind Text.filled?).or vars.seedText? with
  | some text => ⟨seedOfText text, .explicit⟩
  | none =>
    match vars.pullRequest? with
    | some id => ⟨seedOfText id * pullRequestFactor, .pullRequest id⟩
    | none => ⟨fresh, .random⟩

/-- The digits of the seed. -/
def valueText (s : Seed) : String := String.ofList (Nat.toDigits 10 s.value.toNat)

/-- The seed with its origin. -/
def text (s : Seed) : String := s.valueText ++ " (" ++ s.origin.text ++ ")"

/-- The setting of a variable that gives another run the same seed. -/
def asVariable (s : Seed) : String := "RNG_SEED=" ++ s.valueText

/-- The seed as a record. -/
def toJson (s : Seed) : Json :=
  .object [("value", .ofNat s.value.toNat), ("source", s.origin.toJson)]

/-- Reads a seed. -/
def ofLiteral? (l : Json.Literal) : Option Seed := do
  match ← l.record? ["value", "source"] with
  | [some value, some source] =>
    return ⟨UInt64.ofNat (← value.word?), ← Origin.ofLiteral? source⟩
  | _ => none

end Seed

end TestMatrix

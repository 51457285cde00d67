import TestMatrix.Text.Case

/-!
# Natural order

In natural order `Java 8` comes before `Java 11`. A text is divided into its maximal runs of digits
and of other characters (`runs`), and two texts are compared run by run: runs of digits by the
number they denote, other runs by their lower case. Texts that agree in all runs are told apart by
their code points, so that no two texts are equal (`naturalOrder`).
-/

namespace TestMatrix.Text

/-- A maximal run of characters of one kind. -/
structure Run where
  /-- Whether the run consists of ASCII digits. -/
  numeric : Bool
  /-- The characters of the run. -/
  text : List Char
deriving DecidableEq, Repr, Inhabited

/-- Puts a character in front of some runs: into the first of them if it is of the same kind, and
else as a run of its own. -/
def consRun (c : Char) : List Run → List Run
  | [] => [⟨c.isDigit, [c]⟩]
  | r :: rest =>
    if r.numeric = c.isDigit then ⟨r.numeric, c :: r.text⟩ :: rest
    else ⟨c.isDigit, [c]⟩ :: r :: rest

/-- The maximal runs of a list of characters. -/
def runs : List Char → List Run
  | [] => []
  | c :: rest => consRun c (runs rest)

/-- Compares two digit sequences by the numbers they denote: without leading zeros the longer is
the greater, and of two that are equally long the one with the first greater digit. -/
def compareDigits (a b : List Char) : Ordering :=
  let a := a.dropWhile (· == '0')
  let b := b.dropWhile (· == '0')
  (compare a.length b.length).then (compare a b)

/-- Compares two runs: two numbers as numbers, all else by lower case. -/
def Run.compare (a b : Run) : Ordering :=
  if a.numeric && b.numeric then compareDigits a.text b.text
  else Ord.compare (lowerList a.text) (lowerList b.text)

/-- Compares run by run; what ends first comes first. -/
def compareRuns : List Run → List Run → Ordering
  | [], [] => .eq
  | [], _ :: _ => .lt
  | _ :: _, [] => .gt
  | a :: as, b :: bs => (a.compare b).then (compareRuns as bs)

/-- Natural order on lists of characters. -/
def naturalOrderList (a b : List Char) : Ordering :=
  (compareRuns (runs a) (runs b)).then (compare a b)

/-- Natural order on texts. -/
def naturalOrder (a b : String) : Ordering := naturalOrderList a.toList b.toList

/-- Sorts by natural order of a name, keeping the order of those with the same name. -/
def naturalSort {α : Type} (name : α → String) (items : List α) : List α :=
  items.mergeSort fun a b => (naturalOrder (name a) (name b)).isLE

theorem runs_nil : runs [] = [] := rfl

theorem runs_cons (c : Char) (rest : List Char) : runs (c :: rest) = consRun c (runs rest) := rfl

end TestMatrix.Text

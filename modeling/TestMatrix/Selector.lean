import TestMatrix.Axis
import TestMatrix.Text.Version

/-!
# Selectors

A `Selector` names some axes and says with a `Matcher` which settings of each it is after. It is
evaluated on an `Assignment`, which may leave axes open, so there are three answers: `some false` as
soon as an assigned axis does not match, `some true` if all named axes are assigned and match, and
`none` otherwise.
-/

namespace TestMatrix

/-- The settings that are assigned to axes so far. -/
abbrev Assignment := String → Option Setting

/-- A condition on one setting. -/
inductive Matcher where
  /-- The setting has this token. -/
  | exactly (token : String)
  /-- The setting has one of these tokens. -/
  | anyOf (tokens : List String)
  /-- The setting passes the test; the label stands for the test in messages. -/
  | satisfies (label : String) (test : Setting → Bool)

instance : Inhabited Matcher := ⟨.exactly ""⟩

namespace Matcher

/-- Settings whose version comes before `bound`. -/
def below (bound : String) : Matcher :=
  .satisfies ("< " ++ bound) fun s => Text.versionBelow s.token bound

/-- Settings whose version is `bound` or later. -/
def atLeast (bound : String) : Matcher :=
  .satisfies (">= " ++ bound) fun s => Text.versionAtLeast s.token bound

/-- Whether the setting meets the condition. -/
def accepts : Matcher → Setting → Bool
  | .exactly token, s => s.token == token
  | .anyOf tokens, s => tokens.contains s.token
  | .satisfies _ test, s => test s

/-- The tokens that the condition spells out. -/
def tokens : Matcher → List String
  | .exactly token => [token]
  | .anyOf tokens => tokens
  | .satisfies _ _ => []

/-- The condition in messages. -/
def text : Matcher → String
  | .exactly token => token
  | .anyOf tokens => "[" ++ ", ".intercalate tokens ++ "]"
  | .satisfies label _ => "(" ++ label ++ ")"

end Matcher

namespace Selector

/-- Replaces the condition on an axis where it stands, or adds it at the end. -/
def setEntry (axis : String) (m : Matcher) : List (String × Matcher) → List (String × Matcher)
  | [] => [(axis, m)]
  | entry :: rest =>
    if entry.1 = axis then (entry.1, m) :: rest else entry :: setEntry axis m rest

/-- The axes keep their order; a new one comes last. -/
theorem map_fst_setEntry (axis : String) (m : Matcher) (entries : List (String × Matcher)) :
    (setEntry axis m entries).map (·.1) =
      if axis ∈ entries.map (·.1) then entries.map (·.1) else entries.map (·.1) ++ [axis] := by
  induction entries with
  | nil => rfl
  | cons entry rest ih =>
    rw [setEntry]
    by_cases h : entry.1 = axis
    · simp [h]
    · have h' : axis ≠ entry.1 := Ne.symm h
      rw [if_neg h, List.map_cons, ih]
      by_cases hmem : axis ∈ rest.map (·.1) <;> simp [hmem, h']

/-- An axis that was named once is still named once. -/
theorem nodup_setEntry (axis : String) (m : Matcher) {entries : List (String × Matcher)}
    (h : (entries.map (·.1)).Nodup) : ((setEntry axis m entries).map (·.1)).Nodup := by
  rw [map_fst_setEntry]
  split
  · exact h
  · next hmem =>
    refine List.nodup_append.mpr ⟨h, by simp, ?_⟩
    intro name hname other hother heq
    rw [List.mem_singleton] at hother
    exact hmem (hother ▸ heq ▸ hname)

end Selector

/-- Conditions on the settings of some axes, each axis named once, in the order of first mention. -/
structure Selector where
  /-- The axes with their conditions. -/
  entries : List (String × Matcher) := []
  /-- No axis is named twice. -/
  distinct : (entries.map (·.1)).Nodup := by exact List.nodup_nil

instance : Inhabited Selector := ⟨{}⟩

namespace Selector

/-- The selector with a condition on an axis, in place of the one it had. -/
def matching (s : Selector) (axis : String) (m : Matcher) : Selector :=
  ⟨setEntry axis m s.entries, nodup_setEntry axis m s.distinct⟩

/-- The selector with a token required of an axis. -/
def having (s : Selector) (axis token : String) : Selector := s.matching axis (.exactly token)

/-- The selector made of some conditions, set one after the other. -/
def ofEntries (entries : List (String × Matcher)) : Selector :=
  entries.foldl (fun s entry => s.matching entry.1 entry.2) {}

/-- The condition on an axis. -/
def matcher? (s : Selector) (axis : String) : Option Matcher :=
  (s.entries.find? (·.1 == axis)).map (·.2)

/-- Whether no axis is named. -/
def isEmpty (s : Selector) : Bool := s.entries.isEmpty

/-- The answer to conditions that are asked one by one; `undecided` says whether an axis before them
is not assigned. -/
def verdictFrom (assigned : Assignment) (undecided : Bool) : List (String × Matcher) → Option Bool
  | [] => if undecided then none else some true
  | (axis, m) :: rest =>
    match assigned axis with
    | some s => if m.accepts s then verdictFrom assigned undecided rest else some false
    | none => verdictFrom assigned true rest

/-- Whether the selector is bound to match, bound not to match, or undecided. -/
def verdict (s : Selector) (assigned : Assignment) : Option Bool :=
  verdictFrom assigned false s.entries

/-- Whether all named axes are assigned and match. -/
def isMatch (s : Selector) (assigned : Assignment) : Bool := s.verdict assigned == some true

/-- One condition in messages. -/
def entryText (entry : String × Matcher) : String := entry.1 ++ "=" ++ entry.2.text

/-- The selector in messages. -/
def text (s : Selector) : String := "\x7b" ++ ", ".intercalate (s.entries.map entryText) ++ "\x7d"

/-- The selector in developer output. -/
def debugText (s : Selector) : String := "Selector" ++ s.text

end Selector

end TestMatrix

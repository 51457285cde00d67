import TestMatrix.Proofs.Dictionary
import TestMatrix.Proofs.Json.Records
import TestMatrix.Record
import TestMatrix.Seed

/-!
# Budgets, seeds and settings read back

A record leaves out what is not there: a title, attributes, the number of a pull request. It is
written by one function and read by another, and `records_read_back` says that the two fit together
for every budget, origin, seed and setting, so that nothing that is left out can be mistaken for
something that is empty. Of the weight of a setting it has to be known that its text is read as that
weight.
-/

namespace TestMatrix

open Json (Layout ReadsAs ReadsBack MemberReadsAs Literal wholeNumeral)

variable {l : Layout} {depth : Nat}

/-! ## Budgets -/

/-- A number that fits into a word is read as this word. -/
theorem Json.Literal.word?_wholeNumeral {n : Nat} (h : n < Text.wordCount) :
    (Literal.number (wholeNumeral n)).word? = some n := by
  have hword : (n : Int) < 2 ^ 64 := by
    rw [Text.wordCount] at h
    omega
  rw [word?, number?, Json.ofNumeral?_wholeNumeral (by omega) hword]
  simp

namespace Budget

/-- Both limits are 64-bit words. -/
structure InWords (b : Budget) : Prop where
  maxAttempts_lt : b.maxAttempts < Text.wordCount
  maxBacktracks_lt : b.maxBacktracks < Text.wordCount

/-- The structure of the record of a budget. -/
def literal (b : Budget) : Literal :=
  .object [(some "max_attempts", .number (wholeNumeral b.maxAttempts)),
    (some "max_backtracks", .number (wholeNumeral b.maxBacktracks))]

/-- The record of a budget is read as its structure. -/
theorem readsAs (hl : l.Blank) (b : Budget) : ReadsAs l depth b.toJson b.literal :=
  .object hl (.cons ⟨rfl, .ofNat b.maxAttempts⟩ (.cons ⟨rfl, .ofNat b.maxBacktracks⟩ .nil))

/-- A budget is read back, since both of its limits fit into a word. -/
theorem readsBack {b : Budget} (h : b.InWords) : ReadsBack toJson ofLiteral? b := by
  refine ReadsAs.readsBack (fun hl => b.readsAs hl) ?_
  show (do
    let attempts ← (Literal.number (wholeNumeral b.maxAttempts)).word?
    let backtracks ← (Literal.number (wholeNumeral b.maxBacktracks)).word?
    return Budget.mk attempts backtracks) = some b
  rw [Literal.word?_wholeNumeral h.maxAttempts_lt, Literal.word?_wholeNumeral h.maxBacktracks_lt]
  rfl

end Budget

/-! ## Origins and seeds -/

namespace Origin

/-- The structure of the record of an origin. -/
def literal : Origin → Literal
  | .explicit => .object [(some "kind", .text (some "explicit"))]
  | .pullRequest id =>
    .object [(some "kind", .text (some "pull_request")), (some "id", .text (some id))]
  | .random => .object [(some "kind", .text (some "random"))]

/-- The record of an origin is read as its structure. -/
theorem readsAs (hl : l.Blank) (o : Origin) : ReadsAs l depth o.toJson o.literal := by
  cases o with
  | explicit => exact .object hl (.cons ⟨rfl, .text _⟩ .nil)
  | pullRequest id => exact .object hl (.cons ⟨rfl, .text _⟩ (.cons ⟨rfl, .text id⟩ .nil))
  | random => exact .object hl (.cons ⟨rfl, .text _⟩ .nil)

/-- The structure tells the origins apart, by their kind. -/
theorem ofLiteral?_literal (o : Origin) : ofLiteral? o.literal = some o := by
  cases o <;> rfl

/-- So an origin is read back. -/
theorem readsBack (o : Origin) : ReadsBack toJson ofLiteral? o :=
  ReadsAs.readsBack (fun hl => o.readsAs hl) o.ofLiteral?_literal

end Origin

namespace Seed

/-- The structure of the record of a seed. -/
def literal (s : Seed) : Literal :=
  .object [(some "value", .number (wholeNumeral s.value.toNat)), (some "source", s.origin.literal)]

/-- The record of a seed is read as its structure. -/
theorem readsAs (hl : l.Blank) (s : Seed) : ReadsAs l depth s.toJson s.literal :=
  .object hl (.cons ⟨rfl, .ofNat s.value.toNat⟩ (.cons ⟨rfl, s.origin.readsAs hl⟩ .nil))

/-- A seed is read back, of which every value fits into a word. -/
theorem readsBack (s : Seed) : ReadsBack toJson ofLiteral? s := by
  refine ReadsAs.readsBack (fun hl => s.readsAs hl) ?_
  show (do
    let value ← (Literal.number (wholeNumeral s.value.toNat)).word?
    let origin ← Origin.ofLiteral? s.origin.literal
    return Seed.mk (UInt64.ofNat value) origin) = some s
  rw [Literal.word?_wholeNumeral s.value.toNat_lt, s.origin.ofLiteral?_literal]
  simp [pure]

end Seed

/-! ## Settings -/

/-- If the text of a floating-point number is read as that number, then so is its numeral wherever
it stands. -/
theorem Json.exists_readsAs_of_parse? {x : Float}
    (h : Json.parse? (Json.number (.real x)).compact = some (.number (.real x))) :
    ∃ n, Number.ofNumeral? n = some (.real x) ∧
      ∀ {l : Layout} {depth : Nat}, ReadsAs l depth (.number (.real x)) (.number n) := by
  cases hx : x.isFinite with
  | false =>
    -- A number that is not finite is written as null, which is read back as something else.
    have hcompact : (Json.number (.real x)).compact = "null" := by
      simp [compact, write, writeNumber, hx]
    rw [hcompact] at h
    exact absurd h (by simp [show Json.parse? "null" = some .null from rfl])
  | true =>
    obtain ⟨n, hread⟩ := exists_readsAs_real hx
    refine ⟨n, ?_, hread⟩
    rw [parse?, compact, hread.ofText?_write, Option.bind_some, Literal.toJson?] at h
    simpa using h

namespace Setting

/-- The structure of the record of a setting whose weight is written as the numeral. -/
def literal (s : Setting) (weight : Decimal.Numeral) : Literal :=
  .object <|
    [(some "token", .text (some s.token))] ++
    (s.title.map fun title => (some "title", Literal.text (some title))).toList ++
    [(some "weight", .number weight)] ++
    if s.attributes.isEmpty then []
    else [(some "attributes",
      .object (s.attributes.map fun (key, value) => (some key, .text (some value))))]

/-- Every attribute is written as a text under its name. -/
theorem forall₂_attributes (d : Dictionary String) :
    List.Forall₂ (MemberReadsAs l depth) (d.map fun (key, value) => (key, .text value))
      (d.map fun (key, value) => (some key, .text (some value))) := by
  induction d with
  | nil => exact .nil
  | cons entry d ih => exact .cons ⟨rfl, .text entry.2⟩ ih

/-- The record of a setting is read as its structure, if its weight is read as some numeral. -/
theorem readsAs (hl : l.Blank) (s : Setting) {weight : Decimal.Numeral}
    (hweight : ∀ {l : Layout} {depth : Nat},
      ReadsAs l depth (.number (.real s.weight)) (.number weight)) :
    ReadsAs l depth s.toJson (s.literal weight) := by
  refine .object hl (List.rel_append (List.rel_append (List.rel_append ?_ ?_) ?_) ?_)
  · exact .cons ⟨rfl, .text s.token⟩ .nil
  · cases s.title with
    | none => exact .nil
    | some title => exact .cons ⟨rfl, .text title⟩ .nil
  · exact .cons ⟨rfl, hweight⟩ .nil
  · cases s.attributes.isEmpty with
    | true => exact .nil
    | false => exact .cons ⟨rfl, .object hl (forall₂_attributes s.attributes)⟩ .nil

/-- Attributes in the order of their names are read back in this order. -/
theorem attributes?_map {d : Dictionary String} (h : d.Sorted) : attributes? (some (.object
    (d.map fun (key, value) => (some key, .text (some value))))) = some d := by
  have hpairs : (d.map fun (key, value) => (some key, Literal.text (some value))).mapM
      attributeOf? = some d := by
    clear h
    induction d with
    | nil => rfl
    | cons entry d ih =>
      rw [List.map_cons, List.mapM_cons, ih]
      rfl
  rw [attributes?, hpairs, Option.map_some, Dictionary.ofPairs_of_sorted h]

/-- The structure is that of the setting if the numeral stands for the weight. -/
theorem ofLiteral?_literal {s : Setting} {weight : Decimal.Numeral}
    (hattributes : s.attributes.Sorted)
    (hweight : Number.ofNumeral? weight = some (.real s.weight)) :
    ofLiteral? (s.literal weight) = some s := by
  obtain ⟨token, title, w, attributes⟩ := s
  have hreal : (Literal.number weight).real? = some w := by
    rw [Literal.real?, Literal.number?, hweight]
  -- Which members there are decides where the reader finds them.
  have hread : ofLiteral? (literal ⟨token, title, w, attributes⟩ weight) = (do return {
      token
      title
      weight := ← (Literal.number weight).real?
      attributes := ← attributes? (if attributes.isEmpty then none else some (.object
        (attributes.map fun (key, value) => (some key, .text (some value))))) }) := by
    cases title <;> cases attributes <;> rfl
  rw [hread, hreal]
  cases hempty : attributes.isEmpty with
  | true =>
    obtain rfl := List.isEmpty_iff.mp hempty
    rfl
  | false =>
    rw [if_neg Bool.false_ne_true, attributes?_map hattributes]
    rfl

/-- The attributes are a map, and the text of the weight, which is therefore finite, is read as the
weight. -/
structure InRange (s : Setting) : Prop where
  sorted_attributes : s.attributes.Sorted
  parse?_weight :
    Json.parse? (Json.number (.real s.weight)).compact = some (.number (.real s.weight))

/-- So a setting is read back. -/
theorem readsBack {s : Setting} (h : s.InRange) : ReadsBack toJson ofLiteral? s := by
  obtain ⟨n, hnumeral, hread⟩ := Json.exists_readsAs_of_parse? h.parse?_weight
  exact ReadsAs.readsBack (fun hl => s.readsAs hl hread)
    (ofLiteral?_literal h.sorted_attributes hnumeral)

end Setting

/-! ## All records -/

/-- All budgets of 64-bit words, all origins and seeds, and all settings with a weight that is read
as it is written are read back. So what is left out is never taken for something else: no two
origins have the same text, and a setting without a title has another text than one with an empty
title, and no two settings have the same. -/
theorem records_read_back :
    (∀ b : Budget, b.InWords → ReadsBack Budget.toJson Budget.ofLiteral? b) ∧
    (∀ o : Origin, ReadsBack Origin.toJson Origin.ofLiteral? o) ∧
    (∀ s : Seed, ReadsBack Seed.toJson Seed.ofLiteral? s) ∧
    (∀ s : Setting, s.InRange → ReadsBack Setting.toJson Setting.ofLiteral? s) ∧
    (∀ o o' : Origin, o.toJson.compact = o'.toJson.compact → o = o') ∧
    (∀ s s' : Setting, s.InRange → s'.InRange → s.toJson.compact = s'.toJson.compact → s = s') ∧
    ∀ s : Setting, s.InRange →
      { s with title := none }.toJson.compact ≠ { s with title := some "" }.toJson.compact := by
  refine ⟨fun b => Budget.readsBack, Origin.readsBack, Seed.readsBack, fun s => Setting.readsBack,
    fun o o' => o.readsBack.compact_inj o'.readsBack,
    fun s s' h h' => (Setting.readsBack h).compact_inj (Setting.readsBack h'), fun s h heq => ?_⟩
  have huntitled : { s with title := none }.InRange := ⟨h.sorted_attributes, h.parse?_weight⟩
  have hhidden : { s with title := some "" }.InRange := ⟨h.sorted_attributes, h.parse?_weight⟩
  have hsame := (Setting.readsBack huntitled).compact_inj (Setting.readsBack hhidden) heq
  exact absurd (congrArg Setting.title hsame) (by simp)

/-- A hidden setting with attributes is read back, and so are a budget and a seed at the limits. -/
theorem records_read_back_locale :
    let s : Setting := ⟨"tr_TR", some "", 2.5, [("country", "TR"), ("language", "t\"r")]⟩
    let b : Budget := ⟨0, Text.wordCount - 1⟩
    s.InRange ∧ b.InWords ∧ ReadsBack Setting.toJson Setting.ofLiteral? s ∧
      ReadsBack Budget.toJson Budget.ofLiteral? b ∧
      ReadsBack Seed.toJson Seed.ofLiteral? ⟨0xffffffffffffffff, .pullRequest ""⟩ ∧
      { s with title := none }.toJson.compact ≠ s.toJson.compact := by
  intro s b
  have hsorted : "country" < "language" := by decide
  have hweight : (Json.number (.real 2.5)).compact = "2.5" := by decide +kernel
  have hs : s.InRange := by
    refine ⟨List.pairwise_pair.mpr hsorted, ?_⟩
    rw [hweight]
    rfl
  have hb : b.InWords := ⟨by decide, by decide⟩
  obtain ⟨hbudgets, -, hseeds, hsettings, -, -, htitles⟩ := records_read_back
  exact ⟨hs, hb, hsettings s hs, hbudgets b hb, hseeds _, htitles s hs⟩

end TestMatrix

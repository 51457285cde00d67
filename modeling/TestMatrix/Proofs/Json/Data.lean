import TestMatrix.Proofs.Json.Reading

/-!
# Documents of any data

A value is data (`IsData`) if it is made of anything but floating-point numbers, in any nesting. Its
`nesting` is the number of brackets around its innermost part. Data is readable by a reader that
follows as many brackets (`IsData.readable`), and so a document of data is read back from either of
its layouts if its nesting is within the limit of the reader (`Document.reads_back`).

The limit is one of the reader alone. Without it the text still tells which data it was written for:
the structure of a text has no limit, and the data can be made of it (`IsData.literal_inj`).
-/

namespace TestMatrix

namespace Json

/-! ## Data -/

/-- The value is data: its whole numbers have 64 bits, its objects have their keys in ascending
order, and there are no floating-point numbers in it. -/
inductive IsData : Json → Prop
  | null : IsData .null
  | bool (b : Bool) : IsData (.bool b)
  | whole {n : Int} (low : -2 ^ 63 ≤ n) (high : n < 2 ^ 64) : IsData (.number (.whole n))
  | text (s : String) : IsData (.text s)
  | array {items : List Json} (data : ∀ item ∈ items, IsData item) : IsData (.array items)
  | object {members : List (String × Json)} (sorted : Dictionary.Sorted members)
      (data : ∀ member ∈ members, IsData member.2) : IsData (.object members)

mutual

/-- The greatest number of brackets around any part of the value, its own ones included. -/
def nesting : Json → Nat
  | .null => 0
  | .bool _ => 0
  | .number _ => 0
  | .text _ => 0
  | .array items => itemNesting items + 1
  | .object members => memberNesting members + 1

/-- The greatest nesting of some values. -/
def itemNesting : List Json → Nat
  | [] => 0
  | item :: items => max item.nesting (itemNesting items)

/-- The greatest nesting of the values of some members. -/
def memberNesting : List (String × Json) → Nat
  | [] => 0
  | (_, value) :: members => max value.nesting (memberNesting members)

end

variable {j j' : Json} {k : Nat}

/-- No item is nested deeper than the list says. -/
theorem nesting_le_of_mem_items {items : List Json} (h : j ∈ items) :
    j.nesting ≤ itemNesting items := by
  induction items with
  | nil => simp at h
  | cons item items ih =>
    rw [itemNesting]
    rcases List.mem_cons.mp h with rfl | h
    · exact Nat.le_max_left ..
    · exact Nat.le_trans (ih h) (Nat.le_max_right ..)

/-- Nor is the value of a member. -/
theorem nesting_le_of_mem_members {members : List (String × Json)} {member : String × Json}
    (h : member ∈ members) : member.2.nesting ≤ memberNesting members := by
  induction members with
  | nil => simp at h
  | cons first members ih =>
    rw [memberNesting]
    rcases List.mem_cons.mp h with rfl | h
    · exact Nat.le_max_left ..
    · exact Nat.le_trans (ih h) (Nat.le_max_right ..)

/-- Data is readable if all of its brackets are followed. -/
theorem IsData.readable (h : j.IsData) (hk : j.nesting ≤ k) : j.Readable k := by
  -- Inside brackets one level fewer is allowed, and the nesting is one less.
  induction h generalizing k with
  | null => cases k <;> trivial
  | bool b => cases k <;> trivial
  | whole low high => cases k <;> exact ⟨low, high⟩
  | text s => cases k <;> trivial
  | @array items data ih =>
    rw [nesting] at hk
    obtain ⟨k, rfl⟩ := Nat.exists_eq_add_of_lt hk
    rw [Readable, readableItems_iff]
    exact fun item hitem => ih item hitem (by have := nesting_le_of_mem_items hitem; omega)
  | @object members sorted data ih =>
    rw [nesting] at hk
    obtain ⟨k, rfl⟩ := Nat.exists_eq_add_of_lt hk
    rw [Readable, readableMembers_iff]
    exact ⟨sorted, fun member hmember =>
      ih member hmember (by have := nesting_le_of_mem_members hmember; omega)⟩

/-- In any layout that adds spaces only, the text of data has its structure. -/
theorem IsData.ofText?_write {l : Layout} (hl : l.Blank) (h : j.IsData) :
    Literal.ofText? (String.ofList (write l 0 j)) = some j.literal :=
  ofText?_ofList_write hl (h.readable (Nat.le_refl j.nesting))

/-- No two pieces of data have the same structure. -/
theorem IsData.literal_inj (h : j.IsData) (h' : j'.IsData) (heq : j.literal = j'.literal) :
    j = j' := by
  have hread := toJson?_literal j (h.readable (Nat.le_max_left j.nesting j'.nesting))
  have hread' := toJson?_literal j' (h'.readable (Nat.le_max_right j.nesting j'.nesting))
  rw [heq, hread'] at hread
  exact (Option.some.inj hread).symm

end Json

/-! ## Documents -/

namespace Document

/-- All fields of the jobs hold data. -/
def IsData (d : Document) : Prop := ∀ job ∈ d.jobs, (Json.object job).IsData

variable {d d' : Document}

/-- The value of a document is data if its jobs are. -/
theorem IsData.toJson (h : d.IsData) : d.toJson.IsData := by
  have hjobs : (Json.array (d.jobs.map .object)).IsData :=
    .array (List.forall_mem_map.mpr h)
  exact .object (List.pairwise_singleton _ _) (List.forall_mem_singleton.mpr hjobs)

/-- So it can be read back if it is not nested too deeply. -/
theorem IsData.readable (h : d.IsData) (hnesting : d.toJson.nesting ≤ Json.maxDepth) :
    d.Readable := by
  intro job hjob
  have hjobs : (Json.object job).nesting ≤ Json.itemNesting (d.jobs.map .object) :=
    Json.nesting_le_of_mem_items (List.mem_map_of_mem hjob)
  have hdocument : d.toJson.nesting = Json.itemNesting (d.jobs.map .object) + 2 := by
    simp [Document.toJson, Json.nesting, Json.memberNesting]
  apply (h job hjob).readable
  omega

/-- Documents with the same value have the same jobs. -/
theorem toJson_inj (h : d.toJson = d'.toJson) : d = d' := by
  cases d
  cases d'
  have hjobs : Function.Injective (List.map Json.object) :=
    List.map_injective_iff.mpr fun _ _ => Json.object.inj
  simp only [Document.toJson, Json.object.injEq, List.cons.injEq, Prod.mk.injEq, Json.array.injEq,
    and_true, true_and] at h
  rw [hjobs h]

/-- A document of data is read back from its text, on one line or indented, if a reader follows all
of its brackets, and both texts are read alike in any case. No other document of data has the same
text on one line, however many brackets there are. -/
theorem reads_back (h : d.IsData) :
    (d.toJson.nesting ≤ Json.maxDepth →
        ofText? d.compact = some d ∧ ofText? d.pretty = some d) ∧
      ofText? d.compact = ofText? d.pretty ∧
      ∀ d' : Document, d'.IsData → d'.compact = d.compact → d' = d := by
  have hcompact := h.toJson.ofText?_write Json.blank_compactLayout
  have hpretty := h.toJson.ofText?_write Json.blank_prettyLayout
  refine ⟨fun hnesting => ?_, ?_, fun d' h' heq => ?_⟩
  · exact ⟨ofText?_compact (h.readable hnesting), ofText?_pretty (h.readable hnesting)⟩
  · rw [ofText?, ofText?, compact, pretty, Json.compact, Json.pretty, hcompact, hpretty]
  -- A compact text is read as one literal, and data that have the same literal are the same.
  · have hcompact' := h'.toJson.ofText?_write Json.blank_compactLayout
    rw [compact, compact, Json.compact, Json.compact] at heq
    rw [heq, hcompact] at hcompact'
    exact toJson_inj (h'.toJson.literal_inj h.toJson (Option.some.inj hcompact').symm)

/-- Jobs of lists and objects, some of them empty, and a key that is escaped. A word and the text of
it are told apart. -/
theorem reads_back_nested :
    let d (leaf : Json) : Document :=
      ⟨[[("", .array [.number (.whole (-2 ^ 63)), leaf]), ("π\n\"", .object [])], []]⟩
    ofText? (d .null).compact = some (d .null) ∧ ofText? (d .null).pretty = some (d .null) ∧
      (d (.text "null")).compact ≠ (d .null).compact := by
  intro d
  have hdata : ∀ leaf : Json, leaf.IsData → (d leaf).IsData := by
    intro leaf hleaf
    have hitems : (Json.array [.number (.whole (-2 ^ 63)), leaf]).IsData := by
      apply Json.IsData.array
      rw [List.forall_mem_cons, List.forall_mem_singleton]
      exact ⟨.whole (by decide) (by decide), hleaf⟩
    have hempty : (Json.object []).IsData := .object List.Pairwise.nil (List.forall_mem_nil _)
    have hsorted : "" < "π\n\"" := by decide
    rw [IsData, List.forall_mem_cons, List.forall_mem_singleton]
    refine ⟨.object (List.pairwise_pair.mpr hsorted) ?_, hempty⟩
    rw [List.forall_mem_cons, List.forall_mem_singleton]
    exact ⟨hitems, hempty⟩
  obtain ⟨hread, -, hinj⟩ := reads_back (hdata .null .null)
  obtain ⟨hcompact, hpretty⟩ := hread (by decide)
  refine ⟨hcompact, hpretty, fun heq => ?_⟩
  have hsame := hinj (d (.text "null")) (hdata _ (.text "null")) heq
  simp [d] at hsame

end Document

end TestMatrix

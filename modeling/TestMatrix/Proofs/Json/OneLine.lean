import TestMatrix.Document
import TestMatrix.OutputBlock
import Mathlib.Tactic.Common

/-!
# Documents on one line

A writer escapes every character below the space, and all else that it writes itself is printable.
So a compact text is `Plain`: it has no line feeds and no carriage returns (`plain_compact`). A
compact document is one line therefore, which begins with a brace, and so it is never refused as the
value of an output (`render_compact`).
-/

namespace TestMatrix

namespace Json

/-- No character comes before the space. -/
def Plain (cs : List Char) : Prop := ∀ c ∈ cs, ' ' ≤ c

variable {cs cs' : List Char} {c : Char}

@[simp]
theorem plain_nil : Plain [] := List.forall_mem_nil _

@[simp]
theorem plain_cons : Plain (c :: cs) ↔ ' ' ≤ c ∧ Plain cs := List.forall_mem_cons

@[simp]
theorem plain_append : Plain (cs ++ cs') ↔ Plain cs ∧ Plain cs' := List.forall_mem_append

/-- A choice between plain texts is plain. -/
theorem plain_ite {p : Prop} [Decidable p] (h : Plain cs) (h' : Plain cs') :
    Plain (if p then cs else cs') := by
  split
  · exact h
  · exact h'

/-! ## Numbers -/

/-- Digits come behind the space. -/
theorem le_of_isDigit (h : c.isDigit = true) : ' ' ≤ c := by
  rw [Char.isDigit, Bool.and_eq_true, decide_eq_true_eq] at h
  have hzero : '0'.val ≤ c.val := h.1
  have hspace : ' '.val ≤ '0'.val := by decide
  exact UInt32.le_trans hspace hzero

theorem plain_toDigits (n : Nat) : Plain (Nat.toDigits 10 n) := fun _ hc =>
  le_of_isDigit (Nat.isDigit_of_mem_toDigits (by decide) (by decide) hc)

theorem plain_replicate_zero (n : Nat) : Plain (List.replicate n '0') := fun c hc => by
  rw [List.eq_of_mem_replicate hc]
  decide

/-- A decimal in positional notation has digits and a point only, wherever the point stands. -/
theorem plain_positionalChars (l : Decimal.Layout) (d : Decimal) :
    Plain (Decimal.positionalChars l d) := by
  have hdigits : Plain d.digitChars := plain_toDigits d.digits
  have htake : ∀ n, Plain (d.digitChars.take n) := fun n c hc => hdigits c (List.mem_of_mem_take hc)
  have hdrop : ∀ n, Plain (d.digitChars.drop n) := fun n c hc => hdigits c (List.mem_of_mem_drop hc)
  rw [Decimal.positionalChars]
  -- The point comes in front of all digits, behind them, or among them.
  split
  · simp [hdigits, plain_replicate_zero]
  · split
    · cases l.wholeFraction <;> simp [hdigits, plain_replicate_zero]
    · simp [htake, hdrop]

/-- In scientific notation it has an exponent besides. -/
theorem plain_scientificChars (d : Decimal) : Plain (Decimal.scientificChars d) := by
  have hdigits : Plain d.digitChars := plain_toDigits d.digits
  have hsign : ' ' ≤ if d.point - 1 < 0 then '-' else '+' := by
    split <;> decide
  have hpower : Plain ['e', if d.point - 1 < 0 then '-' else '+'] :=
    plain_cons.mpr ⟨by decide, plain_cons.mpr ⟨hsign, plain_nil⟩⟩
  rw [Decimal.scientificChars, plain_append, plain_append]
  refine ⟨⟨?_, hpower⟩, plain_toDigits _⟩
  split
  · next first hchars =>
    rw [hchars] at hdigits
    exact hdigits
  · next first rest _ hchars =>
    rw [hchars, plain_cons] at hdigits
    exact plain_cons.mpr ⟨hdigits.1, plain_cons.mpr ⟨by decide, hdigits.2⟩⟩
  · exact plain_nil

/-- A floating-point number is plain, also where a word is written for it. -/
theorem plain_renderFloat (l : Decimal.Layout) (x : Float) : Plain (Decimal.renderFloat l x) := by
  rw [Decimal.renderFloat, Decimal.render, plain_append]
  constructor
  · split <;> simp
  · split
    · cases l.wholeFraction <;> simp
    · split
      · exact plain_positionalChars l _
      · exact plain_scientificChars _

/-- A number is written plainly, whatever its kind. -/
theorem plain_writeNumber (n : Number) : Plain (writeNumber n) := by
  cases n with
  | whole n =>
    rw [writeNumber, writeInt]
    split <;> simp [plain_toDigits]
  | real x =>
    rw [writeNumber]
    split
    · exact plain_renderFloat realLayout x
    · simp

/-! ## Texts -/

theorem plain_hexPair {n : Nat} (h : n < 256) : Plain (hexPair n) := by
  have hdigit : ∀ n < 16, ' ' ≤ Nat.digitChar n := by decide
  rw [hexPair, plain_cons, plain_cons]
  exact ⟨hdigit _ (by omega), hdigit _ (by omega), plain_nil⟩

/-- A character below the space is not written as it is. -/
theorem plain_escapeChar (c : Char) : Plain (escapeChar c) := by
  have hlast : Plain (if c < ' ' then ['\\', 'u', '0', '0'] ++ hexPair c.toNat else [c]) := by
    split
    · next hsmall =>
      have hlt : c.toNat < 256 := Nat.lt_trans hsmall (by decide)
      simp [plain_hexPair hlt]
    · next hlarge => simpa using hlarge
  unfold escapeChar
  -- The characters with an escape of their own.
  iterate 7
    apply plain_ite
    · simp
  exact hlast

/-- A text is written plainly, because what is not plain in it is escaped. -/
theorem plain_writeText (s : String) : Plain (writeText s) := by
  have hescaped : Plain (s.toList.flatMap escapeChar) := by
    intro c hc
    obtain ⟨source, -, hc⟩ := List.mem_flatMap.mp hc
    exact plain_escapeChar source c hc
  simp [writeText, hescaped]

/-! ## Values -/

@[simp]
theorem compactLayout_gap (depth : Nat) : compactLayout.gap depth = [] := rfl

@[simp]
theorem compactLayout_afterColon : compactLayout.afterColon = [] := rfl

mutual

/-- A value is plain in the compact layout, which adds nothing to what its parts are written as. -/
theorem plain_write (depth : Nat) : ∀ j : Json, Plain (write compactLayout depth j)
  | .null => by simp [write]
  | .bool b => by cases b <;> simp [write]
  | .number n => by
    rw [write]
    exact plain_writeNumber n
  | .text s => by
    rw [write]
    exact plain_writeText s
  | .array [] => by simp [write]
  -- Gaps between the items would be plain only if they had no line feeds; here they are empty.
  | .array (item :: items) => by
    have hitem := plain_write (depth + 1) item
    have hitems := plain_writeItems (depth + 1) items
    simp [write, hitem, hitems]
  | .object [] => by simp [write]
  | .object ((key, value) :: members) => by
    have hvalue := plain_write (depth + 1) value
    have hmembers := plain_writeMembers (depth + 1) members
    simp [write, plain_writeText, hvalue, hmembers]

/-- So are the items of a list behind the first. -/
theorem plain_writeItems (depth : Nat) : ∀ items : List Json,
    Plain (writeItems compactLayout depth items)
  | [] => by simp [writeItems]
  | item :: items => by
    have hitem := plain_write depth item
    have hitems := plain_writeItems depth items
    simp [writeItems, hitem, hitems]

/-- So are the members of an object behind the first. -/
theorem plain_writeMembers (depth : Nat) : ∀ members : List (String × Json),
    Plain (writeMembers compactLayout depth members)
  | [] => by simp [writeMembers]
  | (key, value) :: members => by
    have hvalue := plain_write depth value
    have hmembers := plain_writeMembers depth members
    simp [writeMembers, plain_writeText, hvalue, hmembers]

end

/-- The compact text of a value is plain. -/
theorem plain_compact (j : Json) : Plain j.compact.toList := by
  rw [compact, String.toList_ofList]
  exact plain_write 0 j

end Json

/-! ## Outputs -/

/-- A text without line feeds has no lines but itself. -/
theorem Text.eq_of_mem_lines {cs line : List Char} (h : '\n' ∉ cs) (hline : line ∈ lines cs) :
    line = cs := by
  rw [lines, List.splitOn_eq_singleton h, endLines] at hline
  split at hline
  · simp at hline
  · exact List.mem_singleton.mp hline

namespace Document

/-- A document begins with a brace. -/
theorem head?_compact (d : Document) : d.compact.toList.head? = some '\x7b' := by
  rw [compact, Json.compact, String.toList_ofList, toJson, Json.write]
  rfl

/-- No control character is in a compact document. -/
theorem not_mem_compact (d : Document) {c : Char} (hc : c < ' ') : c ∉ d.compact.toList :=
  fun hmem => absurd (Json.plain_compact d.toJson c hmem) (Char.not_le.mpr hc)

/-- A compact document is never refused as an output. -/
theorem render_compact (d : Document) :
    OutputBlock.render key d.compact = .ok (OutputBlock.block key d.compact) := by
  have hcollides : ¬OutputBlock.collides key d.compact := by
    intro hcollides
    have hline := d.not_mem_compact (c := '\n') (by decide)
    -- A text without line feeds is a single line, which begins with a brace and not with a letter.
    have hdelimiter := Text.eq_of_mem_lines hline (List.contains_iff_mem.mp hcollides)
    have hhead := head?_compact d
    rw [← hdelimiter] at hhead
    exact absurd hhead (by decide +kernel)
  rw [OutputBlock.render, if_neg hcollides]

end Document

end TestMatrix

import Mathlib.Data.List.Forall2
import TestMatrix.Proofs.Json.Numerals
import TestMatrix.Proofs.Json.Reading

/-!
# Records read back

The text of a value is read as a literal (`ReadsAs`) if it is written as tokens of which the machine
makes that literal, wherever the value stands. Texts and numbers are, and an object is if its
members are (`ReadsAs.object`), in whatever order its keys come. So the structure of a record can be
told from its fields, floating-point numbers among them, and a record is read back (`ReadsBack`) if
its reader makes it of that structure.
-/

namespace TestMatrix.Json

open Machine

variable {l : Layout} {depth : Nat} {j : Json} {v : Literal}

/-! ## The structure of a value -/

/-- In front of what does not go on with it, the value is written as tokens, and where a value is
due, these tokens put the literal there. -/
def ReadsAs (l : Layout) (depth : Nat) (j : Json) (v : Literal) : Prop :=
  ∃ tokens : List Token,
    (∀ {rest : List Char} {ts : List Token}, Closed rest → Token.ofText? rest = some ts →
      Token.ofText? (write l depth j ++ rest) = some (tokens ++ ts)) ∧
    ∀ (stack : List Frame) (ts : List Token), (tokens ++ ts).foldlM step ⟨stack, .value⟩ =
      (accept v stack).bind fun s => ts.foldlM step s

theorem ReadsAs.text (s : String) : ReadsAs l depth (.text s) (.text (some s)) :=
  ⟨[.text (some s)], fun _ h => ofText?_writeText s h, fun _ _ => rfl⟩

theorem ReadsAs.ofNat (n : Nat) : ReadsAs l depth (.ofNat n) (.number (wholeNumeral n)) :=
  ⟨[.number (wholeNumeral n)], fun hrest h => ofText?_writeInt n hrest h, fun _ _ => rfl⟩

/-- A finite number is read as one numeral wherever it stands. -/
theorem exists_readsAs_real {x : Float} (hx : x.isFinite = true) :
    ∃ n, ∀ {l : Layout} {depth : Nat}, ReadsAs l depth (.number (.real x)) (.number n) := by
  obtain ⟨n, hread⟩ := exists_ofText?_writeNumber hx
  exact ⟨n, ⟨[.number n], hread, fun _ _ => rfl⟩⟩

/-- A member is read as its key with what its value is read as. -/
def MemberReadsAs (l : Layout) (depth : Nat) (member : String × Json)
    (read : Option String × Literal) : Prop :=
  read.1 = some member.1 ∧ ReadsAs l depth member.2 read.2

variable {members : List (String × Json)} {reads : List (Option String × Literal)}

/-- Further members are written as tokens that put them on top of those before them. -/
theorem exists_memberTokens (hl : l.Blank)
    (h : List.Forall₂ (MemberReadsAs l depth) members reads) : ∃ tokens : List Token,
      (∀ {rest : List Char} {ts : List Token}, Closed rest → Token.ofText? rest = some ts →
        Token.ofText? (writeMembers l depth members ++ rest) = some (tokens ++ ts)) ∧
      ∀ (done : List (Option String × Literal)) (outer : List Frame) (ts : List Token),
        (tokens ++ ts).foldlM step ⟨.object done :: outer, .next⟩ =
          ts.foldlM step ⟨.object (reads.reverse ++ done) :: outer, .next⟩ := by
  induction h with
  | nil => exact ⟨[], fun _ h => h, fun _ _ _ => rfl⟩
  | @cons member read members reads hmember hmembers ih =>
    obtain ⟨key, value⟩ := member
    obtain ⟨readKey, v⟩ := read
    obtain ⟨rfl, valueTokens, hvalue, hvalueStep⟩ := hmember
    obtain ⟨tokens, htokens, hstep⟩ := ih
    refine ⟨.comma :: .text (some key) :: .colon :: (valueTokens ++ tokens), ?_, ?_⟩
    · intro rest ts hrest h
      have hfirst := hvalue (closed_writeMembers hrest depth members) (htokens hrest h)
      have hcomma := Token.ofText?_mark (c := ',') (by decide) (fun _ => rfl)
        (ofText?_key hl depth key hfirst)
      simpa [writeMembers] using hcomma
    · intro done outer ts
      calc (Token.comma :: .text (some key) :: .colon :: (valueTokens ++ tokens) ++ ts).foldlM step
            ⟨.object done :: outer, .next⟩
          = (valueTokens ++ (tokens ++ ts)).foldlM step
              ⟨.member done key :: outer, .value⟩ := by simp [step, separate, beginMember]
        _ = (tokens ++ ts).foldlM step ⟨.object ((some key, v) :: done) :: outer, .next⟩ :=
            hvalueStep ..
        _ = ts.foldlM step
              ⟨.object (((some key, v) :: reads).reverse ++ done) :: outer, .next⟩ := by
          rw [hstep]
          simp

/-- An object is read as its members are, in their order. -/
theorem ReadsAs.object (hl : l.Blank)
    (h : List.Forall₂ (MemberReadsAs l (depth + 1)) members reads) :
    ReadsAs l depth (.object members) (.object reads) := by
  cases h with
  | nil =>
    refine ⟨[.openObject, .closeObject], fun _ h => ?_, fun stack ts => ?_⟩
    · exact Token.ofText?_mark (by decide) (fun _ => rfl)
        (Token.ofText?_mark (by decide) (fun _ => rfl) h)
    · simp [step, beginValue, close, beginMember]
  | @cons member read members reads hmember hmembers =>
    obtain ⟨key, value⟩ := member
    obtain ⟨readKey, v⟩ := read
    obtain ⟨rfl, valueTokens, hvalue, hvalueStep⟩ := hmember
    obtain ⟨tokens, htokens, hstep⟩ := exists_memberTokens hl hmembers
    refine ⟨.openObject :: .text (some key) :: .colon :: (valueTokens ++ tokens ++ [.closeObject]),
      fun {rest ts} hrest h => ?_, fun stack ts => ?_⟩
    -- Reading the text goes from the closing bracket back to the opening one.
    · have hend : Token.ofText? (l.gap depth ++ '\x7d' :: rest) = some (.closeObject :: ts) :=
        Token.ofText?_spaces (hl.gap depth) (Token.ofText?_mark (by decide) (fun _ => rfl) h)
      have hclosed := hl.closed (c := '\x7d') (by simp) depth rest
      have hfirst := hvalue (closed_writeMembers hclosed (depth + 1) members)
        (htokens hclosed hend)
      have hstart := Token.ofText?_mark (c := '\x7b') (by decide) (fun _ => rfl)
        (ofText?_key hl (depth + 1) key hfirst)
      simpa [write] using hstart
    -- Putting together goes from the opening bracket to the closing one.
    · calc (Token.openObject :: .text (some key) :: .colon ::
              (valueTokens ++ tokens ++ [.closeObject]) ++ ts).foldlM step ⟨stack, .value⟩
          = (valueTokens ++ (tokens ++ .closeObject :: ts)).foldlM step
              ⟨.member [] key :: stack, .value⟩ := by simp [step, beginValue, close, beginMember]
        _ = (tokens ++ .closeObject :: ts).foldlM step
              ⟨.object [(some key, v)] :: stack, .next⟩ := hvalueStep ..
        _ = (.closeObject :: ts).foldlM step
              ⟨.object (reads.reverse ++ [(some key, v)]) :: stack, .next⟩ := hstep ..
        _ = (accept (.object ((some key, v) :: reads)) stack).bind
              fun s => ts.foldlM step s := by simp [step, close]

/-- On its own, a value is the text of the literal that it is read as. -/
theorem ReadsAs.ofText?_write (h : ReadsAs l 0 j v) :
    Literal.ofText? (String.ofList (write l 0 j)) = some v := by
  obtain ⟨tokens, htokens, hstep⟩ := h
  have hread : Token.ofText? (write l 0 j) = some tokens := by
    simpa using htokens closed_nil rfl
  have hmachine := hstep [] []
  rw [List.append_nil] at hmachine
  rw [Literal.ofText?, String.toList_ofList, hread, Option.bind_some, Literal.ofTokens?,
    Machine.start, hmachine]
  rfl

/-! ## Reading records back -/

variable {α : Type} {toJson : α → Json} {ofLiteral? : Literal → Option α} {x x' : α}

/-- The record is read back from its text, on one line as well as indented. -/
structure ReadsBack (toJson : α → Json) (ofLiteral? : Literal → Option α) (x : α) : Prop where
  compact : (Literal.ofText? (toJson x).compact).bind ofLiteral? = some x
  pretty : (Literal.ofText? (toJson x).pretty).bind ofLiteral? = some x

/-- A record is read back if it is what its structure is read as. -/
theorem ReadsAs.readsBack (hread : ∀ {l : Layout}, l.Blank → ReadsAs l 0 (toJson x) v)
    (h : ofLiteral? v = some x) : ReadsBack toJson ofLiteral? x := by
  refine ⟨?_, ?_⟩
  · rw [Json.compact, (hread blank_compactLayout).ofText?_write, Option.bind_some, h]
  · rw [Json.pretty, (hread blank_prettyLayout).ofText?_write, Option.bind_some, h]

/-- No two records that are read back have the same text. -/
theorem ReadsBack.compact_inj (h : ReadsBack toJson ofLiteral? x)
    (h' : ReadsBack toJson ofLiteral? x') (heq : (toJson x).compact = (toJson x').compact) :
    x = x' := by
  have hread := h.compact
  rw [heq, h'.compact] at hread
  exact (Option.some.inj hread).symm

end TestMatrix.Json

import Mathlib.Algebra.Group.Int.Defs
import TestMatrix.Document
import TestMatrix.Proofs.Dictionary
import TestMatrix.Proofs.Json.Tokens

/-!
# Values read back

A value is written, divided into tokens, put together from the tokens by a machine with a stack, and
given its meaning. Each step has a lemma here that says what becomes of the value: it is written as
`Json.tokens` in any layout that adds spaces only (`ofText?_write`), the machine makes
`Json.literal` of these tokens wherever a value is due (`foldlM_tokens`), and that means the value
again (`toJson?_literal`) if it is `Readable`. So documents with readable jobs are read back, on one
line as well as indented (`Document.ofText?_write`).
-/

namespace TestMatrix

namespace Json

/-! ## What a value becomes on the way -/

mutual

/-- The tokens of a value. Floating-point numbers are left out: they count as `null`. -/
def tokens : Json → List Token
  | .null => [.null]
  | .bool b => [.bool b]
  | .number (.whole n) => [.number (wholeNumeral n)]
  | .number (.real _) => [.null]
  | .text s => [.text (some s)]
  | .array [] => [.openArray, .closeArray]
  | .array (item :: items) =>
    .openArray :: (item.tokens ++ itemTokens items ++ [.closeArray])
  | .object [] => [.openObject, .closeObject]
  | .object ((key, value) :: members) =>
    .openObject :: .text (some key) :: .colon ::
      (value.tokens ++ memberTokens members ++ [.closeObject])

/-- The tokens of the items of a list after the first. -/
def itemTokens : List Json → List Token
  | [] => []
  | item :: items => .comma :: (item.tokens ++ itemTokens items)

/-- The tokens of the members of an object after the first. -/
def memberTokens : List (String × Json) → List Token
  | [] => []
  | (key, value) :: members =>
    .comma :: .text (some key) :: .colon :: (value.tokens ++ memberTokens members)

end

mutual

/-- The structure of the text of a value. -/
def literal : Json → Literal
  | .null => .null
  | .bool b => .bool b
  | .number (.whole n) => .number (wholeNumeral n)
  | .number (.real _) => .null
  | .text s => .text (some s)
  | .array items => .array (itemLiterals items)
  | .object members => .object (memberLiterals members)

/-- The structures of some values. -/
def itemLiterals : List Json → List Literal
  | [] => []
  | item :: items => item.literal :: itemLiterals items

/-- The structures of some members. -/
def memberLiterals : List (String × Json) → List (Option String × Literal)
  | [] => []
  | (key, value) :: members => (some key, value.literal) :: memberLiterals members

end

mutual

/-- The value can be read back: its numbers are whole ones of 64 bits, the keys of its objects are
in ascending order, and there are at most so many brackets around any part of it. -/
def Readable : Nat → Json → Prop
  | _, .null => True
  | _, .bool _ => True
  | _, .number (.whole n) => -2 ^ 63 ≤ n ∧ n < 2 ^ 64
  | _, .number (.real _) => False
  | _, .text _ => True
  | 0, .array _ => False
  | depth + 1, .array items => ReadableItems depth items
  | 0, .object _ => False
  | depth + 1, .object members => Dictionary.Sorted members ∧ ReadableMembers depth members

/-- All items of a list can be read back. -/
def ReadableItems (depth : Nat) : List Json → Prop
  | [] => True
  | item :: items => item.Readable depth ∧ ReadableItems depth items

/-- The values of all members of an object can be read back. -/
def ReadableMembers (depth : Nat) : List (String × Json) → Prop
  | [] => True
  | (_, value) :: members => value.Readable depth ∧ ReadableMembers depth members

end

variable {l : Layout} {rest : List Char} {ts : List Token} {c : Char}

/-! ## Values as tokens -/

/-- A layout that adds spaces only. -/
structure Layout.Blank (l : Layout) : Prop where
  gap : ∀ depth, ∀ c ∈ l.gap depth, isSpace c = true
  afterColon : ∀ c ∈ l.afterColon, isSpace c = true

theorem blank_compactLayout : compactLayout.Blank :=
  ⟨by simp [compactLayout], by simp [compactLayout]⟩

/-- The indented layout adds line feeds and spaces only. -/
theorem blank_prettyLayout : prettyLayout.Blank where
  gap depth c hc := by
    rcases List.mem_cons.mp hc with rfl | hc
    · decide
    · rw [List.eq_of_mem_replicate hc]
      decide
  afterColon c hc := by
    rw [List.eq_of_mem_singleton hc]
    decide

theorem closed_nil : Closed [] := by simp [Closed]

/-- Punctuation does not go on with a numeral. -/
theorem closed_mark (hc : c ∈ [',', ']', '\x7d']) (rest : List Char) : Closed (c :: rest) := by
  simp only [List.mem_cons, List.not_mem_nil, or_false] at hc
  rcases hc with rfl | rfl | rfl <;> simp [Closed]

/-- Nor does a space. -/
theorem closed_space (hc : isSpace c = true) (rest : List Char) : Closed (c :: rest) := by
  simp only [isSpace, Bool.or_eq_true, decide_eq_true_eq] at hc
  rcases hc with ((rfl | rfl) | rfl) | rfl <;> simp [Closed]

/-- Nor does a gap before punctuation. -/
theorem Layout.Blank.closed (hl : l.Blank) (hc : c ∈ [',', ']', '\x7d']) (depth : Nat)
    (rest : List Char) : Closed (l.gap depth ++ c :: rest) := by
  cases hgap : l.gap depth with
  | nil => exact closed_mark hc rest
  | cons space spaces =>
    have hspace : isSpace space = true := hl.gap depth space (by simp [hgap])
    exact closed_space hspace _

/-- What follows an item, be it the next one or the end of the list, does not go on with a numeral.
-/
theorem closed_writeItems (hrest : Closed rest) (depth : Nat) (items : List Json) :
    Closed (writeItems l depth items ++ rest) := by
  cases items with
  | nil => rwa [writeItems, List.nil_append]
  | cons item items => exact closed_mark (by simp) _

/-- Nor does what follows the value of a member. -/
theorem closed_writeMembers (hrest : Closed rest) (depth : Nat) (members : List (String × Json)) :
    Closed (writeMembers l depth members ++ rest) := by
  cases members with
  | nil => rwa [writeMembers, List.nil_append]
  | cons member members => exact closed_mark (by simp) _

/-- The key of a member is written as two tokens in front of those of its value. -/
theorem ofText?_key (hl : l.Blank) (depth : Nat) (key : String) (h : Token.ofText? rest = some ts) :
    Token.ofText? (l.gap depth ++ (writeText key ++ ':' :: (l.afterColon ++ rest))) =
      some (.text (some key) :: .colon :: ts) := by
  have hcolon := Token.ofText?_mark (c := ':') (by decide) (fun _ => rfl)
    (Token.ofText?_spaces hl.afterColon h)
  exact Token.ofText?_spaces (hl.gap depth) (ofText?_writeText key hcolon)

mutual

/-- A value is written as its tokens, if nothing goes on with it. -/
theorem ofText?_write (hl : l.Blank) (depth : Nat) : ∀ (j : Json) {k : Nat} {rest : List Char}
    {ts : List Token}, j.Readable k → Closed rest → Token.ofText? rest = some ts →
      Token.ofText? (write l depth j ++ rest) = some (j.tokens ++ ts)
  | .null, _, _, _, _, _, h => Token.ofText?_word "ull".toList (by decide) (fun _ => rfl) h
  | .bool true, _, _, _, _, _, h => Token.ofText?_word "rue".toList (by decide) (fun _ => rfl) h
  | .bool false, _, _, _, _, _, h => Token.ofText?_word "alse".toList (by decide) (fun _ => rfl) h
  | .number (.whole n), _, _, _, _, hrest, h => by
    rw [write, writeNumber, tokens]
    exact ofText?_writeInt n hrest h
  | .number (.real x), k, _, _, hread, _, _ => by cases k <;> simp [Readable] at hread
  | .text s, _, _, _, _, _, h => by
    rw [write, tokens]
    exact ofText?_writeText s h
  | .array [], _, _, _, _, _, h =>
    Token.ofText?_mark (by decide) (fun _ => rfl) (Token.ofText?_mark (by decide) (fun _ => rfl) h)
  | .array (item :: items), 0, _, _, hread, _, _ => by simp [Readable] at hread
  -- What has been written is read from behind: the bracket at the end first, then the items.
  | .array (item :: items), k + 1, rest, ts, hread, _, h => by
    rw [Readable, ReadableItems] at hread
    have hend : Token.ofText? (l.gap depth ++ ']' :: rest) = some (.closeArray :: ts) :=
      Token.ofText?_spaces (hl.gap depth) (Token.ofText?_mark (by decide) (fun _ => rfl) h)
    have hclosed := hl.closed (c := ']') (by simp) depth rest
    have hitems := ofText?_writeItems hl (depth + 1) items hread.2 hclosed hend
    have hitem := ofText?_write hl (depth + 1) item hread.1
      (closed_writeItems hclosed (depth + 1) items) hitems
    have hstart := Token.ofText?_mark (c := '[') (by decide) (fun _ => rfl)
      (Token.ofText?_spaces (hl.gap (depth + 1)) hitem)
    simpa [write, tokens] using hstart
  | .object [], _, _, _, _, _, h =>
    Token.ofText?_mark (by decide) (fun _ => rfl) (Token.ofText?_mark (by decide) (fun _ => rfl) h)
  | .object ((key, value) :: members), 0, _, _, hread, _, _ => by simp [Readable] at hread
  | .object ((key, value) :: members), k + 1, rest, ts, hread, _, h => by
    rw [Readable, ReadableMembers] at hread
    have hend : Token.ofText? (l.gap depth ++ '\x7d' :: rest) = some (.closeObject :: ts) :=
      Token.ofText?_spaces (hl.gap depth) (Token.ofText?_mark (by decide) (fun _ => rfl) h)
    have hclosed := hl.closed (c := '\x7d') (by simp) depth rest
    have hmembers := ofText?_writeMembers hl (depth + 1) members hread.2.2 hclosed hend
    have hvalue := ofText?_write hl (depth + 1) value hread.2.1
      (closed_writeMembers hclosed (depth + 1) members) hmembers
    have hstart := Token.ofText?_mark (c := '\x7b') (by decide) (fun _ => rfl)
      (ofText?_key hl (depth + 1) key hvalue)
    simpa [write, tokens] using hstart

/-- The items of a list behind the first are read as their tokens. -/
theorem ofText?_writeItems (hl : l.Blank) (depth : Nat) : ∀ (items : List Json) {k : Nat}
    {rest : List Char} {ts : List Token}, ReadableItems k items → Closed rest →
      Token.ofText? rest = some ts →
      Token.ofText? (writeItems l depth items ++ rest) = some (itemTokens items ++ ts)
  | [], _, _, _, _, _, h => h
  | item :: items, _, _, _, hread, hrest, h => by
    rw [ReadableItems] at hread
    have hitems := ofText?_writeItems hl depth items hread.2 hrest h
    have hitem := ofText?_write hl depth item hread.1 (closed_writeItems hrest depth items) hitems
    have hcomma := Token.ofText?_mark (c := ',') (by decide) (fun _ => rfl)
      (Token.ofText?_spaces (hl.gap depth) hitem)
    simpa [writeItems, itemTokens] using hcomma

/-- The members of an object behind the first are read as their tokens. -/
theorem ofText?_writeMembers (hl : l.Blank) (depth : Nat) : ∀ (members : List (String × Json))
    {k : Nat} {rest : List Char} {ts : List Token}, ReadableMembers k members → Closed rest →
      Token.ofText? rest = some ts →
      Token.ofText? (writeMembers l depth members ++ rest) = some (memberTokens members ++ ts)
  | [], _, _, _, _, _, h => h
  | (key, value) :: members, _, _, _, hread, hrest, h => by
    rw [ReadableMembers] at hread
    have hmembers := ofText?_writeMembers hl depth members hread.2 hrest h
    have hvalue := ofText?_write hl depth value hread.1
      (closed_writeMembers hrest depth members) hmembers
    have hcomma := Token.ofText?_mark (c := ',') (by decide) (fun _ => rfl)
      (ofText?_key hl depth key hvalue)
    simpa [writeMembers, memberTokens] using hcomma

end

/-! ## Tokens as structures -/

namespace Machine

/-- A value does not begin with a closing bracket. -/
theorem tokens_eq_cons (j : Json) : ∃ t ts, j.tokens = t :: ts ∧ t ≠ .closeArray := by
  unfold tokens
  split <;> exact ⟨_, _, rfl, by simp⟩

/-- So the first item of a list is taken as any value is. -/
theorem foldlM_firstItem (j : Json) (outer : List Frame) (ts : List Token) :
    (j.tokens ++ ts).foldlM step ⟨.array [] :: outer, .firstItem⟩ =
      (j.tokens ++ ts).foldlM step ⟨.array [] :: outer, .value⟩ := by
  obtain ⟨t, rest, htokens, hne⟩ := tokens_eq_cons j
  have hstep : step ⟨.array [] :: outer, .firstItem⟩ t = step ⟨.array [] :: outer, .value⟩ t := by
    cases t <;> simp [step, close] at hne ⊢
  rw [htokens, List.cons_append, List.foldlM_cons, List.foldlM_cons, hstep]

mutual

/-- Where a value is due, its tokens put it there. -/
theorem foldlM_tokens : ∀ (j : Json) (stack : List Frame) (ts : List Token),
    (j.tokens ++ ts).foldlM step ⟨stack, .value⟩ =
      (accept j.literal stack).bind fun s => ts.foldlM step s
  | .null, stack, ts => rfl
  | .bool b, stack, ts => rfl
  | .number (.whole n), stack, ts => rfl
  | .number (.real x), stack, ts => rfl
  | .text s, stack, ts => rfl
  | .array [], stack, ts => by
    simp [tokens, literal, itemLiterals, step, beginValue, close]
  -- The open list is on the stack while its items are read, the last one on top.
  | .array (item :: items), stack, ts => by
    have hitem := foldlM_tokens item (.array [] :: stack) (itemTokens items ++ .closeArray :: ts)
    have hitems := foldlM_itemTokens items [item.literal] stack (.closeArray :: ts)
    calc ((Json.array (item :: items)).tokens ++ ts).foldlM step ⟨stack, .value⟩
        = (item.tokens ++ (itemTokens items ++ .closeArray :: ts)).foldlM step
            ⟨.array [] :: stack, .firstItem⟩ := by simp [tokens, step, beginValue]
      _ = (itemTokens items ++ .closeArray :: ts).foldlM step
            ⟨.array [item.literal] :: stack, .next⟩ := (foldlM_firstItem ..).trans hitem
      _ = (.closeArray :: ts).foldlM step
            ⟨.array ((itemLiterals items).reverse ++ [item.literal]) :: stack, .next⟩ := hitems
      _ = (accept (Json.array (item :: items)).literal stack).bind fun s => ts.foldlM step s := by
        simp [step, close, literal, itemLiterals]
  | .object [], stack, ts => by
    simp [tokens, literal, memberLiterals, step, beginValue, close, beginMember]
  | .object ((key, value) :: members), stack, ts => by
    have hvalue := foldlM_tokens value (.member [] key :: stack)
      (memberTokens members ++ .closeObject :: ts)
    have hmembers := foldlM_memberTokens members [(some key, value.literal)] stack
      (.closeObject :: ts)
    calc ((Json.object ((key, value) :: members)).tokens ++ ts).foldlM step ⟨stack, .value⟩
        = (value.tokens ++ (memberTokens members ++ .closeObject :: ts)).foldlM step
            ⟨.member [] key :: stack, .value⟩ := by
          simp [tokens, step, beginValue, close, beginMember]
      _ = (memberTokens members ++ .closeObject :: ts).foldlM step
            ⟨.object [(some key, value.literal)] :: stack, .next⟩ := hvalue
      _ = (.closeObject :: ts).foldlM step ⟨.object ((memberLiterals members).reverse ++
            [(some key, value.literal)]) :: stack, .next⟩ := hmembers
      _ = (accept (Json.object ((key, value) :: members)).literal stack).bind
            fun s => ts.foldlM step s := by
        simp [step, close, literal, memberLiterals]

/-- The further items of a list go on top of those before them. -/
theorem foldlM_itemTokens : ∀ (items : List Json) (done : List Literal) (outer : List Frame)
    (ts : List Token), (itemTokens items ++ ts).foldlM step ⟨.array done :: outer, .next⟩ =
      ts.foldlM step ⟨.array ((itemLiterals items).reverse ++ done) :: outer, .next⟩
  | [], done, outer, ts => rfl
  | item :: items, done, outer, ts => by
    have hitem := foldlM_tokens item (.array done :: outer) (itemTokens items ++ ts)
    have hitems := foldlM_itemTokens items (item.literal :: done) outer ts
    calc (itemTokens (item :: items) ++ ts).foldlM step ⟨.array done :: outer, .next⟩
        = (item.tokens ++ (itemTokens items ++ ts)).foldlM step
            ⟨.array done :: outer, .value⟩ := by simp [itemTokens, step, separate]
      _ = (itemTokens items ++ ts).foldlM step
            ⟨.array (item.literal :: done) :: outer, .next⟩ := hitem
      _ = ts.foldlM step ⟨.array ((itemLiterals (item :: items)).reverse ++ done) :: outer,
            .next⟩ := by rw [hitems]; simp [itemLiterals]

/-- The further members of an object go on top of those before them. -/
theorem foldlM_memberTokens : ∀ (members : List (String × Json))
    (done : List (Option String × Literal)) (outer : List Frame) (ts : List Token),
    (memberTokens members ++ ts).foldlM step ⟨.object done :: outer, .next⟩ =
      ts.foldlM step ⟨.object ((memberLiterals members).reverse ++ done) :: outer, .next⟩
  | [], done, outer, ts => rfl
  | (key, value) :: members, done, outer, ts => by
    have hvalue := foldlM_tokens value (.member done key :: outer) (memberTokens members ++ ts)
    have hmembers := foldlM_memberTokens members ((some key, value.literal) :: done) outer ts
    calc (memberTokens ((key, value) :: members) ++ ts).foldlM step ⟨.object done :: outer, .next⟩
        = (value.tokens ++ (memberTokens members ++ ts)).foldlM step
            ⟨.member done key :: outer, .value⟩ := by
          simp [memberTokens, step, separate, beginMember]
      _ = (memberTokens members ++ ts).foldlM step
            ⟨.object ((some key, value.literal) :: done) :: outer, .next⟩ := hvalue
      _ = ts.foldlM step ⟨.object ((memberLiterals ((key, value) :: members)).reverse ++ done) ::
            outer, .next⟩ := by rw [hmembers]; simp [memberLiterals]

end

end Machine

/-- The text of a value has its structure. -/
theorem ofText?_ofList_write (hl : l.Blank) {j : Json} {k : Nat} (hread : j.Readable k) :
    Literal.ofText? (String.ofList (write l 0 j)) = some j.literal := by
  have hnothing : Token.ofText? [] = some [] := rfl
  have htokens : Token.ofText? (write l 0 j) = some j.tokens := by
    simpa using ofText?_write hl 0 j hread closed_nil hnothing
  have hmachine := Machine.foldlM_tokens j [] []
  rw [List.append_nil] at hmachine
  rw [Literal.ofText?, String.toList_ofList, htokens, Option.bind_some, Literal.ofTokens?,
    Machine.start, hmachine]
  rfl

/-! ## Structures as values -/

/-- A whole number of 64 bits is what its numeral is read as. -/
theorem ofNumeral?_wholeNumeral {n : Int} (hlow : -2 ^ 63 ≤ n) (hhigh : n < 2 ^ 64) :
    Number.ofNumeral? (wholeNumeral n) = some (.whole n) := by
  have hword : n.natAbs < Text.wordCount := by
    rw [Text.wordCount]
    omega
  have hwhole : Number.wholeOf? (wholeNumeral n) = some n := by
    rw [Number.wholeOf?, wholeNumeral, Text.readDigits_toDigits hword]
    by_cases hnegative : n < 0
    · have hrange : 0 < n.natAbs ∧ 2 * n.natAbs ≤ Text.wordCount := by
        rw [Text.wordCount]
        omega
      simp only [Decimal.Numeral.isWhole, hnegative, hrange, decide_true, List.isEmpty_nil,
        Option.isNone_none, Bool.and_self, Bool.not_true, Bool.false_eq_true, if_false, and_self,
        if_true, Option.some.injEq]
      omega
    · simp only [Decimal.Numeral.isWhole, hnegative, decide_false, List.isEmpty_nil,
        Option.isNone_none, Bool.and_self, Bool.not_false, if_true, Option.some.injEq]
      omega
  rw [Number.ofNumeral?, hwhole]

mutual

/-- A readable value is what its structure means. -/
theorem toJson?_literal : ∀ (j : Json) {k : Nat}, j.Readable k → j.literal.toJson? k = some j
  | .null, k, _ => by cases k <;> rfl
  | .bool b, k, _ => by cases k <;> rfl
  | .number (.whole n), k, h => by
    have hrange : -2 ^ 63 ≤ n ∧ n < 2 ^ 64 := by cases k <;> simpa [Readable] using h
    cases k <;> simp [literal, Literal.toJson?, ofNumeral?_wholeNumeral hrange.1 hrange.2]
  | .number (.real x), k, h => by cases k <;> simp [Readable] at h
  | .text s, k, _ => by cases k <;> rfl
  | .array items, 0, h => by simp [Readable] at h
  | .array items, k + 1, h => by
    rw [Readable] at h
    rw [literal, Literal.toJson?, toItems?_itemLiterals items h]
    rfl
  | .object members, 0, h => by simp [Readable] at h
  -- The members are in order already, so sorting them changes nothing.
  | .object members, k + 1, h => by
    rw [Readable] at h
    rw [literal, Literal.toJson?, toPairs?_memberLiterals members h.2, Option.map_some,
      Dictionary.ofPairs_of_sorted h.1]

/-- Readable items have their meaning back. -/
theorem toItems?_itemLiterals : ∀ (items : List Json) {k : Nat}, ReadableItems k items →
    Literal.toItems? k (itemLiterals items) = some items
  | [], k, _ => rfl
  | item :: items, k, h => by
    rw [ReadableItems] at h
    rw [itemLiterals, Literal.toItems?, toJson?_literal item h.1,
      toItems?_itemLiterals items h.2]
    rfl

/-- So have readable members, in the order in which they were written. -/
theorem toPairs?_memberLiterals : ∀ (members : List (String × Json)) {k : Nat},
    ReadableMembers k members → Literal.toPairs? k (memberLiterals members) = some members
  | [], k, _ => rfl
  | (key, value) :: members, k, h => by
    rw [ReadableMembers] at h
    rw [memberLiterals, Literal.toPairs?, toJson?_literal value h.1,
      toPairs?_memberLiterals members h.2]
    rfl

end

theorem readableMembers_iff {k : Nat} {members : List (String × Json)} :
    ReadableMembers k members ↔ ∀ member ∈ members, member.2.Readable k := by
  induction members with
  | nil => simp [ReadableMembers]
  | cons member members ih => rw [ReadableMembers, ih, List.forall_mem_cons]

theorem readableItems_iff {k : Nat} {items : List Json} :
    ReadableItems k items ↔ ∀ item ∈ items, item.Readable k := by
  induction items with
  | nil => simp [ReadableItems]
  | cons item items ih => rw [ReadableItems, ih, List.forall_mem_cons]

end Json

/-! ## Documents -/

namespace Document

/-- A document can be read back if its jobs can, each inside two brackets. -/
def Readable (d : Document) : Prop :=
  ∀ job ∈ d.jobs, (Json.object job).Readable (Json.maxDepth - 2)

/-- A readable job is an object again. -/
theorem job?_literal {job : Json.Object} (h : (Json.object job).Readable (Json.maxDepth - 2)) :
    job? (Json.object job).literal = some job := by
  rw [job?, Json.toJson?_literal _ h]
  rfl

/-- So are all jobs of a list. -/
theorem mapM_job? {jobs : List Json.Object}
    (h : ∀ job ∈ jobs, (Json.object job).Readable (Json.maxDepth - 2)) :
    (Json.itemLiterals (jobs.map .object)).mapM job? = some jobs := by
  induction jobs with
  | nil => rfl
  | cons job jobs ih =>
    rw [List.forall_mem_cons] at h
    rw [List.map_cons, Json.itemLiterals, List.mapM_cons, job?_literal h.1, ih h.2]
    rfl

/-- In any layout that adds spaces only, a document is read back. -/
theorem ofText?_write {l : Json.Layout} (hl : l.Blank) {d : Document} (h : d.Readable) :
    ofText? (String.ofList (Json.write l 0 d.toJson)) = some d := by
  -- The jobs stand inside the object of the document and its list, that is, inside two brackets.
  have hjobs : Json.ReadableItems (Json.maxDepth - 2) (d.jobs.map .object) := by
    rw [Json.readableItems_iff, List.forall_mem_map]
    exact h
  have hread : d.toJson.Readable Json.maxDepth :=
    ⟨List.pairwise_singleton _ _, hjobs, trivial⟩
  rw [ofText?, Json.ofText?_ofList_write hl hread, Option.bind_some]
  show (do return ⟨← (Json.itemLiterals (d.jobs.map .object)).mapM job?⟩) = some d
  rw [mapM_job? h]
  rfl

/-- A readable document is read back from one line. -/
theorem ofText?_compact {d : Document} (h : d.Readable) : ofText? d.compact = some d :=
  ofText?_write Json.blank_compactLayout h

/-- A readable document is read back from its indented text. -/
theorem ofText?_pretty {d : Document} (h : d.Readable) : ofText? d.pretty = some d :=
  ofText?_write Json.blank_prettyLayout h

end Document

end TestMatrix

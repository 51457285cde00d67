import TestMatrix.Proofs.Text.Runs

/-!
# The spans of the runs

The runs of a text can be found without any copying, by one pass that keeps offsets in bytes
(`Pass`). It knows the kind of the last character and where the run began that this character is in.
A character of the other kind closes this run, and the end of the text closes the last one.

Characters may have several bytes, and no text begins or ends within a character, so it takes a
proof that the spans of the pass have runs in them (`Span.run?`). At every character, the offsets of
the pass are those behind the closed runs and behind the open one, and these are the maximal runs of
what it has read (`Pass.Tracks`). At the end, they are the runs of the text (`run?_spans`).
-/

namespace TestMatrix.Text

variable {cs rest : List Char} {c : Char} {rs : List Run} {r : Run}

/-! ## Spans of a text -/

/-- The offset in bytes behind some characters. -/
def offsetAfter (cs : List Char) : String.Pos.Raw := (String.ofList cs).rawEndPos

/-- An offset moves on by the size of the character that is passed. -/
theorem offsetAfter_concat (cs : List Char) (c : Char) :
    offsetAfter (cs ++ [c]) = offsetAfter cs + c := by
  rw [offsetAfter, offsetAfter, String.ofList_append]
  ext
  simp

/-- The offset behind what a text begins with lies between characters. -/
theorem isValid_offsetAfter {s : String} (hs : s.toList = cs ++ rest) :
    (offsetAfter cs).IsValid s := by
  refine String.Pos.Raw.isValid_iff_exists_append.mpr
    ⟨String.ofList cs, String.ofList rest, ?_, rfl⟩
  rw [← String.ofList_append, ← hs, String.ofList_toList]

/-- A place in a text, from one offset in bytes up to another, and a kind of characters. -/
structure Span where
  /-- Whether the characters are ASCII digits. -/
  numeric : Bool
  /-- The offset of the first character. -/
  start : String.Pos.Raw
  /-- The offset behind the last character. -/
  stop : String.Pos.Raw
deriving DecidableEq, Repr, Inhabited

/-- The run in a span of the text. There is none unless the span begins and ends between characters.
-/
def Span.run? (s : String) (p : Span) : Option Run :=
  if h : p.start ≤ p.stop ∧ p.start.IsValid s ∧ p.stop.IsValid s then
    some ⟨p.numeric, (s.extract (s.pos p.start h.2.1) (s.pos p.stop h.2.2)).toList⟩
  else none

/-- What is extracted between the ends of two beginnings is the part that one has more than the
other. -/
theorem extract_rawEndPos {s t₁ t₂ t₃ : String} (hs : s = t₁ ++ t₂ ++ t₃)
    (hstart : t₁.rawEndPos.IsValid s) (hstop : (t₁ ++ t₂).rawEndPos.IsValid s) :
    s.extract (s.pos _ hstart) (s.pos _ hstop) = t₂ := by
  subst hs
  have hsize : (t₁ ++ t₂).rawEndPos.byteIdx = (t₁.toByteArray ++ t₂.toByteArray).size := by simp
  rw [← String.toByteArray_inj, String.toByteArray_extract, String.toByteArray_append,
    String.toByteArray_append, String.offset_pos, String.offset_pos, hsize,
    ByteArray.extract_append_size_left]
  exact ByteArray.extract_append_eq_right (by simp) (by simp)

/-- Between the offsets behind two beginnings of a text lies what the longer one has more. -/
theorem run?_offsetAfter {s : String} {before text after : List Char}
    (hs : s.toList = before ++ text ++ after) (numeric : Bool) :
    Span.run? s ⟨numeric, offsetAfter before, offsetAfter (before ++ text)⟩ =
      some ⟨numeric, text⟩ := by
  -- Both offsets stand behind a part of the text, so they are at boundaries between characters.
  have hstart : (offsetAfter before).IsValid s :=
    isValid_offsetAfter (by rw [hs, List.append_assoc])
  have hstop : (offsetAfter (before ++ text)).IsValid s := isValid_offsetAfter hs
  have hle : offsetAfter before ≤ offsetAfter (before ++ text) := by
    rw [offsetAfter, offsetAfter, String.ofList_append, String.Pos.Raw.le_iff,
      String.byteIdx_rawEndPos, String.byteIdx_rawEndPos, String.utf8ByteSize_append]
    exact Nat.le_add_right _ _
  have hparts : s = String.ofList before ++ String.ofList text ++ String.ofList after := by
    rw [← String.ofList_append, ← String.ofList_append, ← hs, String.ofList_toList]
  have hextract : s.extract (s.pos _ hstart) (s.pos _ hstop) = String.ofList text := by
    simp only [offsetAfter, String.ofList_append]
    exact extract_rawEndPos hparts _ _
  rw [Span.run?, dif_pos ⟨hle, hstart, hstop⟩, hextract, String.toList_ofList]

/-! ## One pass over a text -/

/-- How far a pass over a text has come. -/
structure Pass where
  /-- The spans of the runs that have ended. -/
  closed : List Span := []
  /-- The offset at which the open run began. -/
  start : String.Pos.Raw := 0
  /-- The offset behind the last character. -/
  pos : String.Pos.Raw := 0
  /-- The kind of the last character, if there was any. -/
  kind : Option Bool := none

namespace Pass

/-- The spans if no more characters come, so that the open run ends here. -/
def spans (p : Pass) : List Span :=
  match p.kind with
  | some kind => p.closed ++ [⟨kind, p.start, p.pos⟩]
  | none => p.closed

/-- Goes on by a character. If it is of the other kind, the open run has ended in front of it. -/
def step (p : Pass) (c : Char) : Pass :=
  match p.kind with
  | some kind =>
    if kind = c.isDigit then { p with pos := p.pos + c }
    else { closed := p.spans, start := p.pos, pos := p.pos + c, kind := some c.isDigit }
  | none => { p with pos := p.pos + c, kind := some c.isDigit }

/-- The pass over some characters. -/
def ofChars (cs : List Char) : Pass := cs.foldl step {}

/-- One character more is one step more. -/
theorem ofChars_concat (cs : List Char) (c : Char) : ofChars (cs ++ [c]) = (ofChars cs).step c := by
  rw [ofChars, ofChars, List.foldl_concat]

end Pass

/-- The spans of the runs of a text. -/
def spans (s : String) : List Span := (Pass.ofChars s.toList).spans

/-! ## What the pass keeps -/

namespace Pass

/-- Behind the characters `cs`, with which the text `s` begins, the pass has closed the runs `rs`,
and the run `r` is open. -/
structure Tracks (s : String) (cs : List Char) (rs : List Run) (r : Run) (p : Pass) : Prop where
  maximalRuns : MaximalRuns cs (rs ++ [r])
  kind_eq : p.kind = some r.numeric
  run?_closed : p.closed.mapM (Span.run? s) = some rs
  start_eq : p.start = offsetAfter (rs.flatMap Run.text)
  pos_eq : p.pos = offsetAfter cs

variable {s : String} {p : Pass}

/-- If the open run ended here, all runs would be in their spans. -/
theorem Tracks.run?_spans (h : p.Tracks s cs rs r) (hs : s.toList = cs ++ rest) :
    p.spans.mapM (Span.run? s) = some (rs ++ [r]) := by
  have hparts : rs.flatMap Run.text ++ r.text = cs := by
    rw [← h.maximalRuns.flatMap_text]
    simp
  have hopen : Span.run? s ⟨r.numeric, p.start, p.pos⟩ = some r := by
    rw [h.start_eq, h.pos_eq, ← hparts]
    exact run?_offsetAfter (by rw [hparts, hs]) r.numeric
  have hspans : p.spans = p.closed ++ [⟨r.numeric, p.start, p.pos⟩] := by
    rw [spans, h.kind_eq]
  rw [hspans, List.mapM_append, h.run?_closed]
  simp [hopen]

/-- The pass starts with a run of one character, and none before it. -/
theorem tracks_first (s : String) (c : Char) :
    (ofChars [c]).Tracks s [c] [] ⟨c.isDigit, [c]⟩ where
  maximalRuns := maximalRuns_iff.mpr rfl
  kind_eq := rfl
  run?_closed := rfl
  start_eq := rfl
  pos_eq := (offsetAfter_concat [] c).symm

/-- A character of the same kind goes to the run that is open. -/
theorem Tracks.step_same (h : p.Tracks s cs rs r) (hkind : r.numeric = c.isDigit) :
    (p.step c).Tracks s (cs ++ [c]) rs ⟨r.numeric, r.text ++ [c]⟩ := by
  have hstep : p.step c = { p with pos := p.pos + c } := by
    simp only [step, h.kind_eq, if_pos hkind]
  rw [hstep]
  exact ⟨h.maximalRuns.concat_same hkind, h.kind_eq, h.run?_closed, h.start_eq,
    by rw [offsetAfter_concat, h.pos_eq]⟩

/-- A character of the other kind closes that run and opens the next. -/
theorem Tracks.step_other (h : p.Tracks s cs rs r) (hs : s.toList = cs ++ rest)
    (hkind : r.numeric ≠ c.isDigit) :
    (p.step c).Tracks s (cs ++ [c]) (rs ++ [r]) ⟨c.isDigit, [c]⟩ := by
  have hstep : p.step c =
      { closed := p.spans, start := p.pos, pos := p.pos + c, kind := some c.isDigit } := by
    simp only [step, h.kind_eq, if_neg hkind]
  rw [hstep]
  exact ⟨h.maximalRuns.concat_other hkind, rfl, h.run?_spans hs,
    by rw [h.maximalRuns.flatMap_text, h.pos_eq], by rw [offsetAfter_concat, h.pos_eq]⟩

/-- What the pass keeps at every character, it keeps all the way. -/
theorem exists_tracks (hne : cs ≠ []) (hs : s.toList = cs ++ rest) :
    ∃ rs r, (ofChars cs).Tracks s cs rs r := by
  -- The pass reads forwards, so the last character is the one that it goes on by.
  induction cs using List.reverseRecOn generalizing rest with
  | nil => exact absurd rfl hne
  | append_singleton cs c ih =>
    by_cases hcs : cs = []
    · subst hcs
      exact ⟨[], _, tracks_first s c⟩
    · rw [List.append_assoc] at hs
      obtain ⟨rs, r, h⟩ := ih hcs hs
      rw [ofChars_concat]
      by_cases hkind : r.numeric = c.isDigit
      · exact ⟨rs, _, h.step_same hkind⟩
      · exact ⟨rs ++ [r], _, h.step_other hs hkind⟩

end Pass

/-- In the spans of a text are its runs, in their order. -/
theorem run?_spans (s : String) : (spans s).mapM (Span.run? s) = some (runs s.toList) := by
  have hs : s.toList = s.toList ++ [] := (List.append_nil _).symm
  by_cases hne : s.toList = []
  · rw [spans, hne]
    rfl
  · obtain ⟨rs, r, h⟩ := Pass.exists_tracks hne hs
    rw [spans, h.run?_spans hs, maximalRuns_iff.mp h.maximalRuns]

example : spans "É17é" = [⟨false, ⟨0⟩, ⟨2⟩⟩, ⟨true, ⟨2⟩, ⟨4⟩⟩, ⟨false, ⟨4⟩, ⟨6⟩⟩] := by decide

/-- A text has one division into runs of characters that are all digits or all none, of which
neighbours differ in this, and `runs` is this division. Its runs are found by their offsets: every
span of the pass begins and ends between characters, and has the run in it. -/
theorem runs_maximal (s : String) :
    (∀ rs, MaximalRuns s.toList rs ↔ rs = runs s.toList) ∧
      (spans s).mapM (Span.run? s) = some (runs s.toList) := by
  exact ⟨fun _ => maximalRuns_iff, run?_spans s⟩

end TestMatrix.Text

import TestMatrix.Proofs.Output.Reading

/-!
# Blocks that end early

The check of a value goes by its lines as `Text.lines` has them, where a carriage return before a
line feed belongs to the ending of a line. A reader of the output file may do the same. But the
block adds a line feed to the value, so a carriage return at the end of the value is part of its
last line for the check and part of an ending for the reader; all other lines are the same for both
(`mem_map_dropReturn_iff`). So a value that is let through can end its block early for such a
reader, and `delimiter_mem_body_iff` says which values do.
-/

namespace TestMatrix

namespace Text

/-! ## Lines that have been ended -/

variable {fields : List (List Char)} {last line : List Char}

/-- A line that does not end in a carriage return is left as it is. -/
theorem dropReturn_of_getLast? (h : line.getLast? ≠ some '\r') : dropReturn line = line :=
  if_neg h

/-- All fields but the last have been ended, and the last is a line only if it is not empty. -/
theorem endLines_concat (fields : List (List Char)) (last : List Char) :
    endLines (fields ++ [last]) =
      fields.map dropReturn ++ if last.isEmpty then [] else [last] := by
  induction fields with
  | nil => rw [List.nil_append, endLines, List.map_nil, List.nil_append]
  | cons field rest ih =>
    rw [List.cons_append, endLines, ih, List.map_cons, List.cons_append]
    simp

/-- A line without a carriage return at its end comes from two fields, with one and without. -/
theorem dropReturn_eq_iff (h : line.getLast? ≠ some '\r') :
    dropReturn last = line ↔ last = line ∨ last = line ++ ['\r'] := by
  rw [dropReturn]
  -- Only one carriage return is dropped, and the line itself ends in none.
  split
  · next hlast =>
    obtain ⟨front, rfl⟩ := List.getLast?_eq_some_iff.mp hlast
    have hne : front ++ ['\r'] ≠ line := fun heq => h (heq ▸ hlast)
    simp [hne]
  · next hlast =>
    have hne : last ≠ line ++ ['\r'] := fun heq => hlast (by simp [heq])
    simp [hne]

/-- If the last field is ended as well, one more line may come of it: the last field without the
carriage return at its end. -/
theorem mem_map_dropReturn_iff (hne : line ≠ []) (h : line.getLast? ≠ some '\r') :
    line ∈ fields.map dropReturn ↔
      line ∈ endLines fields ∨ fields.getLast? = some (line ++ ['\r']) := by
  -- All fields but the last are followed by a line feed, so it is the last one that is treated
  -- otherwise.
  rcases fields.eq_nil_or_concat' with rfl | ⟨front, last, rfl⟩
  · simp [endLines]
  · have hlast : line ∈ (if last.isEmpty then [] else [last]) ↔ last = line := by
      split
      · next hempty => simp [List.isEmpty_iff.mp hempty, Ne.symm hne]
      · simp [eq_comm]
    rw [List.map_append, List.mem_append, endLines_concat, List.mem_append, hlast, or_assoc,
      List.getLast?_append, List.map_singleton, List.mem_singleton, eq_comm, dropReturn_eq_iff h]
    simp

end Text

namespace OutputBlock

variable {key value text : String}

/-! ## The lines of a block -/

/-- The header of a block. -/
def header (key : String) : List Char := key.toList ++ '<' :: '<' :: (delimiter key).toList

/-- The header of a block ends like its delimiter. -/
theorem getLast?_header (key : String) : (header key).getLast? = some 'Y' := by
  rw [header, List.getLast?_append_of_ne_nil _ (List.cons_ne_nil _ _), List.getLast?_cons_cons,
    List.getLast?_cons, getLast?_delimiter]
  rfl

/-- In a block, all fields of the value are ended. -/
theorem lines_block (hkey : '\n' ∉ key.toList) : Text.lines (block key value).toList =
    header key :: ((value.toList.splitOn '\n').map Text.dropReturn ++
      [(delimiter key).toList]) := by
  have hheader : Text.dropReturn (header key) = header key :=
    Text.dropReturn_of_getLast? (by simp [getLast?_header])
  have hdelimiter : Text.dropReturn (delimiter key).toList = (delimiter key).toList :=
    Text.dropReturn_of_getLast? (by simp [getLast?_delimiter])
  -- What follows the last line feed of a block is empty, and no line.
  have hsplit : (block key value).toList.splitOn '\n' =
      (header key :: (value.toList.splitOn '\n' ++ [(delimiter key).toList])) ++ [[]] := by
    have hblock : ((block key value).toList ++ []).splitOn '\n' = _ := splitOn_block hkey []
    rw [List.append_nil] at hblock
    rw [hblock, header]
    simp
  rw [Text.lines, hsplit, Text.endLines_concat]
  simp [hheader, hdelimiter]

/-- A value that is let through ends its block early, for a reader to whom a carriage return before
a line feed is part of the ending of a line, just if what follows its last line feed is the
delimiter and a carriage return. The lines of such a block are its header, some lines of which the
delimiter is one, and the delimiter; in all other blocks that are let through, only the last line is
the delimiter. -/
theorem delimiter_mem_body_iff (hkey : '\n' ∉ key.toList) (h : render key value = .ok text) :
    ∃ body, Text.lines text.toList = header key :: (body ++ [(delimiter key).toList]) ∧
      ((delimiter key).toList ∈ body ↔
        (value.toList.splitOn '\n').getLast? = some ((delimiter key).toList ++ ['\r'])) := by
  obtain ⟨hvalue, rfl⟩ := render_eq_ok_iff.mp h
  have hlast := getLast?_delimiter key
  have hne : (delimiter key).toList ≠ [] := fun hnil => by simp [hnil] at hlast
  -- The check has looked for the delimiter among the lines of the bare value, and has not found it.
  have hchecked : (delimiter key).toList ∉ Text.endLines (value.toList.splitOn '\n') := by
    intro hmem
    rw [collides, Text.lines, List.contains_iff_mem.mpr hmem] at hvalue
    exact absurd hvalue (by simp)
  refine ⟨_, lines_block hkey, ?_⟩
  rw [Text.mem_map_dropReturn_iff hne (by simp [hlast]), or_iff_right hchecked]

/-- The value of the first block ends in its delimiter and a carriage return, so that the block ends
early, and that of the second in the delimiter of another key. -/
theorem delimiter_mem_body_iff_sharpS :
    let mark := (delimiter "straße").toList
    let early := "\x7b\x7d\r\nSTRASSE_BODY\r"
    let late := "\x7b\x7d\r\nMATRIX_BODY\r"
    '\n' ∉ "straße".toList ∧
    (∃ text body, render "straße" early = .ok text ∧
      Text.lines text.toList = header "straße" :: (body ++ [mark]) ∧ mark ∈ body) ∧
    ∃ text body, render "straße" late = .ok text ∧
      Text.lines text.toList = header "straße" :: (body ++ [mark]) ∧ mark ∉ body := by
  intro mark early late
  have hkey : '\n' ∉ "straße".toList := by decide +kernel
  have hearly : render "straße" early = .ok (block "straße" early) :=
    render_eq_ok_iff.mpr ⟨by decide +kernel, rfl⟩
  have hlate : render "straße" late = .ok (block "straße" late) :=
    render_eq_ok_iff.mpr ⟨by decide +kernel, rfl⟩
  obtain ⟨body, hlines, hiff⟩ := delimiter_mem_body_iff hkey hearly
  obtain ⟨body', hlines', hiff'⟩ := delimiter_mem_body_iff hkey hlate
  exact ⟨hkey, ⟨_, body, hearly, hlines, hiff.mpr (by decide +kernel)⟩,
    _, body', hlate, hlines', fun hmem => absurd (hiff'.mp hmem) (by decide +kernel)⟩

/-- A value that is let through although its block ends before its last line. -/
theorem ends_early_matrix :
    '\n' ∉ "matrix".toList ∧
    render "matrix" "MATRIX_BODY\r" = .ok "matrix<<MATRIX_BODY\nMATRIX_BODY\r\nMATRIX_BODY\n" ∧
    Text.lines "matrix<<MATRIX_BODY\nMATRIX_BODY\r\nMATRIX_BODY\n".toList =
      ["matrix<<MATRIX_BODY".toList, "MATRIX_BODY".toList, "MATRIX_BODY".toList] ∧
    delimiter "matrix" = "MATRIX_BODY" := by
  exact ⟨by decide +kernel, render_eq_ok_iff.mpr ⟨by decide +kernel, by decide +kernel⟩,
    by decide +kernel, by decide +kernel⟩

end OutputBlock

end TestMatrix

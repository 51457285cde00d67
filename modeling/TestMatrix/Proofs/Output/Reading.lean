import Mathlib.Data.List.Forall2
import TestMatrix.OutputBlock
import TestMatrix.Proofs.Text.UpperCase

/-!
# Reading the output file

The output file is read line by line, where every line feed ends a line. Outside of a block, a line
is the header of the next one: its key, two less-than signs and its delimiter. Inside, all lines up
to the first that equals the delimiter are lines of the value. `OutputBlock.read?` does that, so it
knows nothing of case mappings or of how a value was checked.

A value that is let through has no line that equals its delimiter
(`not_mem_splitOn_of_not_collides`), so the reader comes to the end of its block and not before
(`readLines_block`). Blocks that follow one another are therefore read as what they were made from
(`read?_join`).
-/

namespace TestMatrix

namespace OutputBlock

/-! ## The reader -/

/-- A block of which the end has not been read. -/
structure Unclosed where
  key : String
  /-- The line that ends the block. -/
  delimiter : List Char
  /-- The lines of the value so far. -/
  body : List (List Char) := []

/-- The key and the value of a block that ends here. -/
def Unclosed.entry (b : Unclosed) : String × String :=
  (b.key, String.ofList (['\n'].intercalate b.body))

/-- Divides a header at its first two less-than signs in a row. -/
def splitHeader? : List Char → Option (List Char × List Char)
  | [] => none
  | '<' :: '<' :: delimiter => some ([], delimiter)
  | c :: rest => (splitHeader? rest).map fun (key, delimiter) => (c :: key, delimiter)

/-- The block that a header begins. -/
def begin? (header : List Char) : Option Unclosed :=
  (splitHeader? header).map fun (key, delimiter) => { key := String.ofList key, delimiter }

/-- The keys and values in some lines, which may begin inside of a block. Nothing after the last
line feed is no line. -/
def readLines : Option Unclosed → List (List Char) → Option (List (String × String))
  | none, [] => some []
  | none, [[]] => some []
  | none, header :: rest =>
    match begin? header with
    | some b => readLines (some b) rest
    | none => none
  | some _, [] => none
  | some b, line :: rest =>
    if line = b.delimiter then (readLines none rest).map (b.entry :: ·)
    else readLines (some { b with body := b.body ++ [line] }) rest

/-- The keys and values in the text of an output file. -/
def read? (text : String) : Option (List (String × String)) :=
  readLines none (text.toList.splitOn '\n')

/-! ## Lines of a value -/

variable {key value text : String} {cs line : List Char}

/-- A field between line feeds that does not end in a carriage return is a line, if there is
anything in it. -/
theorem mem_endLines {fields : List (List Char)} (h : line ∈ fields) (hne : line ≠ [])
    (hreturn : line.getLast? ≠ some '\r') : line ∈ Text.endLines fields := by
  induction fields with
  | nil => simp at h
  | cons first rest ih =>
    cases rest with
    | nil =>
      obtain rfl := List.mem_singleton.mp h
      simpa [Text.endLines] using hne
    | cons second rest =>
      rw [Text.endLines]
      · rcases List.mem_cons.mp h with rfl | h
        · rw [Text.dropReturn, if_neg hreturn]
          exact List.mem_cons_self
        · exact List.mem_cons_of_mem _ (ih h)
      · simp

/-- The delimiter is the key in upper case with a suffix. -/
theorem toList_delimiter (key : String) :
    (delimiter key).toList = Text.upperList key.toList ++ "_BODY".toList := by
  rw [delimiter, Text.toUpper, String.toList_append, String.toList_ofList]

/-- It ends in a letter, never in a carriage return. -/
theorem getLast?_delimiter (key : String) : (delimiter key).toList.getLast? = some 'Y' := by
  rw [toList_delimiter, List.getLast?_append_of_ne_nil _ (by decide)]
  rfl

/-- A value that is let through does not hold its delimiter between two line feeds, either: that the
check also takes carriage returns off does not matter, because no delimiter ends in one. -/
theorem not_mem_splitOn_of_not_collides (h : collides key value = false) :
    (delimiter key).toList ∉ value.toList.splitOn '\n' := by
  intro hmem
  have hlast := getLast?_delimiter key
  have hline : (delimiter key).toList ∈ Text.lines value.toList :=
    mem_endLines hmem (fun hnil => by simp [hnil] at hlast) (by simp [hlast])
  rw [collides, List.contains_iff_mem.mpr hline] at h
  exact absurd h (by simp)

/-- A value that does not collide is written as its block, and no other is. -/
theorem render_eq_ok_iff : render key value = .ok text ↔
    collides key value = false ∧ text = block key value := by
  rw [render]
  cases collides key value <;> simp [eq_comm]

/-! ## Reading a block -/

/-- A header is divided at its first angle bracket, of which the key has none. -/
theorem splitHeader?_append {key delimiter : List Char} (h : '<' ∉ key) :
    splitHeader? (key ++ '<' :: '<' :: delimiter) = some (key, delimiter) := by
  induction key with
  | nil => rfl
  | cons c key ih =>
    rw [List.mem_cons, not_or] at h
    rw [List.cons_append, splitHeader?, ih h.2]
    · rfl
    -- The key has no angle bracket, so the header is not divided earlier.
    · rintro rest rfl
      exact absurd rfl h.1

/-- The lines up to the delimiter are those of the value. -/
theorem readLines_body {mark : List Char} {body : List (List Char)} (key : String)
    (done rest : List (List Char)) (h : mark ∉ body) :
    readLines (some ⟨key, mark, done⟩) (body ++ mark :: rest) =
      (readLines none rest).map ((⟨key, mark, done ++ body⟩ : Unclosed).entry :: ·) := by
  induction body generalizing done with
  | nil => rw [List.nil_append, readLines, if_pos rfl, List.append_nil]
  | cons line body ih =>
    rw [List.mem_cons, not_or] at h
    rw [List.cons_append, readLines, if_neg (Ne.symm h.1), ih (done ++ [line]) h.2,
      List.append_assoc]
    rfl

/-- A key without line feeds has a delimiter without any. -/
theorem not_mem_delimiter (h : '\n' ∉ key.toList) : '\n' ∉ (delimiter key).toList := by
  rw [toList_delimiter, List.mem_append, not_or]
  exact ⟨fun hmem => h (Text.mem_of_mem_upperList hmem (by decide) (by decide)), by decide⟩

/-- The lines of a block are its header, those of its value, and its delimiter. -/
theorem splitOn_block (hkey : '\n' ∉ key.toList) (rest : List Char) :
    ((block key value).toList ++ rest).splitOn '\n' =
      (key.toList ++ '<' :: '<' :: (delimiter key).toList) ::
        (value.toList.splitOn '\n' ++ (delimiter key).toList :: rest.splitOn '\n') := by
  have hdelimiter := not_mem_delimiter hkey
  have hheader : '\n' ∉ key.toList ++ '<' :: '<' :: (delimiter key).toList := by
    simp [hkey, hdelimiter]
  have hblock : (block key value).toList ++ rest =
      (key.toList ++ '<' :: '<' :: (delimiter key).toList) ++
        '\n' :: (value.toList ++ '\n' :: ((delimiter key).toList ++ '\n' :: rest)) := by
    simp [block, String.toList_append]
  -- Neither the header nor the delimiter has a line feed, but the value may have some.
  rw [hblock, List.splitOn_append_cons_self_of_not_mem hheader, List.splitOn_append_cons_self,
    List.splitOn_append_cons_self_of_not_mem hdelimiter]

/-- A block is read as what it was made from, and what follows it is read as if it came first. -/
theorem readLines_block (hline : '\n' ∉ key.toList) (hmark : '<' ∉ key.toList)
    (hvalue : collides key value = false) (rest : List Char) :
    readLines none (((block key value).toList ++ rest).splitOn '\n') =
      (readLines none (rest.splitOn '\n')).map ((key, value) :: ·) := by
  have hbegin : begin? (key.toList ++ '<' :: '<' :: (delimiter key).toList) =
      some { key := key, delimiter := (delimiter key).toList } := by
    rw [begin?, splitHeader?_append hmark, Option.map_some]
    simp only [String.ofList_toList]
  -- The value has been checked for lines that are the delimiter, so none of them ends the block.
  have hbody := not_mem_splitOn_of_not_collides hvalue
  rw [splitOn_block hline, readLines, hbegin]
  · dsimp only
    rw [readLines_body key [] (rest.splitOn '\n') hbody, Unclosed.entry, List.nil_append,
      List.intercalate_splitOn, String.ofList_toList]
  · intro hnil
    simp at hnil

/-! ## Reading the file -/

/-- The output file can be read as a whole. Whatever values are let through, the blocks that are
made of them follow one another so that a reader finds the same keys with the same values in the
same order, as long as no key holds a line feed or a less-than sign. -/
theorem read?_join {entries : List (String × String)} {blocks : List String}
    (hkeys : ∀ e ∈ entries, '\n' ∉ e.1.toList ∧ '<' ∉ e.1.toList)
    (h : List.Forall₂ (fun e text => render e.1 e.2 = .ok text) entries blocks) :
    read? (String.join blocks) = some entries := by
  induction h with
  | nil => rfl
  | @cons e text entries blocks hrender hrest ih =>
    obtain ⟨key, value⟩ := e
    rw [List.forall_mem_cons] at hkeys
    obtain ⟨⟨hline, hmark⟩, hkeys⟩ := hkeys
    obtain ⟨hvalue, rfl⟩ := render_eq_ok_iff.mp hrender
    have hread := readLines_block hline hmark hvalue (String.join blocks).toList
    rw [read?, String.join_cons, String.toList_append, hread]
    exact congrArg (Option.map ((key, value) :: ·)) (ih hkeys)

/-- An empty value, one that ends in line feeds and holds the delimiter of another key, and one that
would be refused but for a carriage return. -/
theorem read?_join_three :
    let entries := [("matrix", ""), ("straße", "\nMATRIX_BODY\n\n"), ("", "_BODY\r")]
    ∃ blocks, (∀ e ∈ entries, '\n' ∉ e.1.toList ∧ '<' ∉ e.1.toList) ∧
      List.Forall₂ (fun e text => render e.1 e.2 = .ok text) entries blocks ∧
      String.join blocks = "matrix<<MATRIX_BODY\n\nMATRIX_BODY\n" ++
        "straße<<STRASSE_BODY\n\nMATRIX_BODY\n\n\nSTRASSE_BODY\n" ++
        "<<_BODY\n_BODY\r\n_BODY\n" ∧
      read? (String.join blocks) = some entries := by
  intro entries
  have hkeys : ∀ e ∈ entries, '\n' ∉ e.1.toList ∧ '<' ∉ e.1.toList := by decide +kernel
  have hblocks : List.Forall₂ (fun e text => render e.1 e.2 = .ok text) entries
      (entries.map fun e => block e.1 e.2) := by
    have hvalues : ∀ e ∈ entries, collides e.1 e.2 = false := by decide +kernel
    rw [List.forall₂_map_right_iff, List.forall₂_same]
    exact fun e he => render_eq_ok_iff.mpr ⟨hvalues e he, rfl⟩
  exact ⟨_, hkeys, hblocks, by decide +kernel, read?_join hkeys hblocks⟩

end OutputBlock

end TestMatrix

import TestMatrix.Delivery
import TestMatrix.Proofs.Plan.History

/-!
# Writing files

Replacing a file and appending to it have one effect (`Writes`): a text becomes the content of the
file that the path leads to. That leaves the directories where they are, so every path leads where
it led before (`locate_eq_ok_iff`), and what is read from a path that leads elsewhere is the same
(`Writes.read?_of_apart`). If the file cannot be written, the error names the path.

The standard output takes a text as a whole, or else a proper beginning of it (`write_cases`).
-/

namespace TestMatrix

namespace Files

variable {fs fs' : Files} {location here there : Location} {path path' text : String}

/-! ## Entries -/

/-- What is put at a place is there. -/
theorem entry?_put_self (hne : location ≠ []) (entry : FileEntry) :
    entry? (fs.put location entry) location = some entry := by
  unfold entry? put
  simp [hne]

/-- Taking away what is at one place does not matter at another. -/
theorem lookup_filter_ne {entries : List (Location × FileEntry)} (h : there ≠ location) :
    (entries.filter fun e => e.1 != location).lookup there = entries.lookup there := by
  induction entries with
  | nil => rfl
  | cons e rest ih =>
    obtain ⟨at', entry⟩ := e
    by_cases hat : at' = location
    · subst hat
      rw [List.filter_cons_of_neg (by simp), ih, List.lookup_cons, beq_false_of_ne h]
    · rw [List.filter_cons_of_pos (by simpa using hat), List.lookup_cons, List.lookup_cons, ih]

/-- What is put in one place does not show in another. -/
theorem entry?_put_of_ne (h : there ≠ location) (entry : FileEntry) :
    entry? (fs.put location entry) there = fs.entry? there := by
  unfold entry? put
  rw [List.lookup_cons, beq_false_of_ne h]
  simp only [lookup_filter_ne h]

/-- The directories of both trees are the same. -/
def SameDirectories (fs fs' : Files) : Prop :=
  ∀ location, fs'.entry? location = some .directory ↔ fs.entry? location = some .directory

theorem SameDirectories.symm (h : fs.SameDirectories fs') : fs'.SameDirectories fs :=
  fun location => (h location).symm

theorem SameDirectories.trans {fs'' : Files} (h : fs.SameDirectories fs')
    (h' : fs'.SameDirectories fs'') : fs.SameDirectories fs'' :=
  fun location => (h' location).trans (h location)

/-- A file in a place where there is no directory changes none. -/
theorem sameDirectories_put (hne : location ≠ []) (h : fs.entry? location ≠ some .directory)
    (text : String) : fs.SameDirectories (fs.put location (.file text)) := by
  intro there
  by_cases hthere : there = location
  · subst hthere
    rw [entry?_put_self hne]
    exact iff_of_false (by simp) h
  · rw [entry?_put_of_ne hthere]

/-! ## Where paths lead -/

/-- Only directories are passed through on the way. -/
theorem follow_cons_eq_ok_iff {name : String} {rest : List String} :
    fs.follow here (name :: rest) = .ok there ↔
      if name = "" ∨ name = "." then fs.follow here rest = .ok there
      else if name = ".." then fs.follow here.dropLast rest = .ok there
      else name.utf8ByteSize ≤ maxNameSize ∧ fs.entry? (here ++ [name]) = some .directory ∧
        fs.follow (here ++ [name]) rest = .ok there := by
  rw [follow]
  split
  · exact Iff.rfl
  · split
    · exact Iff.rfl
    · split
      · next hlong => simp [Nat.not_le.mpr hlong]
      · next hshort =>
        rcases fs.entry? (here ++ [name]) with _ | _ | content <;> simp [Nat.not_lt.mp hshort]

/-- Only directories are looked at on the way, so a path leads through where it did before. -/
theorem follow_eq_ok_iff (h : fs.SameDirectories fs') (names : List String) :
    fs'.follow here names = .ok there ↔ fs.follow here names = .ok there := by
  induction names generalizing here with
  | nil => exact Iff.rfl
  | cons name rest ih => rw [follow_cons_eq_ok_iff, follow_cons_eq_ok_iff, h, ih, ih, ih]

/-- Writing leads to a name in a directory, where there is no directory of that name. -/
theorem target_eq_ok_iff {names : List String} : fs.target names = .ok location ↔
    ∃ steps here name, (names.reverse.dropWhile (· == "")).reverse = steps ∧ steps ≠ [] ∧
      fs.follow [] steps.dropLast = .ok here ∧ steps.getLast?.getD "" = name ∧
      ¬(name = "." ∨ name = ".." ∨ names.getLast? = some "") ∧
      name.utf8ByteSize ≤ maxNameSize ∧ fs.entry? (here ++ [name]) ≠ some .directory ∧
      here ++ [name] = location := by
  rw [target]
  split
  · next hsteps => simp [hsteps]
  · next first rest hsteps =>
    rw [hsteps, bind_eq_ok_iff]
    constructor
    · rintro ⟨here, hhere, h⟩
      dsimp only at h
      split at h
      · simp at h
      · next hdots =>
        split at h
        · simp at h
        · next hsize =>
          split at h
          · simp at h
          · next hdir =>
            exact ⟨_, here, _, rfl, by simp, hhere, rfl, hdots, Nat.not_lt.mp hsize, hdir,
              Except.ok.inj h⟩
    · rintro ⟨_, here, _, rfl, -, hhere, rfl, hdots, hsize, hdir, rfl⟩
      exact ⟨here, hhere, by rw [if_neg hdots, if_neg (Nat.not_lt.mpr hsize), if_neg hdir]⟩

/-- What is not said of the path is said of the names in it. -/
theorem locate_eq_ok_iff_target : fs.locate path = .ok location ↔
    (¬path.isEmpty ∧ ¬path.toList.contains '\x00' ∧ ¬maxPathSize ≤ path.utf8ByteSize) ∧
      fs.target (pathNames path) = .ok location := by
  rw [locate]
  split
  · simp_all
  · split
    · simp_all
    · split <;> simp_all

/-- Paths lead where they led if the directories are the same. -/
theorem locate_eq_ok_iff (h : fs.SameDirectories fs') :
    fs'.locate path = .ok location ↔ fs.locate path = .ok location := by
  rw [locate_eq_ok_iff_target, locate_eq_ok_iff_target, target_eq_ok_iff, target_eq_ok_iff]
  simp only [follow_eq_ok_iff h, ne_eq, h _]

/-- A path of a file leads to a name, and there is no directory of that name. -/
theorem isFile_of_locate (h : fs.locate path = .ok location) :
    location ≠ [] ∧ fs.entry? location ≠ some .directory := by
  obtain ⟨-, here, name, -, -, -, -, -, -, hdir, rfl⟩ :=
    target_eq_ok_iff.mp (locate_eq_ok_iff_target.mp h).2
  exact ⟨by simp, hdir⟩

/-! ## Reading and writing -/

/-- The content of the file that a path leads to. -/
def read? (fs : Files) (path : String) : Option String :=
  match fs.locate path with
  | .ok location => match fs.entry? location with
    | some (.file content) => some content
    | _ => none
  | .error _ => none

/-- The paths do not lead to the same file, however they are spelled. -/
def Apart (fs : Files) (path path' : String) : Prop :=
  ∀ location, fs.locate path = .ok location → fs.locate path' ≠ .ok location

/-- A text becomes the content of the file that the path leads to. -/
def Writes (fs : Files) (path text : String) (fs' : Files) : Prop :=
  ∃ location, fs.locate path = .ok location ∧ fs' = fs.put location (.file text)

/-- The content at a place is what the path to it reads. -/
theorem content_eq_read? (h : fs.locate path = .ok location) :
    fs.content location = (fs.read? path).getD "" := by
  rw [content, read?, h]
  dsimp only
  cases fs.entry? location with
  | none => rfl
  | some entry => cases entry <;> rfl

/-- Replacing a file writes the text to it, and changes nothing else. -/
theorem writes_of_replace (h : fs.replace path text = .ok fs') : fs.Writes path text fs' := by
  rw [replace] at h
  split at h
  · next location hlocate => exact ⟨location, hlocate, (Except.ok.inj h).symm⟩
  · simp at h

/-- Appending writes the old content with the text behind it. -/
theorem writes_of_append (h : fs.append path text = .ok fs') :
    fs.Writes path ((fs.read? path).getD "" ++ text) fs' := by
  rw [append] at h
  split at h
  · next location hlocate =>
    rw [content_eq_read? hlocate] at h
    exact ⟨location, hlocate, (Except.ok.inj h).symm⟩
  · simp at h

/-- A file that cannot be replaced is reported with its path. -/
theorem cannotWrite_of_replace {e : EnvironmentError} (h : fs.replace path text = .error e) :
    ∃ cause, e = .cannotWrite path cause := by
  rw [replace] at h
  split at h
  · simp at h
  · next cause _ => exact ⟨cause, (Except.error.inj h).symm⟩

/-- So is one that nothing can be appended to. -/
theorem cannotWrite_of_append {e : EnvironmentError} (h : fs.append path text = .error e) :
    ∃ cause, e = .cannotWrite path cause := by
  rw [append] at h
  split at h
  · simp at h
  · next cause _ => exact ⟨cause, (Except.error.inj h).symm⟩

/-- Writing a file makes no directory and takes none away. -/
theorem Writes.sameDirectories (h : fs.Writes path text fs') : fs.SameDirectories fs' := by
  obtain ⟨location, hlocate, rfl⟩ := h
  obtain ⟨hne, hdir⟩ := isFile_of_locate hlocate
  exact sameDirectories_put hne hdir text

/-- What was written is read. -/
theorem Writes.read?_self (h : fs.Writes path text fs') : fs'.read? path = some text := by
  have hsame := h.sameDirectories
  obtain ⟨location, hlocate, rfl⟩ := h
  rw [read?, (locate_eq_ok_iff hsame).mpr hlocate]
  dsimp only
  rw [entry?_put_self (isFile_of_locate hlocate).1]

/-- Nothing else is read from a path that leads elsewhere. -/
theorem Writes.read?_of_apart (h : fs.Writes path text fs') (hapart : fs.Apart path path') :
    fs'.read? path' = fs.read? path' := by
  have hsame := h.sameDirectories
  obtain ⟨location, hlocate, rfl⟩ := h
  cases hother : fs.locate path' with
  | ok there =>
    have hne : there ≠ location := fun heq => hapart location hlocate (heq ▸ hother)
    rw [read?, read?, (locate_eq_ok_iff hsame).mpr hother, hother]
    dsimp only
    rw [entry?_put_of_ne hne]
  | error cause =>
    have hnone : ∀ there, (fs.put location (.file text)).locate path' ≠ .ok there := by
      intro there hthere
      rw [locate_eq_ok_iff hsame, hother] at hthere
      simp at hthere
    rw [read?, read?, hother]
    split
    · next there hthere => exact absurd hthere (hnone there)
    · rfl

/-- Paths that lead to different files go on doing so. -/
theorem Apart.of_sameDirectories (h : fs.SameDirectories fs') (hapart : fs.Apart path path') :
    fs'.Apart path path' := by
  intro location hlocate
  rw [ne_eq, locate_eq_ok_iff h]
  exact hapart location ((locate_eq_ok_iff h).mp hlocate)

end Files

/-! ## The standard output -/

/-- What fits is a beginning of the text. -/
theorem isPrefix_fitting (room : Nat) (cs : List Char) : fitting room cs <+: cs := by
  induction cs generalizing room with
  | nil => exact List.prefix_rfl
  | cons c rest ih =>
    rw [fitting]
    split
    · exact (List.prefix_cons_inj c).mpr (ih _)
    · exact List.nil_prefix

/-- What is taken fits. -/
theorem size_fitting_le (room : Nat) (cs : List Char) :
    (String.ofList (fitting room cs)).utf8ByteSize ≤ room := by
  -- By induction on the text, with less room for what follows.
  induction cs generalizing room with
  | nil => simp [fitting]
  | cons c rest ih =>
    rw [fitting]
    split
    · next hfits =>
      have hrest := ih (room - c.utf8Size)
      rw [String.ofList_cons, String.utf8ByteSize_append, String.utf8ByteSize_singleton]
      omega
    · simp

/-- A text is taken as a whole, or else a proper beginning of it. -/
theorem StandardOutput.write_cases (out : StandardOutput) (text : String) :
    ((out.write text).2 = true ∧ (out.write text).1.taken = out.taken ++ text) ∨
      (out.write text).2 = false ∧ ∃ part, part <+: text.toList ∧ part ≠ text.toList ∧
        (out.write text).1.taken = out.taken ++ String.ofList part := by
  rw [write]
  split
  · exact .inl ⟨rfl, rfl⟩
  · next room _ =>
    split
    · exact .inl ⟨rfl, rfl⟩
    · next hlarge =>
      refine .inr ⟨rfl, fitting room text.toList, isPrefix_fitting room _, fun hall => ?_, rfl⟩
      have hfits := size_fitting_le room text.toList
      rw [hall, String.ofList_toList] at hfits
      exact hlarge hfits

end TestMatrix

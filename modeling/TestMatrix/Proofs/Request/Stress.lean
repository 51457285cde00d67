import TestMatrix.Proofs.Request.Fields
import TestMatrix.Proofs.Request.Order
import TestMatrix.Proofs.Text.VersionOrder

/-!
# What a job adds to its row

A job has the fields of its row, but for one that is taken out and those that are computed for it
(`Job.computedKeys`). The draw that a row may take decides between two jobs, one that stresses the
compiler and one that does not, and they differ in two fields only. The arguments that stress the
compiler grow with the version of Java: as versions are ordered transitively, whoever is given an
argument of a later version is given those of the earlier ones too (`Job.framed_ofRow`).

Rows that cannot stress the compiler leave the stream alone, and all others move it by one draw. So
the place in the stream that the job of a row is made at depends on the rows before it, but not on
what was drawn for them (`Job.ofRows_snd`).
-/

namespace TestMatrix

namespace Job

variable {r : Row} {stress : Bool} {key : String}

/-- The keys of the fields that are computed for a job. -/
def computedKeys : List String :=
  ["name", "java_vendor", "oracle_java_website", "non_ea_java_version", "extraGradleArgs",
    "includeTestTags", "deploy_to_maven_local", "extraJvmArgs", "testExtraJvmArgs"]

/-- Whether the job of a row stresses the compiler. -/
def stresses (r : Row) (stream : RandomStream) : Bool := canStress r && decide (0.5 < stream.value)

/-! ## The draw -/

/-- What is drawn for a row decides only whether its job is under stress. -/
theorem ofRow_fst (r : Row) (stream : RandomStream) :
    (ofRow r stream).1 = ofRowWith r (stresses r stream) := by
  cases h : canStress r with
  | true => rw [ofRow_eq h, stresses, h, Bool.true_and]
  | false => simp [ofRow, stresses, h]

/-- One draw is made for a row whose job can be under stress, and none for another. -/
theorem ofRow_snd (r : Row) (stream : RandomStream) :
    (ofRow r stream).2 = if canStress r then stream.skip 1 else stream := by
  rw [ofRow]
  split <;> rfl

/-- Rows take a draw each, except for those that cannot stress the compiler. -/
theorem ofRows_snd (rows : List Row) (stream : RandomStream) :
    (ofRows rows stream).2 = stream.skip (rows.countP canStress) := by
  induction rows generalizing stream with
  | nil => rfl
  | cons r rows ih =>
    have hstep : (ofRows (r :: rows) stream).2 = (ofRows rows (ofRow r stream).2).2 := rfl
    rw [hstep, ih, ofRow_snd, List.countP_cons]
    split
    · rw [RandomStream.skip_skip, Nat.add_comm]
    · rfl

/-! ## Fields -/

/-- A job has no hash field. -/
theorem valueOf?_hash (r : Row) (stress : Bool) : (ofRowWith r stress).valueOf? "hash" = none :=
  Dictionary.valueOf?_without_self _ _

/-- What is not computed is what the row has. -/
theorem valueOf?_ofRowWith (hhash : key ≠ "hash") (hkey : key ∉ computedKeys) :
    (ofRowWith r stress).valueOf? key = r.toObject.valueOf? key := by
  have hset : ∀ key' ∈ lostKeys ++ derivedKeys, key' ∈ "hash" :: computedKeys := by decide
  have hfree : key ∉ lostKeys ++ derivedKeys := fun hmem =>
    (List.mem_cons.mp (hset key hmem)).elim hhash hkey
  obtain ⟨hlost, hderived⟩ := not_or.mp (mt List.mem_append.mpr hfree)
  rw [← map_fst_derivedFields r] at hderived
  rw [← valueOf?_bare hlost, bare_ofRowWith, valueOf?_bareOfRow hlost, valueOf?_putFields hderived]

/-- Only the name and the arguments of the virtual machine tell whether a job stresses the compiler.
-/
theorem valueOf?_ofRowWith_congr (hname : key ≠ "name") (harguments : key ≠ "extraJvmArgs")
    (stress' : Bool) : (ofRowWith r stress).valueOf? key = (ofRowWith r stress').valueOf? key := by
  have hbare : ∀ stress, (bareOfRow r).valueOf? key = (ofRowWith r stress).valueOf? key := by
    intro stress
    rw [← bare_ofRowWith r stress, bare, Dictionary.valueOf?_without_of_ne harguments,
      Dictionary.valueOf?_without_of_ne hname]
  rw [← hbare, ← hbare]

/-- The arguments of the virtual machine are those of the locale and, under stress, those of the
version. -/
theorem valueOf?_extraJvmArgs (r : Row) (stress : Bool) :
    (ofRowWith r stress).valueOf? "extraJvmArgs" =
      some (.text (" ".intercalate (localeArguments r ++
        if stress then stressArguments (r.tokenOf "java_version") else []))) := by
  rw [ofRowWith, Dictionary.valueOf?_without_of_ne (by decide), putFields_append]
  have hne : "extraJvmArgs" ≠ "name" := by decide
  exact (Dictionary.valueOf?_put_of_ne hne _ _).trans (Dictionary.valueOf?_put_self _ _ _)

/-! ## The arguments that stress the compiler -/

/-- The arguments that all versions of Java have come first, and those of later versions follow. -/
theorem stressArguments_eq (java : String) : stressArguments java =
    ["-XX:+UnlockDiagnosticVMOptions", "-XX:+StressGCM", "-XX:+StressLCM"] ++
      (if Text.versionOrder java "16" ≠ .lt then ["-XX:+StressIGVN"] else []) ++
      (if Text.versionOrder java "17" ≠ .lt then ["-XX:+StressCCP"] else []) := by
  simp only [stressArguments, Text.versionAtLeast_iff]

/-- The first of the two stress arguments is for versions from 16 on. -/
theorem stressIGVN_mem_iff {java : String} :
    "-XX:+StressIGVN" ∈ stressArguments java ↔ Text.versionAtLeast java "16" = true := by
  simp [stressArguments]

/-- The second is for versions from 17 on, all of which have the first as well. -/
theorem stressCCP_mem_iff {java : String} :
    "-XX:+StressCCP" ∈ stressArguments java ↔ Text.versionAtLeast java "17" = true := by
  simp [stressArguments]

/-- The argument of the later version does not come without that of the earlier one. -/
theorem stressIGVN_mem_of_stressCCP_mem {java : String}
    (h : "-XX:+StressCCP" ∈ stressArguments java) : "-XX:+StressIGVN" ∈ stressArguments java := by
  have horder : Text.versionOrder "16" "17" = .lt := by decide +kernel
  exact stressIGVN_mem_iff.mpr (Text.versionAtLeast_of_lt horder (stressCCP_mem_iff.mp h))

/-- Making the job of a row changes what is computed for it and nothing else. The fields that are
not computed are those of the row, except that `hash` is gone, and the stream moves by one draw
unless the virtual machine cannot stress its compiler. What follows the locale in the arguments goes
with the name: it is nothing, or the arguments that stress the compiler as far as the version of
Java has them, where the later one does not come without the earlier one. No other field depends on
the draw. -/
theorem framed_ofRow (r : Row) :
    (∀ stream key, key ≠ "hash" → key ∉ computedKeys →
      (ofRow r stream).1.valueOf? key = r.toObject.valueOf? key) ∧
    (∀ stream, (ofRow r stream).1.valueOf? "hash" = none) ∧
    (∀ stream, (ofRow r stream).2 =
      if r.tokenOf "java_distribution" = "semeru" then stream else stream.skip 1) ∧
    (∀ stream, ∃ (appended : List String) (note : String),
      (ofRow r stream).1.valueOf? "extraJvmArgs" =
        some (.text (" ".intercalate (localeArguments r ++ appended))) ∧
      (ofRow r stream).1.valueOf? "name" = some (.text (r.name ++ note)) ∧
      (stresses r stream = false ∧ note = "" ∧ appended = [] ∨
        stresses r stream = true ∧ note = ", stress JIT" ∧ appended =
        ["-XX:+UnlockDiagnosticVMOptions", "-XX:+StressGCM", "-XX:+StressLCM"] ++
          (if Text.versionOrder (r.tokenOf "java_version") "16" ≠ .lt
            then ["-XX:+StressIGVN"] else []) ++
          (if Text.versionOrder (r.tokenOf "java_version") "17" ≠ .lt
            then ["-XX:+StressCCP"] else [])) ∧
      ("-XX:+StressCCP" ∈ appended → "-XX:+StressIGVN" ∈ appended)) ∧
    ∀ stream stream' key, key ≠ "name" → key ≠ "extraJvmArgs" →
      (ofRow r stream).1.valueOf? key = (ofRow r stream').1.valueOf? key := by
  refine ⟨?frame, ?hash, ?stream, ?stress, ?independent⟩
  case frame =>
    intro stream key hhash hkey
    rw [ofRow_fst, valueOf?_ofRowWith hhash hkey]
  case hash =>
    intro stream
    rw [ofRow_fst, valueOf?_hash]
  case stream =>
    intro stream
    rw [ofRow_snd, canStress]
    by_cases h : r.tokenOf "java_distribution" = "semeru" <;> simp [h]
  case stress =>
    intro stream
    rw [ofRow_fst, valueOf?_extraJvmArgs, valueOf?_name]
    cases stresses r stream with
    | false => exact ⟨[], "", rfl, rfl, .inl ⟨rfl, rfl, rfl⟩, fun h => absurd h List.not_mem_nil⟩
    | true =>
      exact ⟨stressArguments (r.tokenOf "java_version"), stressNote, rfl, rfl,
        .inr ⟨rfl, rfl, stressArguments_eq _⟩, stressIGVN_mem_of_stressCCP_mem⟩
  case independent =>
    intro stream stream' key hname harguments
    rw [ofRow_fst, ofRow_fst]
    exact valueOf?_ofRowWith_congr hname harguments _

/-- An early version 16 of Java has the argument of version 16 and not that of version 17. -/
theorem framed_ofRow_sixteen :
    let r : Row :=
      { name := "16-ea, same hash"
        cells := [⟨"hash", { token := "same" }⟩, ⟨"java_version", { token := "16-ea" }⟩] }
    let stream : RandomStream := .ofSeed 2
    (ofRow r stream).1.valueOf? "java_version" = some (.text "16-ea") ∧
      (ofRow r stream).1.valueOf? "hash" = none ∧ (ofRow r stream).2 = stream.skip 1 ∧
      (ofRow r stream).1.valueOf? "name" = some (.text "16-ea, same hash, stress JIT") ∧
      (ofRow r stream).1.valueOf? "extraJvmArgs" = some (.text ("-Duser.country= " ++
        "-Duser.language= -XX:+UnlockDiagnosticVMOptions -XX:+StressGCM -XX:+StressLCM " ++
        "-XX:+StressIGVN")) := by
  intro r stream
  have hstress : stresses r stream = true := by decide +kernel
  obtain ⟨hframe, hhash, hstream, harguments, -⟩ := framed_ofRow r
  obtain ⟨appended, note, hextra, hname, hcases, -⟩ := harguments stream
  have hjava : r.toObject.valueOf? "java_version" = some (.text "16-ea") := rfl
  -- Version 16-ea counts as 16, which is enough for the first option and not for the second.
  obtain ⟨happended, rfl⟩ : appended = ["-XX:+UnlockDiagnosticVMOptions", "-XX:+StressGCM",
      "-XX:+StressLCM", "-XX:+StressIGVN"] ∧ note = ", stress JIT" := by
    obtain ⟨hplain, -, -⟩ | ⟨-, hnote, happended⟩ := hcases
    · exact absurd hstress (by simp [hplain])
    · exact ⟨happended.trans (by decide +kernel), hnote⟩
  have htext : " ".intercalate (localeArguments r ++ appended) = "-Duser.country= " ++
      "-Duser.language= -XX:+UnlockDiagnosticVMOptions -XX:+StressGCM -XX:+StressLCM " ++
      "-XX:+StressIGVN" := by
    rw [happended]
    decide +kernel
  rw [htext] at hextra
  exact ⟨(hframe stream _ (by decide) (by decide)).trans hjava, hhash stream, hstream stream, hname,
    hextra⟩

end Job

end TestMatrix

import Mathlib.Data.List.DropRight
import TestMatrix.Proofs.Text.Numeral
import TestMatrix.Seed

/-!
# Seeds of pull requests

A run of a pull request learns its number from a reference, or else from a number that is given. The
reference may go on behind the number, and blanks around either do not count, so that all runs of
one pull request come to the same text (`Variables.Builds.pullRequest?_eq`) and from it to the same
seed.

The number itself is a word of 64 bits, and the seed is its product with a fixed odd factor. An odd
factor has an inverse among the words, so that different numbers have different seeds
(`Seed.pullRequestFactor_injective`). Both together are `Seed.pull_requests_have_own_seeds`.
-/

namespace TestMatrix

namespace Text

variable {cs before after rest : List Char} {s t : String} {n : Nat}

/-! ## Blanks at the ends -/

/-- There is something to read, and it neither begins nor ends with a blank. -/
structure Trimmed (cs : List Char) : Prop where
  ne_nil : cs ≠ []
  head : ∀ c ∈ cs.head?, isBlank c = false
  last : ∀ c ∈ cs.getLast?, isBlank c = false

/-- The second text is the first one with blanks around it. -/
def Pads (s t : String) : Prop := ∃ before after : String,
  (∀ c ∈ before.toList ++ after.toList, isBlank c = true) ∧ t = before ++ s ++ after

/-- Nothing is trimmed from what does not begin with a blank. -/
theorem dropWhile_isBlank_of_head (h : ∀ c ∈ cs.head?, isBlank c = false) :
    cs.dropWhile isBlank = cs := by
  cases cs with
  | nil => rfl
  | cons c cs => rw [List.dropWhile_cons_of_neg (by simp [h c rfl])]

/-- Trimming takes away blanks in front of something, and what is blank at the end. -/
theorem Trimmed.trimBlank_append (h : Trimmed cs) (hbefore : ∀ c ∈ before, isBlank c = true)
    (rest : List Char) : trimBlank (before ++ cs ++ rest) = cs ++ rest.rdropWhile isBlank := by
  have hhead : ∀ c ∈ (cs ++ rest).head?, isBlank c = false := by
    obtain ⟨c, cs', rfl⟩ := List.exists_cons_of_ne_nil h.ne_nil
    exact h.head
  have hlast : cs.reverse.dropWhile isBlank = cs.reverse :=
    dropWhile_isBlank_of_head (by simpa using h.last)
  rw [trimBlank, List.append_assoc, List.dropWhile_append_of_pos hbefore,
    dropWhile_isBlank_of_head hhead, List.reverse_append, List.dropWhile_append, List.rdropWhile]
  split
  · next hempty =>
    rw [hlast, List.isEmpty_iff.mp hempty, List.reverse_reverse, List.reverse_nil, List.append_nil]
  · rw [List.reverse_append, List.reverse_reverse]

/-- What is left of the text is what it says. -/
theorem Trimmed.filled?_append (h : Trimmed cs) (hbefore : ∀ c ∈ before, isBlank c = true)
    (ht : t.toList = before ++ cs ++ rest) :
    filled? t = some (String.ofList (cs ++ rest.rdropWhile isBlank)) := by
  have htrim : trim t = String.ofList (cs ++ rest.rdropWhile isBlank) := by
    rw [trim, ht, h.trimBlank_append hbefore]
  have hne : (trim t).isEmpty = false := by
    rw [String.isEmpty_eq_false_iff, Ne, ← String.toList_inj, htrim, String.toList_ofList]
    exact fun hnil => h.ne_nil (List.append_eq_nil_iff.mp hnil).1
  rw [filled?, hne, htrim]
  rfl

/-- What is left of a text at the end begins as the text does. -/
theorem head?_rdropWhile {p : Char → Bool} {c : Char} (h : c ∈ (cs.rdropWhile p).head?) :
    c ∈ cs.head? := by
  obtain ⟨last, hlast⟩ := List.rdropWhile_prefix (p := p) cs
  obtain ⟨front, hfront⟩ := List.head?_eq_some_iff.mp h
  rw [← hlast, hfront]
  rfl

/-- Blanks around a text that has none at its ends do not matter. -/
theorem Pads.filled?_eq (h : Pads s t) (hs : Trimmed s.toList) : filled? t = some s := by
  obtain ⟨before, after, hblank, rfl⟩ := h
  rw [List.forall_mem_append] at hblank
  have hlist : (before ++ s ++ after).toList = before.toList ++ s.toList ++ after.toList := by
    rw [String.toList_append, String.toList_append]
  rw [hs.filled?_append hblank.1 hlist, List.rdropWhile_eq_nil_iff.mpr hblank.2, List.append_nil,
    String.ofList_toList]

/-! ## Digits of a number -/

/-- The text consists of digits that denote the number, perhaps behind zeros. -/
structure Denotes (s : String) (n : Nat) : Prop where
  ne_nil : s.toList ≠ []
  isDigit : ∀ c ∈ s.toList, c.isDigit = true
  value_eq : digitsValue s.toList = n

/-- The seed of a number of 64 bits is the number. -/
theorem Denotes.seedOfText_eq (h : Denotes s n) (hn : n < wordCount) :
    seedOfText s = UInt64.ofNat n := by
  have hblank : ∀ c ∈ s.toList, isBlank c = false := fun c hc => isBlank_of_isDigit (h.isDigit c hc)
  have hplus : '+' ∉ s.toList := fun hmem => absurd (h.isDigit '+' hmem) (by decide)
  have hvalue : digitsFrom 0 s.toList = n := h.value_eq
  rw [seedOfText, trim, trimBlank_of_not_isBlank hblank, String.ofList_toList,
    readWord_eq_readDigits h.ne_nil hplus, readDigits_eq_ok h.isDigit (hvalue ▸ hn), hvalue]

end Text

/-! ## References of pull requests -/

/-- The text can be the number of a pull request in a reference. -/
structure IsPullRequest (id : String) : Prop where
  trimmed : Text.Trimmed id.toList
  noSlash : '/' ∉ id.toList

/-- A text of digits can be the number of a pull request. -/
theorem Text.Denotes.isPullRequest {id : String} {n : Nat} (h : Text.Denotes id n) :
    IsPullRequest id where
  trimmed :=
    { ne_nil := h.ne_nil
      head := fun c hc => isBlank_of_isDigit (h.isDigit c (List.mem_of_mem_head? hc))
      last := fun c hc => isBlank_of_isDigit (h.isDigit c (List.mem_of_mem_getLast? hc)) }
  noSlash := fun hmem => absurd (h.isDigit '/' hmem) (by decide)

namespace Variables

variable {vars : Variables} {id ref : String} {tail : List Char}

/-- The references of a pull request. -/
inductive RefersTo (id : String) : String → Prop
  | bare : RefersTo id ("refs/pull/" ++ id)
  | within (rest : String) : RefersTo id ("refs/pull/" ++ id ++ "/" ++ rest)

/-- The reference leads to a pull request: its number is not empty. -/
def IsPullPath (ref : String) : Prop :=
  ∃ c rest, c ≠ '/' ∧ ref.toList = "refs/pull/".toList ++ c :: rest

/-- The variables say which pull request is built: the reference does, or there is none that leads
to a pull request and the number is given. -/
inductive Builds (vars : Variables) (id : String) : Prop
  | ofRef {ref inner : String} (href : vars.text? "GITHUB_REF" = some ref)
      (hrefers : RefersTo id inner) (hpads : Text.Pads inner ref)
  | ofNumber {number : String}
      (hnone : ∀ ref ∈ vars.text? "GITHUB_REF", ¬IsPullPath (Text.trim ref))
      (hnumber : vars.text? "GITHUB_PR_NUMBER" = some number) (hpads : Text.Pads id number)

/-- The path of pull requests does not begin with a blank. -/
theorem pullPath_eq : pullPath = 'r' :: "efs/pull/".toList := by decide

/-- Neither does a path with a number end in one. -/
theorem trimmed_pullPath (hid : IsPullRequest id) : Text.Trimmed (pullPath ++ id.toList) := by
  refine ⟨fun hnil => hid.trimmed.ne_nil (List.append_eq_nil_iff.mp hnil).2, fun c hc => ?_, ?_⟩
  · rw [pullPath_eq, List.cons_append, List.head?_cons, Option.mem_some_iff] at hc
    rw [← hc]
    decide
  · rw [List.getLast?_append_of_ne_nil _ hid.trimmed.ne_nil]
    exact hid.trimmed.last

/-- What follows the number in a reference to its pull request, if anything, is set off by a slash.
-/
theorem RefersTo.exists_tail (h : RefersTo id ref) : ∃ tail : List Char,
    ref.toList = pullPath ++ id.toList ++ tail ∧ ∀ c ∈ tail.head?, c = '/' := by
  cases h with
  | bare => exact ⟨[], by rw [String.toList_append, List.append_nil]; rfl, by simp⟩
  | within rest =>
    refine ⟨'/' :: rest.toList, ?_, by simp⟩
    simp only [String.toList_append, List.append_assoc]
    rfl

/-- The number ends where a slash follows or nothing. -/
theorem pullRequestOfRef?_append (hid : IsPullRequest id) (htail : ∀ c ∈ tail.head?, c = '/') :
    pullRequestOfRef? (String.ofList (pullPath ++ id.toList ++ tail)) = some id := by
  have hinside : ∀ c ∈ id.toList, (c != '/') = true := fun c hc =>
    bne_iff_ne.mpr fun heq => hid.noSlash (heq ▸ hc)
  have hstop : tail.takeWhile (· != '/') = [] := by
    cases tail with
    | nil => rfl
    | cons c tail => rw [List.takeWhile_cons_of_neg (by simp [htail c rfl])]
  have hprefix : pullPath.isPrefixOf (pullPath ++ id.toList ++ tail) = true := by
    rw [List.isPrefixOf_iff_prefix, List.append_assoc]
    exact List.prefix_append _ _
  rw [pullRequestOfRef?, String.toList_ofList, if_pos hprefix, List.append_assoc, List.drop_left,
    List.takeWhile_append_of_pos hinside, hstop, List.append_nil]
  have hne : id.toList.isEmpty = false := List.isEmpty_eq_false_iff.mpr hid.trimmed.ne_nil
  simp only [hne, String.ofList_toList]
  rfl

/-- A reference that does not lead to a pull request has no number of one. -/
theorem pullRequestOfRef?_eq_none (h : ¬IsPullPath ref) : pullRequestOfRef? ref = none := by
  rw [pullRequestOfRef?]
  split
  · next hprefix =>
    obtain ⟨rest, hrest⟩ := List.isPrefixOf_iff_prefix.mp hprefix
    rw [← hrest, List.drop_left]
    cases rest with
    | nil => rfl
    | cons c rest =>
      have hslash : c = '/' := by
        by_contra hne
        exact h ⟨c, rest, hne, hrest.symm⟩
      rw [List.takeWhile_cons_of_neg (by simp [hslash])]
      rfl
  · rfl

/-- A variable is filled if its text is. -/
theorem filled?_of_text? {name text : String} (h : vars.text? name = some text) :
    vars.filled? name = Text.filled? text := by
  rw [filled?, h, Option.bind_some]

/-- A reference of a pull request is read as its number. -/
theorem RefersTo.pullRequestOfRef?_eq {inner : String} (h : RefersTo id inner)
    (hpads : Text.Pads inner ref) (hid : IsPullRequest id) :
    (Text.filled? ref).bind pullRequestOfRef? = some id := by
  obtain ⟨before, after, hblank, rfl⟩ := hpads
  obtain ⟨tail, hinner, htail⟩ := h.exists_tail
  rw [List.forall_mem_append] at hblank
  have hlist : (before ++ inner ++ after).toList =
      before.toList ++ (pullPath ++ id.toList) ++ (tail ++ after.toList) := by
    rw [String.toList_append, String.toList_append, hinner]
    simp only [List.append_assoc]
  -- What is left behind the number is nothing, or it begins with the slash.
  have hrest : ∀ c ∈ ((tail ++ after.toList).rdropWhile Text.isBlank).head?, c = '/' := by
    intro c hc
    cases tail with
    | nil =>
      rw [List.nil_append, List.rdropWhile_eq_nil_iff.mpr hblank.2] at hc
      exact absurd hc (by simp)
    | cons d tail =>
      have hfirst : c ∈ (d :: tail ++ after.toList).head? := Text.head?_rdropWhile hc
      exact htail c hfirst
  rw [(trimmed_pullPath hid).filled?_append hblank.1 hlist, Option.bind_some,
    pullRequestOfRef?_append hid hrest]

/-- The pull request that is built is the one that the variables say. -/
theorem Builds.pullRequest?_eq (h : vars.Builds id) (hid : IsPullRequest id) :
    vars.pullRequest? = some id := by
  cases h with
  | ofRef href hrefers hpads =>
    rw [pullRequest?, filled?_of_text? href, hrefers.pullRequestOfRef?_eq hpads hid,
      Option.some_or]
  | ofNumber hnone hnumber hpads =>
    -- The number counts only where the ref names no pull request.
    have href : (vars.filled? "GITHUB_REF").bind pullRequestOfRef? = none := by
      rw [Option.bind_eq_none_iff]
      intro text htext
      obtain ⟨ref, href, hfilled⟩ := Option.bind_eq_some_iff.mp htext
      obtain ⟨-, htrim⟩ := Option.ite_none_left_eq_some.mp hfilled
      rw [← Option.some.inj htrim]
      exact pullRequestOfRef?_eq_none (hnone ref href)
    rw [pullRequest?, href, Option.none_or, filled?_of_text? hnumber,
      hpads.filled?_eq hid.trimmed]

end Variables

namespace Seed

variable {explicit : Option String} {vars : Variables} {id : String}

/-- Nobody asks for a seed: what the caller and the variable say, if anything, is blank. -/
structure Unasked (explicit : Option String) (vars : Variables) : Prop where
  caller : ∀ text ∈ explicit, ∀ c ∈ text.toList, Text.isBlank c = true
  workflow : ∀ text ∈ vars.text? "RNG_SEED", ∀ c ∈ text.toList, Text.isBlank c = true

/-- Where no seed is asked for, that of the pull request is taken, whatever fresh seed is at hand.
-/
theorem Unasked.determine_eq (h : Unasked explicit vars) (hid : vars.pullRequest? = some id)
    (fresh : UInt64) :
    determine explicit vars fresh = ⟨seedOfText id * pullRequestFactor, .pullRequest id⟩ := by
  have hexplicit : explicit.bind Text.filled? = none := by
    cases explicit with
    | none => rfl
    | some text => rw [Option.bind_some, Text.filled?_eq_none (h.caller text rfl)]
  have hseed : vars.seedText? = none := by
    rw [Variables.seedText?, Variables.filled?, Option.bind_eq_none_iff]
    exact fun text htext => Text.filled?_eq_none (h.workflow text htext)
  rw [determine, hexplicit, hseed, hid]
  rfl

/-- Multiplication with the factor can be undone, because the factor has an inverse. -/
theorem pullRequestFactor_injective : Function.Injective (· * pullRequestFactor) := by
  intro m n h
  have hinverse : pullRequestFactor * 0xf1de83e19937733d = 1 := by decide
  have hundone := congrArg (· * (0xf1de83e19937733d : UInt64)) h
  simpa only [UInt64.mul_assoc, hinverse, UInt64.mul_one] using hundone

/-- Every pull request has a seed of its own. All runs of it have this seed, unless one is asked
for, whether they learn of the pull request from a reference or from a number, and no run of another
one has it, if both have numbers of 64 bits. -/
theorem pull_requests_have_own_seeds :
    (∀ id, IsPullRequest id → ∃ value, ∀ explicit vars fresh,
      Unasked explicit vars → vars.Builds id →
        determine explicit vars fresh = ⟨value, .pullRequest id⟩) ∧
    ∀ id id' m n, Text.Denotes id m → Text.Denotes id' n →
      m < Text.wordCount → n < Text.wordCount → m ≠ n →
      ∀ explicit vars fresh, Unasked explicit vars → vars.Builds id →
      ∀ explicit' vars' fresh', Unasked explicit' vars' → vars'.Builds id' →
        (determine explicit vars fresh).value ≠ (determine explicit' vars' fresh').value := by
  have hseed : ∀ {id}, IsPullRequest id → ∀ explicit vars fresh, Unasked explicit vars →
      vars.Builds id → determine explicit vars fresh =
        ⟨seedOfText id * pullRequestFactor, .pullRequest id⟩ := by
    intro id hid explicit vars fresh hask hbuilds
    exact hask.determine_eq (hbuilds.pullRequest?_eq hid) fresh
  refine ⟨fun id hid => ⟨_, hseed hid⟩, ?_⟩
  intro id id' m n hid hid' hm hn hne explicit vars fresh hask hbuilds explicit' vars' fresh' hask'
    hbuilds' hsame
  rw [hseed hid.isPullRequest explicit vars fresh hask hbuilds,
    hseed hid'.isPullRequest explicit' vars' fresh' hask' hbuilds'] at hsame
  -- The factor is undone first, and then the numbers are told apart as words.
  have hwords := pullRequestFactor_injective hsame
  rw [hid.seedOfText_eq hm, hid'.seedOfText_eq hn] at hwords
  have hnat := congrArg UInt64.toNat hwords
  rw [UInt64.toNat_ofNat_of_lt' hm, UInt64.toNat_ofNat_of_lt' hn] at hnat
  exact hne hnat

/-- A reference within a pull request goes before another number, and a number that is given is
taken if the reference has none. -/
theorem pull_requests_have_own_seeds_merge :
    let merge : Variables :=
      [("GITHUB_REF", .text "refs/pull/2821/merge "), ("GITHUB_PR_NUMBER", .text "7")]
    let number : Variables := [("RNG_SEED", .text " "), ("GITHUB_REF", .text "refs/pull//merge"),
      ("GITHUB_PR_NUMBER", .text "\t2821\n")]
    let next : Variables := [("GITHUB_PR_NUMBER", .text "002822")]
    (∃ value, determine none merge 1 = ⟨value, .pullRequest "2821"⟩ ∧
      determine (some "  ") number 2 = ⟨value, .pullRequest "2821"⟩) ∧
    (determine none merge 1).value ≠ (determine none next 3).value := by
  intro merge number next
  have hid : Text.Denotes "2821" 2821 := ⟨by decide, List.all_eq_true.mp (by decide), by decide⟩
  have hid' : Text.Denotes "002822" 2822 := ⟨by decide, List.all_eq_true.mp (by decide), by decide⟩
  have hmerge : merge.Builds "2821" := by
    have hpads : Text.Pads "refs/pull/2821/merge" "refs/pull/2821/merge " :=
      ⟨"", " ", List.all_eq_true.mp (by decide), rfl⟩
    exact .ofRef rfl (.within "merge") hpads
  have hnumber : number.Builds "2821" := by
    have hpads : Text.Pads "2821" "\t2821\n" := ⟨"\t", "\n", List.all_eq_true.mp (by decide), rfl⟩
    refine .ofNumber ?_ rfl hpads
    rintro ref href ⟨c, rest, hslash, hpath⟩
    obtain rfl : "refs/pull//merge" = ref := Option.some.inj href
    have hempty : (Text.trim "refs/pull//merge").toList =
        "refs/pull/".toList ++ '/' :: "merge".toList := by decide +kernel
    rw [hempty] at hpath
    exact hslash (List.cons.inj (List.append_cancel_left hpath)).1.symm
  have hnext : next.Builds "002822" := by
    have hpads : Text.Pads "002822" "002822" := ⟨"", "", List.all_eq_true.mp (by decide), rfl⟩
    refine .ofNumber (fun ref href => ?_) rfl hpads
    have hunset : next.text? "GITHUB_REF" = none := by decide
    exact absurd href (by simp [hunset])
  have hask : Unasked none merge := ⟨nofun, nofun⟩
  have hask' : Unasked (some "  ") number := by
    constructor
    · intro text htext
      obtain rfl : "  " = text := Option.some.inj htext
      exact List.all_eq_true.mp (by decide)
    · intro text htext
      obtain rfl : " " = text := Option.some.inj htext
      exact List.all_eq_true.mp (by decide)
  have hask'' : Unasked none next := ⟨nofun, nofun⟩
  obtain ⟨value, hvalue⟩ := pull_requests_have_own_seeds.1 "2821" hid.isPullRequest
  exact ⟨⟨value, hvalue none merge 1 hask hmerge, hvalue (some "  ") number 2 hask' hnumber⟩,
    pull_requests_have_own_seeds.2 "2821" "002822" 2821 2822 hid hid' (by decide) (by decide)
      (by decide) none merge 1 hask hmerge none next 3 hask'' hnext⟩

end Seed

end TestMatrix

import GoldenSuite.Proofs.Discovery.Order

/-! What happens to the cases of a suite when one more program joins it. The newcomer takes inputs
only from programs whose name and a dash begin its own name, and of these only the inputs that it
matches itself; a program that loses all its inputs keeps one case without input.
-/

namespace GoldenSuite

-----------------------------------------------------------------------------------------
-- Names that go on after a dash
-----------------------------------------------------------------------------------------

/-- A name begins with another name and a dash. -/
def DashPrefix (base name : String) : Prop :=
  ∃ rest, name = base ++ "-" ++ rest

/-- Matching is decided by looking for the variant. -/
instance (base stem : String) : Decidable (Matches base stem) :=
  decidable_of_iff ((variantOf? stem base).isSome = true)
    (by rw [Option.isSome_iff_ne_none, Ne, variantOf?_eq_none_iff, not_not])

/-- Of two names that match one stem, the shorter one and a dash begin the longer one. Witness:
both start the stem, and there the shorter one is followed by a dash.
-/
theorem Matches.dashPrefix_iff {left right stem : String} (hl : Matches left stem)
    (hr : Matches right stem)
    : DashPrefix left right ↔ left.utf8ByteSize < right.utf8ByteSize := by
  constructor
  · rintro ⟨rest, rfl⟩
    have dash : "-".utf8ByteSize = 1 := by decide
    simp only [String.utf8ByteSize_append, dash]
    omega
  · intro less
    obtain ⟨more, text⟩ := hr.exists_suffix
    obtain ⟨suffix, text'⟩ := hl.exists_suffix
    obtain ⟨between, rfl⟩ := exists_append_of_size_le (text'.symm.trans text) (Nat.le_of_lt less)
    rw [String.append_assoc] at text
    have nonempty : between ≠ "" := by
      rintro rfl
      simp at less
    rcases hl.suffix_cases text with none | ⟨rest, dashed⟩
    · exact absurd (String.append_eq_empty_iff.mp none).1 nonempty
    · have letters : between.toList ++ more.toList = '-' :: rest.toList := by
        simpa using congrArg String.toList dashed
      cases found : between.toList with
      | nil => exact absurd (String.toList_eq_nil_iff.mp found) nonempty
      | cons first tail =>
          rw [found, List.cons_append, List.cons.injEq] at letters
          refine ⟨String.ofList tail, String.toList_injective ?_⟩
          simp [found, letters.1]

-----------------------------------------------------------------------------------------
-- Longest matches among names that a newcomer has joined
-----------------------------------------------------------------------------------------

section Joined

variable {isBase : String → Prop} {newcomer stem : String}

/-- An old name stays the longest match, unless the newcomer matches the stem too and begins with
the old name and a dash.
-/
theorem LongestMatch.joined_iff {base : String} (other : base ≠ newcomer)
    : LongestMatch (fun name => name = newcomer ∨ isBase name) stem base
      ↔ LongestMatch isBase stem base ∧ ¬(Matches newcomer stem ∧ DashPrefix base newcomer) := by
  constructor
  · intro longest
    refine ⟨⟨longest.member.resolve_left other, longest.matching, ?_⟩, ?_⟩
    · intro name member matching
      exact longest.longest name (Or.inr member) matching
    · rintro ⟨matching, dashed⟩
      have less := (longest.matching.dashPrefix_iff matching).mp dashed
      have most := longest.longest newcomer (Or.inl rfl) matching
      omega
  · rintro ⟨longest, kept⟩
    refine ⟨Or.inr longest.member, longest.matching, ?_⟩
    rintro name (rfl | member) matching
    · refine Nat.le_of_not_lt ?_
      intro less
      exact kept ⟨matching, (longest.matching.dashPrefix_iff matching).mpr less⟩
    · exact longest.longest name member matching

/-- The newcomer is the longest match of a stem that it matches if it begins with the name and a
dash that was the longest match before, or if there was no match.
-/
theorem LongestMatch.newcomer_iff (fresh : ¬isBase newcomer)
    (best : ∀ base, isBase base → Matches base stem → ∃ best, LongestMatch isBase stem best)
    : LongestMatch (fun name => name = newcomer ∨ isBase name) stem newcomer
      ↔ Matches newcomer stem
        ∧ ((∃ base, LongestMatch isBase stem base ∧ DashPrefix base newcomer)
          ∨ ∀ base, isBase base → ¬Matches base stem) := by
  constructor
  · intro longest
    refine ⟨longest.matching, ?_⟩
    by_cases some : ∃ base, isBase base ∧ Matches base stem
    · obtain ⟨base, member, matching⟩ := some
      obtain ⟨former, holds⟩ := best base member matching
      refine Or.inl ⟨former, holds, (holds.matching.dashPrefix_iff longest.matching).mpr ?_⟩
      rcases longest.size_lt_or_eq (Or.inr holds.member) holds.matching with less | same
      · exact less
      · exact absurd (same ▸ holds.member) fresh
    · exact Or.inr fun base member matching => some ⟨base, member, matching⟩
  · rintro ⟨matching, former⟩
    refine ⟨Or.inl rfl, matching, ?_⟩
    rintro name (rfl | member) matching'
    · exact Nat.le_refl _
    · rcases former with ⟨base, longest, dashed⟩ | none
      · have most := longest.longest name member matching'
        have less := (longest.matching.dashPrefix_iff matching).mp dashed
        omega
      · exact absurd matching' (none name member)

end Joined

namespace Discovery

-----------------------------------------------------------------------------------------
-- Lists of cases by their members
-----------------------------------------------------------------------------------------

/-- No two cases precede each other. -/
theorem Precedes.asymm {left right : TestCase} (before : Precedes left right)
    : ¬Precedes right left := by
  intro after
  have same : right.base = left.base := before.base_between after rfl
  exact absurd (List.lt_trans (before.suffix same.symm) (after.suffix same)) (List.lt_irrefl _)

/-- Sorted lists with the same cases are the same list. -/
theorem eq_of_sorted {left right : List TestCase} (hl : left.Pairwise Precedes)
    (hr : right.Pairwise Precedes) (same : ∀ tc, tc ∈ left ↔ tc ∈ right)
    : left = right := by
  have distinct {cases : List TestCase} (sorted : cases.Pairwise Precedes) : cases.Nodup := by
    refine sorted.imp ?_
    rintro first _ before rfl
    exact before.asymm before
  refine List.Perm.eq_of_pairwise ?_ hl hr
    ((List.perm_ext_iff_of_nodup (distinct hl) (distinct hr)).mpr same)
  intro first second _ _ before after
  exact absurd after before.asymm

/-- The cases of two listings are sorted. -/
theorem casesIn_sorted {tree : FileTree} {layout : Layout} {programs inputs : List FileTree.Entry}
    (listedPrograms : Listed tree layout.programs programs)
    (listedInputs : Listed tree layout.inputs inputs)
    : (casesIn layout programs inputs).Pairwise Precedes := by
  rw [← Enumeration.cases_merging]
  exact Enumeration.cases_sorted listedPrograms.distinct listedInputs.distinct _

-----------------------------------------------------------------------------------------
-- The cases of one program
-----------------------------------------------------------------------------------------

/-- The cases of a program among others. -/
def own (base : String) (cases : List TestCase) : List TestCase :=
  cases.filter fun tc => tc.base = base

/-- The cases of a program that read an input. -/
def reading (base : String) (cases : List TestCase) : List TestCase :=
  cases.filter fun tc => tc.base = base && tc.hasInput

/-- The given cases of a program, or its one case without input if there are none. -/
def orBare (layout : Layout) (base : String) (cases : List TestCase) : List TestCase :=
  if cases = [] then [caseAt layout base "" ""] else cases

/-- The case of a program and a suffix that reads the input of that name. -/
def caseReading (layout : Layout) (base suffix : String) : TestCase :=
  caseAt layout base suffix (Path.join layout.inputs (base ++ suffix ++ textExt))

section Listings

variable {tree : FileTree} {layout : Layout} {programs inputs : List FileTree.Entry}
  (listedPrograms : Listed tree layout.programs programs)
  (listedInputs : Listed tree layout.inputs inputs)

include listedInputs in
/-- The cases of a program that read an input are those of the inputs that it is the longest match
of.
-/
theorem mem_reading_casesIn {base : String} {tc : TestCase}
    : tc ∈ reading base (casesIn layout programs inputs)
      ↔ ∃ suffix,
          IsStem textExt inputs (base ++ suffix)
          ∧ LongestMatch (IsStem layout.programExt programs) (base ++ suffix) base
          ∧ tc = caseReading layout base suffix := by
  rw [reading, List.mem_filter, mem_casesIn, Bool.and_eq_true, decide_eq_true_eq]
  constructor
  · rintro ⟨described, rfl, hasInput⟩
    cases described with
    | withInput isInput longest => exact ⟨_, isInput, longest, rfl⟩
    | withoutInput _ _ => simp [TestCase.hasInput, caseAt] at hasInput
  · rintro ⟨suffix, isInput, longest, rfl⟩
    refine ⟨.withInput isInput longest, rfl, ?_⟩
    exact decide_eq_true (Path.join_plain_ne_empty _ (listedInputs.plain isInput))

include listedPrograms listedInputs in
/-- The cases of a program are those that read an input, or the one without input if there are
none. Witness: both sides are sorted, and a program has a case without input exactly if it is no
input's longest match.
-/
theorem own_casesIn {base : String} (isProgram : IsStem layout.programExt programs base)
    : own base (casesIn layout programs inputs)
      = orBare layout base (reading base (casesIn layout programs inputs)) := by
  have sorted := casesIn_sorted listedPrograms listedInputs
  unfold orBare
  split
  · rename_i none
    refine eq_of_sorted (sorted.filter _) (List.pairwise_singleton _ _) ?_
    intro tc
    rw [own, List.mem_filter, mem_casesIn, decide_eq_true_eq, List.mem_singleton]
    have unread {suffix : String} (isInput : IsStem textExt inputs (base ++ suffix))
        : ¬LongestMatch (IsStem layout.programExt programs) (base ++ suffix) base := by
      intro longest
      have member := (mem_reading_casesIn listedInputs).mpr ⟨suffix, isInput, longest, rfl⟩
      rw [none] at member
      exact absurd member List.not_mem_nil
    constructor
    · rintro ⟨described, rfl⟩
      cases described with
      | withInput isInput longest => exact absurd longest (unread isInput)
      | withoutInput _ _ => rfl
    · rintro rfl
      refine ⟨.withoutInput isProgram ?_, rfl⟩
      intro stem isInput longest
      obtain ⟨suffix, rfl⟩ := longest.matching.exists_suffix
      exact unread isInput longest
  · rename_i some
    refine eq_of_sorted (sorted.filter _) (sorted.filter _) ?_
    intro tc
    rw [mem_reading_casesIn listedInputs, own, List.mem_filter, mem_casesIn, decide_eq_true_eq]
    constructor
    · rintro ⟨described, rfl⟩
      cases described with
      | withInput isInput longest => exact ⟨_, isInput, longest, rfl⟩
      | withoutInput _ unclaimed =>
          obtain ⟨read, member⟩ := List.exists_mem_of_ne_nil _ some
          obtain ⟨_, isInput, longest, _⟩ := (mem_reading_casesIn listedInputs).mp member
          exact absurd longest (unclaimed _ isInput)
    · rintro ⟨suffix, isInput, longest, rfl⟩
      exact ⟨.withInput isInput longest, rfl⟩

end Listings

-----------------------------------------------------------------------------------------
-- One more file in a directory
-----------------------------------------------------------------------------------------

section Added

variable {ext added : String} {entries more : List FileTree.Entry}
  (adds : more.Perm (⟨added ++ ext, false⟩ :: entries))

include adds in
/-- A file that is added was not there before, since names are distinct with it. -/
theorem not_isStem_of_added (distinct : (more.map FileTree.Entry.name).Nodup)
    : ¬IsStem ext entries added := by
  intro present
  have distinct' := (adds.map FileTree.Entry.name).nodup_iff.mp distinct
  exact (List.nodup_cons.mp distinct').1 (List.mem_map_of_mem present.2)

include adds in
/-- The stems of a listing are now the added one and the old ones. -/
theorem isStem_added_iff (named : added ≠ "") (stem : String)
    : IsStem ext more stem ↔ stem = added ∨ IsStem ext entries stem := by
  unfold IsStem
  rw [adds.mem_iff, List.mem_cons, FileTree.Entry.mk.injEq, String.append_left_inj]
  constructor
  · rintro ⟨nonempty, ⟨same, _⟩ | listed⟩
    · exact Or.inl same
    · exact Or.inr ⟨nonempty, listed⟩
  · rintro (rfl | ⟨nonempty, listed⟩)
    · exact ⟨named, Or.inl ⟨rfl, rfl⟩⟩
    · exact ⟨nonempty, Or.inr listed⟩

end Added

-----------------------------------------------------------------------------------------
-- A program joins a suite
-----------------------------------------------------------------------------------------

/-- A suite before and after a program has joined it: the program directory lists one more file,
and the input directory what it listed before.
-/
structure Joins (before after : FileTree) (layout : Layout)
    (programs joined inputs : List FileTree.Entry) (newcomer : String)
    : Prop where
  listedPrograms : Listed before layout.programs programs
  listedJoined : Listed after layout.programs joined
  listedInputs : Listed before layout.inputs inputs
  listedAgain : Listed after layout.inputs inputs
  named : newcomer ≠ ""
  adds : joined.Perm (⟨newcomer ++ layout.programExt, false⟩ :: programs)

section Joined

variable {before after : FileTree} {layout : Layout}
  {programs joined inputs : List FileTree.Entry} {newcomer : String}
  (joins : Joins before after layout programs joined inputs newcomer)

include joins in
/-- The newcomer was not among the programs, whose names are distinct after it has joined. -/
theorem Joins.fresh : ¬IsStem layout.programExt programs newcomer :=
  not_isStem_of_added joins.adds joins.listedJoined.distinct

include joins in
/-- The programs are now the newcomer and the old ones. -/
theorem Joins.isStem_iff (base : String)
    : IsStem layout.programExt joined base
      ↔ base = newcomer ∨ IsStem layout.programExt programs base :=
  isStem_added_iff joins.adds joins.named base

include joins in
/-- An old program keeps the cases that read an input, except those that the newcomer matches if
it begins with the program's name and a dash.
-/
theorem Joins.mem_reading_iff {base : String} (isProgram : IsStem layout.programExt programs base)
    {tc : TestCase}
    : tc ∈ reading base (casesIn layout joined inputs)
      ↔ tc ∈ reading base (casesIn layout programs inputs)
        ∧ ¬(Matches newcomer tc.name ∧ DashPrefix base newcomer) := by
  have other : base ≠ newcomer := by
    rintro rfl
    exact joins.fresh isProgram
  rw [mem_reading_casesIn joins.listedInputs, mem_reading_casesIn joins.listedInputs]
  simp only [LongestMatch.congr joins.isStem_iff, LongestMatch.joined_iff other]
  constructor
  · rintro ⟨suffix, isInput, ⟨longest, kept⟩, rfl⟩
    exact ⟨⟨suffix, isInput, longest, rfl⟩, kept⟩
  · rintro ⟨⟨suffix, isInput, longest, rfl⟩, kept⟩
    exact ⟨suffix, isInput, ⟨longest, kept⟩, rfl⟩

include joins in
/-- The newcomer reads the inputs that it matches and that a program whose name and a dash begin
its own has read before, or that no case has read.
-/
theorem Joins.mem_reading_newcomer_iff {tc : TestCase}
    : tc ∈ reading newcomer (casesIn layout joined inputs)
      ↔ ∃ suffix,
          tc = caseReading layout newcomer suffix
          ∧ IsStem textExt inputs (newcomer ++ suffix)
          ∧ Matches newcomer (newcomer ++ suffix)
          ∧ ((∃ taken ∈ casesIn layout programs inputs,
                DashPrefix taken.base newcomer ∧ taken.input = tc.input)
              ∨ ∀ former ∈ casesIn layout programs inputs, former.input ≠ tc.input) := by
  simp only [mem_reading_casesIn joins.listedInputs, LongestMatch.congr joins.isStem_iff,
    LongestMatch.newcomer_iff joins.fresh fun _ => exists_longestMatch_of_isStem, mem_casesIn]
  constructor
  · rintro ⟨suffix, isInput, ⟨matching, former⟩, rfl⟩
    refine ⟨suffix, rfl, isInput, matching, former.imp ?_ ?_⟩
    · rintro ⟨base, longest, dashed⟩
      obtain ⟨more, text⟩ := longest.matching.exists_suffix
      rw [text] at isInput longest
      refine ⟨_, .withInput isInput longest, dashed, ?_⟩
      simp only [caseReading, caseAt, text]
    · intro none former described path
      obtain ⟨base, _, longest, _⟩ := described.of_input joins.listedInputs isInput path
      exact none base longest.member longest.matching
  · rintro ⟨suffix, rfl, isInput, matching, former⟩
    refine ⟨suffix, isInput, ⟨matching, former.imp ?_ ?_⟩, rfl⟩
    · rintro ⟨taken, described, dashed, path⟩
      obtain ⟨base, _, longest, _, rfl⟩ := described.of_input joins.listedInputs isInput path
      exact ⟨base, longest, dashed⟩
    · intro unread base isProgram matching'
      obtain ⟨tc, ⟨described, path⟩, _⟩ :=
        existsUnique_described_of_input joins.listedInputs isInput isProgram matching'
      exact unread tc described path

include joins in
/-- A program that joins a suite takes inputs only from programs whose name and a dash begin its
own. The cases of every other program stay the same list. A program of that kind loses exactly the
cases with an input that the newcomer matches by name and keeps its other cases with an input, and
if none is left it has its one case without input. The cases with an input that the newcomer gets
are those that it takes away in this way, and those of the matching inputs that no case has read.
-/
theorem discover_newcomer
    : ∃ old new,
        discover before layout (fun _ => true) = .ok old
        ∧ discover after layout (fun _ => true) = .ok new
        ∧ (∀ base,
            IsStem layout.programExt programs base
            → ¬DashPrefix base newcomer
            → own base new = own base old)
        ∧ (∀ base,
            IsStem layout.programExt programs base
            → DashPrefix base newcomer
            → own base new
              = orBare layout base
                  ((reading base old).filter fun tc => ¬Matches newcomer tc.name))
        ∧ ∀ tc,
            tc ∈ reading newcomer new
            ↔ ∃ suffix,
                tc = caseReading layout newcomer suffix
                ∧ IsStem textExt inputs (newcomer ++ suffix)
                ∧ Matches newcomer (newcomer ++ suffix)
                ∧ ((∃ taken ∈ old, DashPrefix taken.base newcomer ∧ taken.input = tc.input)
                    ∨ ∀ former ∈ old, former.input ≠ tc.input) := by
  have found := discover_of_listed joins.listedPrograms joins.listedInputs (fun _ => true)
  have found' := discover_of_listed joins.listedJoined joins.listedAgain (fun _ => true)
  rw [List.filter_eq_self.mpr (fun _ _ => rfl)] at found found'
  have sorted := casesIn_sorted joins.listedPrograms joins.listedInputs
  have sorted' := casesIn_sorted joins.listedJoined joins.listedAgain
  have listed {base : String} (isProgram : IsStem layout.programExt programs base)
      : own base (casesIn layout joined inputs)
        = orBare layout base (reading base (casesIn layout joined inputs)) :=
    own_casesIn joins.listedJoined joins.listedAgain
      ((joins.isStem_iff base).mpr (Or.inr isProgram))
  refine ⟨_, _, found, found', ?_, ?_, fun tc => joins.mem_reading_newcomer_iff⟩
  · intro base isProgram undashed
    have same : reading base (casesIn layout joined inputs)
        = reading base (casesIn layout programs inputs) := by
      refine eq_of_sorted (sorted'.filter _) (sorted.filter _) ?_
      intro tc
      rw [joins.mem_reading_iff isProgram]
      exact ⟨And.left, fun member => ⟨member, fun both => undashed both.2⟩⟩
    rw [listed isProgram, own_casesIn joins.listedPrograms joins.listedInputs isProgram, same]
  · intro base isProgram dashed
    have kept : reading base (casesIn layout joined inputs)
        = (reading base (casesIn layout programs inputs)).filter
            fun tc => ¬Matches newcomer tc.name := by
      refine eq_of_sorted (sorted'.filter _) ((sorted.filter _).filter _) ?_
      intro tc
      rw [joins.mem_reading_iff isProgram, List.mem_filter, decide_eq_true_eq]
      exact ⟨fun ⟨member, free⟩ => ⟨member, fun matching => free ⟨matching, dashed⟩⟩,
        fun ⟨member, free⟩ => ⟨member, fun both => free both.1⟩⟩
    rw [listed isProgram, kept]

end Joined

/-- The suite before its longer program has joined. -/
def undashedSuite : FileTree where
  nodes :=
    [(["v"], .directory), (["v", "a.v"], .file [] 0o644), (["i"], .directory),
      (["i", "a-b.txt"], .file [] 0o644)]
  home := []

/-- The longer program takes the only input of the shorter one, which is left with its case without
input.
-/
theorem discover_newcomer_dashedSuite
    : Joins undashedSuite dashedSuite shortLayout [⟨"a.v", false⟩]
        [⟨"a-b.v", false⟩, ⟨"a.v", false⟩] [⟨"a-b.txt", false⟩] "a-b"
      ∧ ∃ old new,
          discover undashedSuite shortLayout (fun _ => true) = .ok old
          ∧ discover dashedSuite shortLayout (fun _ => true) = .ok new
          ∧ own "a" old = [caseReading shortLayout "a" "-b"]
          ∧ own "a" new = [caseAt shortLayout "a" "" ""]
          ∧ caseReading shortLayout "a-b" "" ∈ new := by
  have joins : Joins undashedSuite dashedSuite shortLayout [⟨"a.v", false⟩]
      [⟨"a-b.v", false⟩, ⟨"a.v", false⟩] [⟨"a-b.txt", false⟩] "a-b" := {
    listedPrograms := ⟨Or.inl (by cbv), by decide, by decide, by decide⟩
    listedJoined := dashedSuite_listed.1
    listedInputs := ⟨Or.inl (by cbv), by decide, by decide, by decide⟩
    listedAgain := dashedSuite_listed.2
    named := by decide
    adds := .refl _
  }
  refine ⟨joins, ?_⟩
  obtain ⟨old, new, found, found', _, loses, gains⟩ := discover_newcomer joins
  have cases : discover undashedSuite shortLayout (fun _ => true)
      = .ok [caseReading shortLayout "a" "-b"] := by
    cbv
  obtain rfl : [caseReading shortLayout "a" "-b"] = old :=
    Except.ok.inj (cases.symm.trans found)
  refine ⟨_, new, found, found', by decide, ?_, ?_⟩
  · rw [loses "a" (by decide) ⟨"b", by decide⟩]
    decide
  · have gained := (gains (caseReading shortLayout "a-b" "")).mpr
      ⟨"", rfl, by decide, by decide,
        Or.inl ⟨_, List.mem_singleton_self _, ⟨"b", by decide⟩, by decide⟩⟩
    exact (List.mem_filter.mp gained).1

end Discovery

end GoldenSuite

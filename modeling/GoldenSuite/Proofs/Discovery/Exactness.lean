import GoldenSuite.Proofs.Discovery.Cases
import GoldenSuite.Proofs.Path.Joining
import Mathlib

/-! Discovery finds exactly the cases that two directory listings describe. The description
speaks of whole names only: it knows neither the order of the listings nor how inputs are
claimed.
-/

namespace GoldenSuite.Discovery

-----------------------------------------------------------------------------------------
-- Listings
-----------------------------------------------------------------------------------------

/-- A directory lists these entries, under names as a file system has them. A directory that is
not there lists nothing.
-/
structure Listed (tree : FileTree) (dir : String) (entries : List FileTree.Entry) : Prop where
  read
    : tree.readDir dir = .ok entries
      ∨ entries = []
        ∧ ∃ fault, tree.readDir dir = .error fault ∧ fault.has .notExist = true
  nonempty : ∀ entry ∈ entries, entry.name ≠ ""
  unslashed : ∀ entry ∈ entries, '/' ∉ entry.name.toList
  distinct : (entries.map FileTree.Entry.name).Nodup

/-- The files of a listed directory are those of its listing, by cases on whether it is there. -/
theorem Listed.filesWithExt {tree : FileTree} {dir : String} {entries : List FileTree.Entry}
    (listed : Listed tree dir entries) (ext : String)
    : filesWithExt tree dir ext = .ok (stemmed dir ext entries) := by
  rcases listed.read with found | ⟨rfl, fault, missing, notExist⟩
  · simp [Discovery.filesWithExt, found]
  · simp [Discovery.filesWithExt, missing, notExist, stemmed]

/-- All cases of a program listing and an input listing. -/
def casesIn (layout : Layout) (programs inputs : List FileTree.Entry) : List TestCase :=
  cases layout (stemmed layout.programs layout.programExt programs)
    (stemmed layout.inputs textExt inputs)

/-- Discovery selects among the cases of the two listings. -/
theorem discover_of_listed {tree : FileTree} {layout : Layout}
    {programs inputs : List FileTree.Entry} (listedPrograms : Listed tree layout.programs programs)
    (listedInputs : Listed tree layout.inputs inputs) (selects : String → Bool)
    : discover tree layout selects
      = .ok ((casesIn layout programs inputs).filter fun tc => selects tc.name) := by
  unfold discover
  rw [listedPrograms.filesWithExt, listedInputs.filesWithExt]
  rfl

/-- The cases of two listings are called differently, since the entries of each are. -/
theorem casesIn_pairwise {tree : FileTree} {layout : Layout}
    {programs inputs : List FileTree.Entry} (listedPrograms : Listed tree layout.programs programs)
    (listedInputs : Listed tree layout.inputs inputs)
    : (casesIn layout programs inputs).Pairwise (fun left right => left.name ≠ right.name) :=
  cases_pairwise (stemmed_pairwise listedPrograms.distinct)
    (stemmed_pairwise listedInputs.distinct)

/-- A listed stem and an ending of four characters make a plain file name. -/
theorem Listed.plain {tree : FileTree} {dir ext stem : String} {entries : List FileTree.Entry}
    (listed : Listed tree dir entries) (isStem : IsStem ext entries stem)
    : Path.IsPlain (stem ++ textExt) := by
  have unslashed : '/' ∉ stem.toList := by
    intro member
    exact listed.unslashed _ isStem.2 (by simp [member])
  have long (name : String) (short : name.length < 4) : stem ++ textExt ≠ name := by
    intro same
    have lengths := congrArg String.length same
    simp only [String.length_append, textExt] at lengths
    have four : ".txt".length = 4 := rfl
    omega
  exact {
    nonempty := long "" (by decide)
    unslashed := by simpa [textExt] using unslashed
    notSelf := long "." (by decide)
    notParent := long ".." (by decide)
  }

-----------------------------------------------------------------------------------------
-- The cases that listings describe
-----------------------------------------------------------------------------------------

/-- The case of a program name and a suffix, with all paths written out. -/
def caseAt (layout : Layout) (base suffix input : String) : TestCase where
  base := base
  program := Path.join layout.programs (base ++ layout.programExt)
  suffix := suffix
  input := input
  actual := Path.join layout.scratch (base ++ suffix ++ textExt)
  reference := Path.join layout.references (base ++ suffix ++ textExt)

/-- The cases that two listings describe: one for each input that some program matches, of the
longest such program, and one without input for each program that is no input's longest match.
-/
inductive Described (layout : Layout) (programs inputs : List FileTree.Entry) : TestCase → Prop
  | withInput {base suffix : String} (input : IsStem textExt inputs (base ++ suffix))
    (longest : LongestMatch (IsStem layout.programExt programs) (base ++ suffix) base)
    : Described layout programs inputs
        (caseAt layout base suffix (Path.join layout.inputs (base ++ suffix ++ textExt)))
  | withoutInput {base : String} (program : IsStem layout.programExt programs base)
    (unclaimed
      : ∀ stem,
          IsStem textExt inputs stem
          → ¬ LongestMatch (IsStem layout.programExt programs) stem base)
    : Described layout programs inputs (caseAt layout base "" "")

/-- The names that contend for inputs are the stems of the program listing. -/
theorem mem_sortedStems {dir ext : String} {entries : List FileTree.Entry} {base : String}
    : base ∈ ((stemmed dir ext entries).mergeSort fun a b => a.stem ≤ b.stem).map (·.stem)
      ↔ IsStem ext entries base := by
  rw [List.mem_map]
  constructor
  · rintro ⟨program, member, rfl⟩
    obtain ⟨stem, isStem, rfl⟩ := mem_stemmed.mp (List.mem_mergeSort.mp member)
    exact isStem
  · intro isStem
    exact ⟨_, List.mem_mergeSort.mpr (mem_stemmed.mpr ⟨base, isStem, rfl⟩), rfl⟩

/-- If any program of a listing matches a stem, one of them is the longest match. -/
theorem exists_longestMatch_of_isStem {ext stem base : String} {entries : List FileTree.Entry}
    (isProgram : IsStem ext entries base) (matching : Matches base stem)
    : ∃ best, LongestMatch (IsStem ext entries) stem best := by
  have member
      : base ∈ ((stemmed "" ext entries).mergeSort fun a b => a.stem ≤ b.stem).map (·.stem) :=
    mem_sortedStems.mpr isProgram
  obtain ⟨best, longest⟩ := exists_longestMatch member matching
  exact ⟨best, (LongestMatch.congr fun _ => mem_sortedStems).mp longest⟩

/-- The cases of two listings are those that the listings describe. Witness: claims are longest
matches, and files of a listing are its stems.
-/
theorem mem_casesIn {layout : Layout} {programs inputs : List FileTree.Entry} {tc : TestCase}
    : tc ∈ casesIn layout programs inputs ↔ Described layout programs inputs tc := by
  have claimed {stem base suffix : String}
      : claimOf? stem
          (((stemmed layout.programs layout.programExt programs).mergeSort
            fun a b => a.stem ≤ b.stem).map (·.stem))
          = some ⟨base, suffix⟩
        ↔ LongestMatch (IsStem layout.programExt programs) stem base
          ∧ stem = base ++ suffix := by
    rw [claimOf?_eq_some_iff, LongestMatch.congr fun _ => mem_sortedStems]
  rw [casesIn, mem_cases]
  constructor
  · rintro ⟨program, program_mem, listed⟩
    obtain ⟨base, isProgram, rfl⟩ := mem_stemmed.mp program_mem
    rcases mem_casesOf.mp listed with ⟨input, input_mem, suffix, claim, rfl⟩ | ⟨free, rfl⟩
    · obtain ⟨stem, isInput, rfl⟩ := mem_stemmed.mp input_mem
      obtain ⟨longest, rfl⟩ := claimed.mp claim
      exact .withInput isInput longest
    · refine .withoutInput isProgram ?_
      intro stem isInput longest
      obtain ⟨suffix, text⟩ := longest.matching.exists_suffix
      exact free _ (mem_stemmed.mpr ⟨stem, isInput, rfl⟩) suffix (claimed.mpr ⟨longest, text⟩)
  · intro described
    cases described with
    | withInput isInput longest =>
        refine ⟨_, mem_stemmed.mpr ⟨_, longest.member, rfl⟩, mem_casesOf.mpr (Or.inl ?_)⟩
        exact ⟨_, mem_stemmed.mpr ⟨_, isInput, rfl⟩, _, claimed.mpr ⟨longest, rfl⟩, rfl⟩
    | withoutInput isProgram unclaimed =>
        refine ⟨_, mem_stemmed.mpr ⟨_, isProgram, rfl⟩, mem_casesOf.mpr (Or.inr ⟨?_, rfl⟩)⟩
        intro input input_mem suffix claim
        obtain ⟨stem, isInput, rfl⟩ := mem_stemmed.mp input_mem
        exact unclaimed stem isInput (claimed.mp claim).1

/-- A described case has the paths that its name and its program's name give. -/
theorem Described.paths {layout : Layout} {programs inputs : List FileTree.Entry}
    {tc : TestCase} (described : Described layout programs inputs tc)
    : tc.program = Path.join layout.programs (tc.base ++ layout.programExt)
      ∧ tc.actual = Path.join layout.scratch (tc.name ++ textExt)
      ∧ tc.reference = Path.join layout.references (tc.name ++ textExt) := by
  cases described with
  | withInput _ _ => exact ⟨rfl, rfl, rfl⟩
  | withoutInput _ _ => exact ⟨rfl, rfl, rfl⟩

/-- A described case that reads an input is the case of that input's longest match. Witness:
the path of the input gives back its stem, and a case without input has no path at all.
-/
theorem Described.of_input {tree : FileTree} {layout : Layout}
    {programs inputs : List FileTree.Entry} {tc : TestCase} {stem : String}
    (listed : Listed tree layout.inputs inputs) (isInput : IsStem textExt inputs stem)
    (described : Described layout programs inputs tc)
    (path : tc.input = Path.join layout.inputs (stem ++ textExt))
    : ∃ base suffix,
        LongestMatch (IsStem layout.programExt programs) stem base
        ∧ stem = base ++ suffix
        ∧ tc = caseAt layout base suffix (Path.join layout.inputs (stem ++ textExt)) := by
  cases described with
  | @withInput base suffix isInput' longest =>
      have files := Path.join_injective (listed.plain isInput') (listed.plain isInput) path
      have stems : base ++ suffix = stem := (String.append_left_inj _).mp files
      subst stems
      exact ⟨base, suffix, longest, rfl, rfl⟩
  | withoutInput _ _ => exact absurd path.symm (Path.join_plain_ne_empty _ (listed.plain isInput))

/-- Every program has a described case: that of an input if it is the longest match of one, else
the one without input.
-/
theorem exists_described_of_program {layout : Layout} {programs inputs : List FileTree.Entry}
    {base : String} (isProgram : IsStem layout.programExt programs base)
    : ∃ tc, Described layout programs inputs tc ∧ tc.base = base := by
  by_cases claimed : ∃ stem,
      IsStem textExt inputs stem ∧ LongestMatch (IsStem layout.programExt programs) stem base
  · obtain ⟨stem, isInput, longest⟩ := claimed
    obtain ⟨suffix, rfl⟩ := longest.matching.exists_suffix
    exact ⟨_, .withInput isInput longest, rfl⟩
  · refine ⟨_, .withoutInput isProgram ?_, rfl⟩
    intro stem isInput longest
    exact claimed ⟨stem, isInput, longest⟩

/-- An input that some program matches is read by exactly one described case. -/
theorem existsUnique_described_of_input {tree : FileTree} {layout : Layout}
    {programs inputs : List FileTree.Entry} {base stem : String}
    (listed : Listed tree layout.inputs inputs) (isInput : IsStem textExt inputs stem)
    (isProgram : IsStem layout.programExt programs base) (matching : Matches base stem)
    : ∃! tc,
        Described layout programs inputs tc
        ∧ tc.input = Path.join layout.inputs (stem ++ textExt) := by
  obtain ⟨best, longest⟩ := exists_longestMatch_of_isStem isProgram matching
  obtain ⟨suffix, rfl⟩ := longest.matching.exists_suffix
  refine ⟨_, ⟨.withInput isInput longest, rfl⟩, ?_⟩
  rintro tc ⟨described, path⟩
  obtain ⟨base', suffix', longest', text, rfl⟩ := described.of_input listed isInput path
  have bases : best = base' := longest.unique longest'
  subst bases
  rw [(String.append_right_inj _).mp text]

-----------------------------------------------------------------------------------------
-- Discovery without a filter
-----------------------------------------------------------------------------------------

/-- Discovery without a filter finds exactly the described cases, each once. Hence an input that
some program matches is read by one case, an input that none matches by no case, and every
program has a case; and all paths of a case come from its names.
-/
theorem discover_exact {tree : FileTree} {layout : Layout}
    {programs inputs : List FileTree.Entry} (listedPrograms : Listed tree layout.programs programs)
    (listedInputs : Listed tree layout.inputs inputs)
    : ∃ cases,
        discover tree layout (fun _ => true) = .ok cases
        ∧ cases.Nodup
        ∧ (∀ tc, tc ∈ cases ↔ Described layout programs inputs tc)
        ∧ (∀ stem,
            IsStem textExt inputs stem
            → (∃ base, IsStem layout.programExt programs base ∧ Matches base stem)
            → ∃! tc, tc ∈ cases ∧ tc.input = Path.join layout.inputs (stem ++ textExt))
        ∧ (∀ base, IsStem layout.programExt programs base → ∃ tc ∈ cases, tc.base = base)
        ∧ (∀ stem,
            IsStem textExt inputs stem
            → (∀ base, IsStem layout.programExt programs base → ¬ Matches base stem)
            → ∀ tc ∈ cases, tc.input ≠ Path.join layout.inputs (stem ++ textExt))
        ∧ ∀ tc ∈ cases,
            tc.name = tc.base ++ tc.suffix
            ∧ tc.program = Path.join layout.programs (tc.base ++ layout.programExt)
            ∧ tc.actual = Path.join layout.scratch (tc.name ++ textExt)
            ∧ tc.reference = Path.join layout.references (tc.name ++ textExt) := by
  have found := discover_of_listed listedPrograms listedInputs (fun _ => true)
  rw [List.filter_eq_self.mpr (fun _ _ => rfl)] at found
  refine ⟨_, found, ?_⟩
  simp only [mem_casesIn]
  refine ⟨?_, fun _ => trivial, ?_, ?_, ?_, ?_⟩
  · refine (casesIn_pairwise listedPrograms listedInputs).imp ?_
    intro left right different same
    exact different (congrArg TestCase.name same)
  · rintro stem isInput ⟨base, isProgram, matching⟩
    exact existsUnique_described_of_input listedInputs isInput isProgram matching
  · intro base isProgram
    exact exists_described_of_program isProgram
  · intro stem isInput unmatched tc described path
    obtain ⟨base, suffix, longest, _, _⟩ := described.of_input listedInputs isInput path
    exact unmatched base longest.member longest.matching
  · intro tc described
    exact ⟨rfl, described.paths⟩

/-- A layout with short names. -/
def shortLayout : Layout := ⟨"v", "i", "o", "s", ".v"⟩

/-- A suite in which one program is called by another's name and a dash, with an input whose stem
is the longer name and could be read as a variant of the shorter one.
-/
def dashedSuite : FileTree where
  nodes :=
    [(["v"], .directory), (["v", "a-b.v"], .file [] 0o644), (["v", "a.v"], .file [] 0o644),
      (["i"], .directory), (["i", "a-b.txt"], .file [] 0o644)]
  home := []

/-- The two directories of that suite, as they are listed. -/
theorem dashedSuite_listed
    : Listed dashedSuite shortLayout.programs [⟨"a-b.v", false⟩, ⟨"a.v", false⟩]
      ∧ Listed dashedSuite shortLayout.inputs [⟨"a-b.txt", false⟩] :=
  ⟨⟨Or.inl (by cbv), by decide, by decide, by decide⟩,
    ⟨Or.inl (by cbv), by decide, by decide, by decide⟩⟩

/-- The input is read by one case, and the shorter program keeps a case. -/
theorem discover_exact_dashedSuite
    : (Listed dashedSuite shortLayout.programs [⟨"a-b.v", false⟩, ⟨"a.v", false⟩]
        ∧ Listed dashedSuite shortLayout.inputs [⟨"a-b.txt", false⟩])
      ∧ ∃ cases,
          discover dashedSuite shortLayout (fun _ => true) = .ok cases
          ∧ (∃! tc, tc ∈ cases ∧ tc.input = Path.join "i" "a-b.txt")
          ∧ ∃ tc ∈ cases, tc.base = "a" := by
  obtain ⟨cases, found, _, _, once, every, _⟩ :=
    discover_exact dashedSuite_listed.1 dashedSuite_listed.2
  have isProgram : IsStem shortLayout.programExt [⟨"a-b.v", false⟩, ⟨"a.v", false⟩] "a" := by
    decide
  exact ⟨dashedSuite_listed, cases, found,
    once "a-b" (by decide) ⟨"a", isProgram, Or.inr ⟨"b", by decide⟩⟩, every "a" isProgram⟩

end GoldenSuite.Discovery

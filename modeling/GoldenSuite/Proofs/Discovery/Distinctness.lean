import GoldenSuite.Proofs.Discovery.Exactness
import GoldenSuite.Scratch

/-! No two discovered cases share a name or an output file, whatever the filter, and none writes
over the placeholder of the scratch directory.
-/

namespace GoldenSuite.Discovery

/-- A described case is called by a listed stem, so its output file has a plain name. -/
theorem Described.plain {tree : FileTree} {layout : Layout}
    {programs inputs : List FileTree.Entry} {tc : TestCase}
    (listedPrograms : Listed tree layout.programs programs)
    (listedInputs : Listed tree layout.inputs inputs)
    (described : Described layout programs inputs tc)
    : Path.IsPlain (tc.name ++ textExt) := by
  cases described with
  | withInput isInput _ => exact listedInputs.plain isInput
  | @withoutInput base isProgram _ =>
      simpa [TestCase.name, caseAt] using listedPrograms.plain isProgram

/-- Described cases that are called differently have different files in any one directory. -/
theorem Described.join_ne {tree : FileTree} {layout : Layout}
    {programs inputs : List FileTree.Entry} {left right : TestCase}
    (listedPrograms : Listed tree layout.programs programs)
    (listedInputs : Listed tree layout.inputs inputs)
    (hl : Described layout programs inputs left) (hr : Described layout programs inputs right)
    (different : left.name ≠ right.name) (dir : String)
    : Path.join dir (left.name ++ textExt) ≠ Path.join dir (right.name ++ textExt) := by
  intro same
  have files := Path.join_injective (hl.plain listedPrograms listedInputs)
    (hr.plain listedPrograms listedInputs) same
  exact different ((String.append_left_inj _).mp files)

/-- The placeholder is a plain name. -/
theorem placeholder_plain : Path.IsPlain Scratch.placeholder :=
  ⟨by decide, by decide, by decide, by decide⟩

/-- No output file is called like the placeholder, which ends otherwise. -/
theorem append_textExt_ne_placeholder (name : String) : name ++ textExt ≠ Scratch.placeholder := by
  intro same
  have ends := congrArg (fun text => text.toList.getLast?) same
  simp [textExt, Scratch.placeholder] at ends

/-- Discovered cases have pairwise different names, hence pairwise different outputs and pairwise
different references, and no output is the placeholder. Witness: the names of all cases differ,
a filter only drops cases, and a file name can be read off its path.
-/
theorem discover_distinct {tree : FileTree} {layout : Layout}
    {programs inputs : List FileTree.Entry} (listedPrograms : Listed tree layout.programs programs)
    (listedInputs : Listed tree layout.inputs inputs) (selects : String → Bool)
    : ∃ cases,
        discover tree layout selects = .ok cases
        ∧ (cases.map TestCase.name).Nodup
        ∧ (cases.map TestCase.actual).Nodup
        ∧ (cases.map TestCase.reference).Nodup
        ∧ ∀ tc ∈ cases, tc.actual ≠ Path.join layout.scratch Scratch.placeholder := by
  refine ⟨_, discover_of_listed listedPrograms listedInputs selects, ?_⟩
  have described {tc : TestCase}
      (member : tc ∈ (casesIn layout programs inputs).filter fun tc => selects tc.name)
      : Described layout programs inputs tc :=
    mem_casesIn.mp (List.mem_filter.mp member).1
  have names := (casesIn_pairwise listedPrograms listedInputs).filter (fun tc => selects tc.name)
  refine ⟨List.pairwise_map.mpr names, List.pairwise_map.mpr (names.imp_of_mem ?_),
    List.pairwise_map.mpr (names.imp_of_mem ?_), ?_⟩
  · intro left right hl hr different
    rw [(described hl).paths.2.1, (described hr).paths.2.1]
    exact (described hl).join_ne listedPrograms listedInputs (described hr) different _
  · intro left right hl hr different
    rw [(described hl).paths.2.2, (described hr).paths.2.2]
    exact (described hl).join_ne listedPrograms listedInputs (described hr) different _
  · intro tc member same
    rw [(described member).paths.2.1] at same
    exact append_textExt_ne_placeholder tc.name (Path.join_injective
      ((described member).plain listedPrograms listedInputs) placeholder_plain same)

/-- The base case of the longer program and the case of the shorter one write different files. -/
theorem discover_distinct_dashedSuite
    : (Listed dashedSuite shortLayout.programs [⟨"a-b.v", false⟩, ⟨"a.v", false⟩]
        ∧ Listed dashedSuite shortLayout.inputs [⟨"a-b.txt", false⟩])
      ∧ ∃ cases,
          discover dashedSuite shortLayout (fun name => name ≠ "b") = .ok cases
          ∧ (cases.map TestCase.name).Nodup
          ∧ (cases.map TestCase.actual).Nodup := by
  obtain ⟨cases, found, names, actual, _⟩ :=
    discover_distinct dashedSuite_listed.1 dashedSuite_listed.2 (fun name => name ≠ "b")
  exact ⟨dashedSuite_listed, cases, found, names, actual⟩

end GoldenSuite.Discovery

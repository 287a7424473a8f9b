import GoldenSuite.Discovery
import GoldenSuite.Proofs.Discovery.Claiming

/-! The cases of two listings, read off as membership: which files are programs and inputs,
which variants a program has, and which cases come of them. Names of cases never collide,
because a name that is a whole stem belongs to the program of that name.
-/

namespace GoldenSuite.Discovery

-----------------------------------------------------------------------------------------
-- Stems of a listing
-----------------------------------------------------------------------------------------

/-- A listing has a file, not a directory, that is called by the stem and the ending. -/
def IsStem (ext : String) (entries : List FileTree.Entry) (stem : String) : Prop :=
  stem ≠ "" ∧ ⟨stem ++ ext, false⟩ ∈ entries

instance (ext : String) (entries : List FileTree.Entry) (stem : String)
    : Decidable (IsStem ext entries stem) :=
  inferInstanceAs (Decidable (_ ∧ _))

/-- The stem of a name is what stands before the ending, if anything does. -/
theorem stemOf?_eq_some_iff {ext name stem : String}
    : stemOf? ext name = some stem ↔ stem ≠ "" ∧ name = stem ++ ext := by
  unfold stemOf?
  split
  · rename_i ends
    obtain ⟨start, text⟩ := List.isSuffixOf_iff_suffix.mp ends
    have cut : name.toList.take (name.toList.length - ext.toList.length) = start := by
      rw [← text, List.length_append, Nat.add_sub_cancel, List.take_left]
    have whole : name = String.ofList start ++ ext :=
      String.toList_injective (by simpa using text.symm)
    simp only [cut]
    constructor
    · intro found
      split at found
      · cases found
      · rename_i kept
        cases found
        exact ⟨fun empty => kept (by simpa using empty), whole⟩
    · rintro ⟨nonempty, text'⟩
      have same : String.ofList start = stem := by
        rw [whole] at text'
        exact (String.append_left_inj _).mp text'
      have kept : start ≠ [] := by
        intro empty
        exact nonempty (by rw [← same, empty])
      simp [kept, same]
  · rename_i differs
    constructor
    · intro found
      cases found
    · rintro ⟨_, rfl⟩
      exact absurd (List.isSuffixOf_iff_suffix.mpr (by simp)) differs

/-- The stemmed files of a listing are its stems, each with its own path. -/
theorem mem_stemmed {dir ext : String} {entries : List FileTree.Entry} {file : Stemmed}
    : file ∈ stemmed dir ext entries
      ↔ ∃ stem, IsStem ext entries stem ∧ file = ⟨stem, Path.join dir (stem ++ ext)⟩ := by
  rw [stemmed, List.mem_filterMap]
  constructor
  · rintro ⟨⟨name, isDirectory⟩, member, found⟩
    cases isDirectory with
    | true => simp at found
    | false =>
        obtain ⟨stem, cut, rfl⟩ := Option.map_eq_some_iff.mp (by simpa using found)
        obtain ⟨nonempty, rfl⟩ := stemOf?_eq_some_iff.mp cut
        exact ⟨stem, ⟨nonempty, member⟩, rfl⟩
  · rintro ⟨stem, ⟨nonempty, member⟩, rfl⟩
    refine ⟨_, member, ?_⟩
    rw [if_neg (by simp), stemOf?_eq_some_iff.mpr ⟨nonempty, rfl⟩, Option.map_some]

/-- Distinct names have distinct stems, since the ending is the same for all. -/
theorem stemmed_pairwise {dir ext : String} {entries : List FileTree.Entry}
    (distinct : (entries.map FileTree.Entry.name).Nodup)
    : (stemmed dir ext entries).Pairwise (fun left right => left.stem ≠ right.stem) := by
  rw [stemmed, List.pairwise_filterMap]
  refine (List.pairwise_map.mp distinct).imp ?_
  intro left right different first hl second hr
  have cutLeft : stemOf? ext left.name = some first.stem := by
    split at hl
    · cases hl
    · obtain ⟨stem, cut, rfl⟩ := Option.map_eq_some_iff.mp hl
      exact cut
  have cutRight : stemOf? ext right.name = some second.stem := by
    split at hr
    · cases hr
    · obtain ⟨stem, cut, rfl⟩ := Option.map_eq_some_iff.mp hr
      exact cut
  intro same
  rw [same] at cutLeft
  exact different
    ((stemOf?_eq_some_iff.mp cutLeft).2.trans (stemOf?_eq_some_iff.mp cutRight).2.symm)

-----------------------------------------------------------------------------------------
-- The cases of one program
-----------------------------------------------------------------------------------------

/-- A program's variants are the inputs that it has claimed. -/
theorem mem_variantsOf {bases : List String} {inputs : List Stemmed} {base suffix path : String}
    : (suffix, path) ∈ variantsOf bases inputs base
      ↔ ∃ input ∈ inputs, claimOf? input.stem bases = some ⟨base, suffix⟩ ∧ input.path = path := by
  rw [variantsOf, List.mem_filterMap]
  constructor
  · rintro ⟨input, member, found⟩
    refine ⟨input, member, ?_⟩
    split at found
    · rename_i claim claimed
      split at found
      · rename_i same
        cases found
        rw [claimed, ← same]
        exact ⟨rfl, rfl⟩
      · cases found
    · cases found
  · rintro ⟨input, member, claimed, path⟩
    exact ⟨input, member, by simp [claimed, path]⟩

/-- A program has a case for each input that it has claimed, and one without input exactly when
it has claimed none.
-/
theorem mem_casesOf {layout : Layout} {bases : List String} {inputs : List Stemmed}
    {program : Stemmed} {tc : TestCase}
    : tc ∈ casesOf layout bases inputs program
      ↔ (∃ input ∈ inputs,
          ∃ suffix,
            claimOf? input.stem bases = some ⟨program.stem, suffix⟩
            ∧ tc = caseOf layout program suffix input.path)
        ∨ (∀ input ∈ inputs, ∀ suffix, claimOf? input.stem bases ≠ some ⟨program.stem, suffix⟩)
          ∧ tc = caseOf layout program "" "" := by
  have found (suffix path : String)
      : (suffix, path) ∈ variantsOf bases inputs program.stem
        ↔ ∃ input ∈ inputs,
            claimOf? input.stem bases = some ⟨program.stem, suffix⟩ ∧ input.path = path :=
    mem_variantsOf
  unfold casesOf
  split
  · rename_i none
    have unclaimed : ∀ input ∈ inputs, ∀ suffix,
        claimOf? input.stem bases ≠ some ⟨program.stem, suffix⟩ := by
      intro input member suffix claimed
      have listed := (found suffix input.path).mpr ⟨input, member, claimed, rfl⟩
      rw [none] at listed
      exact absurd listed List.not_mem_nil
    constructor
    · intro member
      exact Or.inr ⟨unclaimed, List.mem_singleton.mp member⟩
    · rintro (⟨input, member, suffix, claimed, _⟩ | ⟨_, rfl⟩)
      · exact absurd claimed (unclaimed input member suffix)
      · exact List.mem_singleton.mpr rfl
  · rename_i some
    rw [List.mem_map]
    constructor
    · rintro ⟨⟨suffix, path⟩, member, rfl⟩
      obtain ⟨input, listed, claimed, rfl⟩ := (found suffix path).mp (List.mem_mergeSort.mp member)
      exact Or.inl ⟨input, listed, suffix, claimed, rfl⟩
    · rintro (⟨input, member, suffix, claimed, rfl⟩ | ⟨unclaimed, _⟩)
      · exact ⟨(suffix, input.path),
          List.mem_mergeSort.mpr ((found suffix input.path).mpr ⟨input, member, claimed, rfl⟩), rfl⟩
      · obtain ⟨⟨suffix, path⟩, listed⟩ := List.exists_mem_of_ne_nil _ some
        obtain ⟨input, member, claimed, _⟩ := (found suffix path).mp listed
        exact absurd claimed (unclaimed input member suffix)

/-- The cases of a pair of listings are those of its programs, whatever the order. -/
theorem mem_cases {layout : Layout} {programs inputs : List Stemmed} {tc : TestCase}
    : tc ∈ cases layout programs inputs
      ↔ ∃ program ∈ programs,
          tc
          ∈ casesOf layout ((programs.mergeSort fun a b => a.stem ≤ b.stem).map (·.stem)) inputs
              program := by
  rw [cases, List.mem_flatMap]
  constructor
  · rintro ⟨program, member, listed⟩
    exact ⟨program, List.mem_mergeSort.mp member, listed⟩
  · rintro ⟨program, member, listed⟩
    exact ⟨program, List.mem_mergeSort.mpr member, listed⟩

-----------------------------------------------------------------------------------------
-- Names of cases
-----------------------------------------------------------------------------------------

/-- Two variants of one program differ in their suffixes; witness: program name and suffix give
back the stem, and stems of inputs are distinct.
-/
theorem variantsOf_pairwise {bases : List String} {inputs : List Stemmed} (base : String)
    (distinct : inputs.Pairwise (fun left right => left.stem ≠ right.stem))
    : (variantsOf bases inputs base).Pairwise (fun left right => left.1 ≠ right.1) := by
  have claimed {input : Stemmed} {suffix path : String}
      (found : (suffix, path) ∈ variantsOf bases [input] base)
      : input.stem = base ++ suffix := by
    obtain ⟨other, member, claim, _⟩ := mem_variantsOf.mp found
    rw [← List.mem_singleton.mp member]
    exact (claimOf?_eq_some_iff.mp claim).2
  rw [variantsOf, List.pairwise_filterMap]
  refine distinct.imp ?_
  intro left right different first hl second hr same
  have textLeft := claimed (List.mem_filterMap.mpr ⟨left, List.mem_singleton_self left, hl⟩)
  have textRight := claimed (List.mem_filterMap.mpr ⟨right, List.mem_singleton_self right, hr⟩)
  exact different (by rw [textLeft, textRight, same])

/-- The cases of one program have different names. -/
theorem casesOf_pairwise {layout : Layout} {bases : List String} {inputs : List Stemmed}
    (program : Stemmed) (distinct : inputs.Pairwise (fun left right => left.stem ≠ right.stem))
    : (casesOf layout bases inputs program).Pairwise (fun left right => left.name ≠ right.name) := by
  unfold casesOf
  split
  · exact List.pairwise_singleton _ _
  · rw [List.pairwise_map]
    have sorted := (List.mergeSort_perm (variantsOf bases inputs program.stem)
      (fun a b => a.1 ≤ b.1)).symm.pairwise (variantsOf_pairwise program.stem distinct)
        (fun different same => different same.symm)
    refine sorted.imp ?_
    intro left right different same
    exact different ((String.append_right_inj _).mp same)

/-- A case name determines its program. Witness: a claimed case is called by the stem of its
input, which has one claim; a case without input is called by its program, which would have
claimed an input of that stem.
-/
theorem stem_eq_of_name_eq {layout : Layout} {bases : List String} {inputs : List Stemmed}
    {left right : Stemmed} (hl : left.stem ∈ bases) (hr : right.stem ∈ bases)
    {first second : TestCase} (first_mem : first ∈ casesOf layout bases inputs left)
    (second_mem : second ∈ casesOf layout bases inputs right) (same : first.name = second.name)
    : left.stem = right.stem := by
  have own {program : Stemmed} (member : program.stem ∈ bases)
      : claimOf? program.stem bases = some ⟨program.stem, ""⟩ :=
    claimOf?_eq_some_iff.mpr ⟨.self member, by simp⟩
  rcases mem_casesOf.mp first_mem with ⟨input, listed, suffix, claimed, rfl⟩ | ⟨free, rfl⟩
  · have text : input.stem = left.stem ++ suffix := (claimOf?_eq_some_iff.mp claimed).2
    rcases mem_casesOf.mp second_mem with ⟨input', _, suffix', claimed', rfl⟩ | ⟨free', rfl⟩
    · have text' : input'.stem = right.stem ++ suffix' := (claimOf?_eq_some_iff.mp claimed').2
      have stems : input.stem = input'.stem := by
        rw [text, text']
        exact same
      rw [stems, claimed'] at claimed
      exact (congrArg Claim.base (Option.some.inj claimed)).symm
    · have stem : input.stem = right.stem := by
        rw [text]
        simpa [TestCase.name, caseOf] using same
      exact absurd (own hr) (stem ▸ free' input listed "")
  · rcases mem_casesOf.mp second_mem with ⟨input', listed', suffix', claimed', rfl⟩ | ⟨_, rfl⟩
    · have stem : input'.stem = left.stem := by
        rw [(claimOf?_eq_some_iff.mp claimed').2]
        simpa [TestCase.name, caseOf] using same.symm
      exact absurd (own hl) (stem ▸ free input' listed' "")
    · simpa [TestCase.name, caseOf] using same

/-- No two cases of distinct listings have one name. -/
theorem cases_pairwise {layout : Layout} {programs inputs : List Stemmed}
    (distinctPrograms : programs.Pairwise (fun left right => left.stem ≠ right.stem))
    (distinctInputs : inputs.Pairwise (fun left right => left.stem ≠ right.stem))
    : (cases layout programs inputs).Pairwise (fun left right => left.name ≠ right.name) := by
  unfold cases
  rw [List.pairwise_flatMap]
  refine ⟨fun program _ => casesOf_pairwise program distinctInputs, ?_⟩
  have sorted := (List.mergeSort_perm programs (fun a b => a.stem ≤ b.stem)).symm.pairwise
    distinctPrograms (fun different same => different same.symm)
  refine sorted.imp_of_mem ?_
  intro left right hl hr different first first_mem second second_mem same
  exact different (stem_eq_of_name_eq (List.mem_map_of_mem hl) (List.mem_map_of_mem hr)
    first_mem second_mem same)

end GoldenSuite.Discovery

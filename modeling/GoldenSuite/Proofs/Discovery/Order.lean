import GoldenSuite.Proofs.Discovery.Exactness
import GoldenSuite.Proofs.Text.Order

/-! Discovery gives one list, in one order. Programs, inputs and variants may be gone through in any
order on the way: what is sorted has no name twice, so sorting forgets where it came from.
-/

namespace GoldenSuite.Discovery

-----------------------------------------------------------------------------------------
-- Going through in any order
-----------------------------------------------------------------------------------------

/-- One way to go through the files of two listings: programs and the variants of each program are
sorted, however they were met, and inputs come as they may.
-/
structure Enumeration (layout : Layout) (programs inputs : List FileTree.Entry) where
  ordered : List Stemmed
  visited : List Stemmed
  arranged : Stemmed → List (String × String)
  ordered_perm : ordered.Perm (stemmed layout.programs layout.programExt programs)
  ordered_sorted : SortedBy Stemmed.stem ordered
  visited_perm : visited.Perm (stemmed layout.inputs textExt inputs)
  arranged_perm
    : ∀ program ∈ ordered,
        (arranged program).Perm (variantsOf (ordered.map (·.stem)) visited program.stem)
  arranged_sorted : ∀ program ∈ ordered, SortedBy Prod.fst (arranged program)

/-- The cases of one program with its variants as they are arranged. -/
def casesWith (layout : Layout) (variants : List (String × String)) (program : Stemmed)
    : List TestCase :=
  if variants = [] then [caseOf layout program "" ""]
  else variants.map fun variant => caseOf layout program variant.1 variant.2

/-- The cases that are met in this order. -/
def Enumeration.cases {layout : Layout} {programs inputs : List FileTree.Entry}
    (enumeration : Enumeration layout programs inputs)
    : List TestCase :=
  enumeration.ordered.flatMap fun program =>
    casesWith layout (enumeration.arranged program) program

/-- The cases of a program are those of its variants in order; there is one to arrange as soon as
there is one at all.
-/
theorem casesOf_eq_casesWith (layout : Layout) (bases : List String) (inputs : List Stemmed)
    (program : Stemmed)
    : casesOf layout bases inputs program
      = casesWith layout
          ((variantsOf bases inputs program.stem).mergeSort fun a b => a.1 ≤ b.1) program := by
  unfold casesOf casesWith
  cases found : variantsOf bases inputs program.stem with
  | nil => simp
  | cons variant rest =>
      have some : (variant :: rest).mergeSort (fun a b => a.1 ≤ b.1) ≠ [] := by
        intro none
        have lengths := congrArg List.length none
        simp at lengths
      rw [if_neg some]

/-- Discovery's own way: the order of the listings, and everything sorted by merging. -/
def Enumeration.merging (layout : Layout) (programs inputs : List FileTree.Entry)
    : Enumeration layout programs inputs where
  ordered :=
    (stemmed layout.programs layout.programExt programs).mergeSort fun a b => a.stem ≤ b.stem
  visited := stemmed layout.inputs textExt inputs
  arranged program :=
    (variantsOf
      (((stemmed layout.programs layout.programExt programs).mergeSort
        fun a b => a.stem ≤ b.stem).map (·.stem))
      (stemmed layout.inputs textExt inputs) program.stem).mergeSort fun a b => a.1 ≤ b.1
  ordered_perm := List.mergeSort_perm _ _
  ordered_sorted := sortedBy_mergeSort _ _
  visited_perm := .refl _
  arranged_perm _ _ := List.mergeSort_perm _ _
  arranged_sorted _ _ := sortedBy_mergeSort _ _

/-- That way meets the cases of the listings. -/
theorem Enumeration.cases_merging (layout : Layout) (programs inputs : List FileTree.Entry)
    : (merging layout programs inputs).cases = casesIn layout programs inputs := by
  rw [casesIn, Discovery.cases]
  exact congrArg (List.flatMap · _)
    (funext fun program => (casesOf_eq_casesWith layout _ _ program).symm)

section Distinct

variable {layout : Layout} {programs inputs programs' inputs' : List FileTree.Entry}
  (distinctPrograms : (programs.map FileTree.Entry.name).Nodup)
  (distinctInputs : (inputs.map FileTree.Entry.name).Nodup)

include distinctPrograms in
/-- Programs are sorted by names that differ. -/
theorem Enumeration.nodup_ordered (enumeration : Enumeration layout programs inputs)
    : (enumeration.ordered.map (·.stem)).Nodup :=
  (enumeration.ordered_perm.map _).nodup_iff.mpr
    (List.pairwise_map.mpr (stemmed_pairwise distinctPrograms))

include distinctInputs in
/-- The variants of a program are sorted by suffixes that differ. -/
theorem Enumeration.nodup_arranged (enumeration : Enumeration layout programs inputs)
    {program : Stemmed} (member : program ∈ enumeration.ordered)
    : ((enumeration.arranged program).map Prod.fst).Nodup := by
  have visited : enumeration.visited.Pairwise (fun left right => left.stem ≠ right.stem) :=
    enumeration.visited_perm.symm.pairwise (stemmed_pairwise distinctInputs)
      fun different same => different same.symm
  exact ((enumeration.arranged_perm program member).map _).nodup_iff.mpr
    (List.pairwise_map.mpr (variantsOf_pairwise program.stem visited))

include distinctPrograms distinctInputs in
/-- All ways through listings with the same entries meet the same cases. Witness: the programs are
the same list, hence claims are the same, hence every program has the same variants, which are the
same list again.
-/
theorem Enumeration.cases_eq (left : Enumeration layout programs inputs)
    (right : Enumeration layout programs' inputs') (samePrograms : programs'.Perm programs)
    (sameInputs : inputs'.Perm inputs)
    : right.cases = left.cases := by
  have ordered : left.ordered = right.ordered :=
    left.ordered_sorted.eq_of_perm right.ordered_sorted (left.nodup_ordered distinctPrograms)
      (left.ordered_perm.trans
        ((samePrograms.filterMap _).symm.trans right.ordered_perm.symm))
  have visited : left.visited.Perm right.visited :=
    left.visited_perm.trans ((sameInputs.filterMap _).symm.trans right.visited_perm.symm)
  have arranged {program : Stemmed} (member : program ∈ left.ordered)
      : left.arranged program = right.arranged program := by
    have member' : program ∈ right.ordered := ordered ▸ member
    refine (left.arranged_sorted program member).eq_of_perm (right.arranged_sorted program member')
      (left.nodup_arranged distinctInputs member) ?_
    have claimed
        : (variantsOf (left.ordered.map (·.stem)) left.visited program.stem).Perm
            (variantsOf (right.ordered.map (·.stem)) right.visited program.stem) := by
      rw [ordered]
      exact visited.filterMap _
    exact (left.arranged_perm program member).trans
      (claimed.trans (right.arranged_perm program member').symm)
  unfold Enumeration.cases
  rw [← ordered]
  exact List.flatMap_congr fun program member => by rw [arranged member]

end Distinct

-----------------------------------------------------------------------------------------
-- The order of cases
-----------------------------------------------------------------------------------------

/-- Cases come by the bytes of their program names, and for one program by those of their
suffixes.
-/
def Precedes (left right : TestCase) : Prop :=
  Bytes.Precedes (Bytes.ofString left.base) (Bytes.ofString right.base)
  ∨ left.base = right.base
    ∧ Bytes.Precedes (Bytes.ofString left.suffix) (Bytes.ofString right.suffix)

/-- Cases of one program come by their suffixes. -/
theorem Precedes.suffix {left right : TestCase} (first : Precedes left right)
    (same : left.base = right.base)
    : Bytes.Precedes (Bytes.ofString left.suffix) (Bytes.ofString right.suffix) := by
  rcases first with less | ⟨_, less⟩
  · rw [same] at less
    exact absurd less (List.lt_irrefl _)
  · exact less

/-- A case between two cases of one program is a case of that program. -/
theorem Precedes.base_between {left middle right : TestCase} (first : Precedes left middle)
    (second : Precedes middle right) (same : left.base = right.base)
    : middle.base = left.base := by
  rcases first with less | ⟨equal, _⟩
  · rcases second with less' | ⟨equal', _⟩
    · rw [← same] at less'
      exact absurd (List.lt_trans less less') (List.lt_irrefl _)
    · rw [equal', same]
  · exact equal.symm

/-- Nothing comes before the empty suffix. -/
theorem not_precedes_empty (bytes : Bytes) : ¬Bytes.Precedes bytes (Bytes.ofString "") := by
  intro less
  cases less

section Sorted

variable {cases : List TestCase} (sorted : cases.Pairwise Precedes)

include sorted in
/-- In a sorted list the case without suffix comes before the other cases of its program. -/
theorem index_lt_of_sorted {i j : Nat} {base variant : TestCase} (hi : cases[i]? = some base)
    (hj : cases[j]? = some variant) (same : base.base = variant.base) (plain : base.suffix = "")
    (other : variant ≠ base)
    : i < j := by
  obtain ⟨boundI, rfl⟩ := List.getElem?_eq_some_iff.mp hi
  obtain ⟨boundJ, rfl⟩ := List.getElem?_eq_some_iff.mp hj
  rcases Nat.lt_trichotomy i j with less | rfl | greater
  · exact less
  · exact absurd rfl other
  · have first := List.pairwise_iff_getElem.mp sorted j i boundJ boundI greater
    have less := first.suffix same.symm
    rw [plain] at less
    exact absurd less (not_precedes_empty _)

include sorted in
/-- In a sorted list the cases of one program stand together. -/
theorem base_eq_of_sorted {i j k : Nat} {left middle right : TestCase} (hi : cases[i]? = some left)
    (hj : cases[j]? = some middle) (hk : cases[k]? = some right) (before : i < j) (after : j < k)
    (same : left.base = right.base)
    : middle.base = left.base := by
  obtain ⟨boundI, rfl⟩ := List.getElem?_eq_some_iff.mp hi
  obtain ⟨boundJ, rfl⟩ := List.getElem?_eq_some_iff.mp hj
  obtain ⟨boundK, rfl⟩ := List.getElem?_eq_some_iff.mp hk
  have ordered := List.pairwise_iff_getElem.mp sorted
  exact (ordered i j boundI boundJ before).base_between (ordered j k boundJ boundK after) same

end Sorted

/-- The cases of a program keep its name, and come by their suffixes. -/
theorem casesWith_sorted (layout : Layout) {variants : List (String × String)}
    (program : Stemmed) (sorted : SortedBy Prod.fst variants)
    (distinct : (variants.map Prod.fst).Nodup)
    : (∀ tc ∈ casesWith layout variants program, tc.base = program.stem)
      ∧ (casesWith layout variants program).Pairwise Precedes := by
  unfold casesWith
  split
  · exact ⟨fun tc member => List.mem_singleton.mp member ▸ rfl, List.pairwise_singleton _ _⟩
  · refine ⟨?_, List.pairwise_map.mpr ((sorted.strict distinct).imp ?_)⟩
    · intro tc member
      obtain ⟨variant, _, rfl⟩ := List.mem_map.mp member
      rfl
    · intro left right less
      exact Or.inr ⟨rfl, Bytes.precedes_ofString_of_lt less⟩

/-- The cases that are met come in order. Witness: programs come by name, and the cases of each by
suffix.
-/
theorem Enumeration.cases_sorted {layout : Layout} {programs inputs : List FileTree.Entry}
    (distinctPrograms : (programs.map FileTree.Entry.name).Nodup)
    (distinctInputs : (inputs.map FileTree.Entry.name).Nodup)
    (enumeration : Enumeration layout programs inputs)
    : enumeration.cases.Pairwise Precedes := by
  have own {program : Stemmed} (member : program ∈ enumeration.ordered) :=
    casesWith_sorted layout program (enumeration.arranged_sorted program member)
      (enumeration.nodup_arranged distinctInputs member)
  rw [Enumeration.cases, List.pairwise_flatMap]
  refine ⟨fun program member => (own member).2, ?_⟩
  refine (enumeration.ordered_sorted.strict
    (enumeration.nodup_ordered distinctPrograms)).imp_of_mem ?_
  intro left right hl hr less first inLeft second inRight
  refine Or.inl ?_
  rw [(own hl).1 first inLeft, (own hr).1 second inRight]
  exact Bytes.precedes_ofString_of_lt less

-----------------------------------------------------------------------------------------
-- Discovery
-----------------------------------------------------------------------------------------

/-- Discovery gives the same list in whatever order the entries of the listings come and the
programs, inputs and variants are gone through. The list is strictly sorted by program names and
suffixes, byte by byte, so that a program's case without suffix comes before its other ones, and
that the cases of one program stand together.
-/
theorem discover_sorted {tree : FileTree} {layout : Layout}
    {programs inputs : List FileTree.Entry} (listedPrograms : Listed tree layout.programs programs)
    (listedInputs : Listed tree layout.inputs inputs) (selects : String → Bool)
    : ∃ cases : List TestCase,
        discover tree layout selects = .ok cases
        ∧ (∀ programs' inputs',
            programs'.Perm programs
            → inputs'.Perm inputs
            → (casesIn layout programs' inputs').filter (fun tc => selects tc.name) = cases
              ∧ ∀ enumeration : Enumeration layout programs' inputs',
                  enumeration.cases.filter (fun tc => selects tc.name) = cases)
        ∧ cases.Pairwise Precedes
        ∧ (∀ (i j : Nat) (base variant : TestCase),
            cases[i]? = some base
            → cases[j]? = some variant
            → base.base = variant.base
            → base.suffix = ""
            → variant ≠ base
            → i < j)
        ∧ ∀ (i j k : Nat) (left middle right : TestCase),
            cases[i]? = some left
            → cases[j]? = some middle
            → cases[k]? = some right
            → i < j
            → j < k
            → left.base = right.base
            → middle.base = left.base := by
  have merged := Enumeration.cases_merging layout programs inputs
  have sorted : ((casesIn layout programs inputs).filter fun tc => selects tc.name).Pairwise
      Precedes := by
    rw [← merged]
    exact (Enumeration.cases_sorted listedPrograms.distinct listedInputs.distinct _).filter _
  refine ⟨_, discover_of_listed listedPrograms listedInputs selects, ?_, sorted, ?_, ?_⟩
  · intro programs' inputs' samePrograms sameInputs
    have met (enumeration : Enumeration layout programs' inputs')
        : enumeration.cases = casesIn layout programs inputs :=
      merged ▸ Enumeration.cases_eq listedPrograms.distinct listedInputs.distinct _ enumeration
        samePrograms sameInputs
    refine ⟨?_, fun enumeration => by rw [met enumeration]⟩
    rw [← Enumeration.cases_merging, met]
  · intro i j base variant hi hj same plain other
    exact index_lt_of_sorted sorted hi hj same plain other
  · intro i j k left middle right hi hj hk before after same
    exact base_eq_of_sorted sorted hi hj hk before after same

/-- The two programs listed the other way round make no difference. -/
theorem discover_sorted_dashedSuite
    : (Listed dashedSuite shortLayout.programs [⟨"a-b.v", false⟩, ⟨"a.v", false⟩]
        ∧ Listed dashedSuite shortLayout.inputs [⟨"a-b.txt", false⟩])
      ∧ ∃ cases,
          discover dashedSuite shortLayout (fun _ => true) = .ok cases
          ∧ (casesIn shortLayout [⟨"a.v", false⟩, ⟨"a-b.v", false⟩] [⟨"a-b.txt", false⟩]).filter
              (fun _ => true)
            = cases
          ∧ cases.Pairwise Precedes := by
  obtain ⟨cases, found, same, sorted, _⟩ :=
    discover_sorted dashedSuite_listed.1 dashedSuite_listed.2 (fun _ => true)
  exact ⟨dashedSuite_listed, cases, found, (same _ _ (.swap _ _ _) (.refl _)).1, sorted⟩

end GoldenSuite.Discovery

import GoldenSuite.Proofs.Discovery.Newcomer

/-! What happens to the cases of a suite when one more input arrives. If no program matches it
nothing happens. Otherwise the program that claims it gets one more case, at its place in the order,
and loses its case without input if it had no other; all other cases stay as they are.
-/

namespace GoldenSuite.Discovery

-----------------------------------------------------------------------------------------
-- One more case in a list
-----------------------------------------------------------------------------------------

/-- A list of cases is another one with one case put in; the other cases keep their order. -/
def Inserted (tc : TestCase) (rest whole : List TestCase) : Prop :=
  ∃ front back, rest = front ++ back ∧ whole = front ++ tc :: back

/-- Of two sorted lists, the one that has one more case is the other one with that case put in.
Witness: what stands around the case in the longer list is sorted and has the cases of the shorter
one.
-/
theorem inserted_of_sorted {tc : TestCase} {rest whole : List TestCase}
    (sortedRest : rest.Pairwise Precedes) (sortedWhole : whole.Pairwise Precedes)
    (fresh : tc ∉ rest) (members : ∀ other, other ∈ whole ↔ other = tc ∨ other ∈ rest)
    : Inserted tc rest whole := by
  obtain ⟨front, back, rfl⟩ := List.append_of_mem ((members tc).mpr (Or.inl rfl))
  refine ⟨front, back, eq_of_sorted sortedRest ?_ ?_, rfl⟩
  · exact sortedWhole.sublist (List.Sublist.append_left (List.sublist_cons_self tc back) front)
  · intro other
    have alone : tc ∉ front ++ back := by
      obtain ⟨_, later, earlier⟩ := List.pairwise_append.mp sortedWhole
      intro twice
      rcases List.mem_append.mp twice with before | after
      · have self := earlier tc before tc List.mem_cons_self
        exact self.asymm self
      · have self := (List.pairwise_cons.mp later).1 tc after
        exact self.asymm self
    have around : other ∈ front ++ tc :: back ↔ other = tc ∨ other ∈ front ++ back := by
      simp only [List.mem_append, List.mem_cons]
      tauto
    constructor
    · intro listed
      have different : other ≠ tc := by
        rintro rfl
        exact fresh listed
      exact (around.mp ((members other).mpr (Or.inr listed))).resolve_left different
    · intro listed
      have different : other ≠ tc := by
        rintro rfl
        exact alone listed
      exact ((members other).mp (around.mpr (Or.inr listed))).resolve_left different

-----------------------------------------------------------------------------------------
-- An input arrives
-----------------------------------------------------------------------------------------

/-- The names that contend for the inputs, in their order: those of the programs of a listing. -/
def contenders (layout : Layout) (programs : List FileTree.Entry) : List String :=
  ((stemmed layout.programs layout.programExt programs).mergeSort
    fun a b => a.stem ≤ b.stem).map (·.stem)

/-- A suite before and after an input has arrived: the input directory lists one more file, and the
program directory what it listed before.
-/
structure Arrives (before after : FileTree) (layout : Layout)
    (programs inputs supplied : List FileTree.Entry) (stem : String)
    : Prop where
  listedPrograms : Listed before layout.programs programs
  listedAgain : Listed after layout.programs programs
  listedInputs : Listed before layout.inputs inputs
  listedSupplied : Listed after layout.inputs supplied
  named : stem ≠ ""
  adds : supplied.Perm (⟨stem ++ textExt, false⟩ :: inputs)

section Arrived

variable {before after : FileTree} {layout : Layout}
  {programs inputs supplied : List FileTree.Entry} {stem : String}
  (arrives : Arrives before after layout programs inputs supplied stem)

include arrives in
/-- The case of the new input is described afterwards, if it has a longest match, and all that was
described before, but for the case without input of that match.
-/
theorem Arrives.described_iff {tc : TestCase}
    : Described layout programs supplied tc
      ↔ (∃ base suffix,
            LongestMatch (IsStem layout.programExt programs) stem base
            ∧ stem = base ++ suffix
            ∧ tc = caseReading layout base suffix)
        ∨ Described layout programs inputs tc
          ∧ ∀ base,
              LongestMatch (IsStem layout.programExt programs) stem base
              → tc ≠ caseAt layout base "" "" := by
  have isInput := isStem_added_iff arrives.adds arrives.named
  constructor
  · intro described
    cases described with
    | @withInput base suffix isSupplied longest =>
        rcases (isInput _).mp isSupplied with rfl | isOld
        · exact Or.inl ⟨base, suffix, longest, rfl, rfl⟩
        · refine Or.inr ⟨.withInput isOld longest, fun other _ same => ?_⟩
          exact Path.join_plain_ne_empty _ (arrives.listedInputs.plain isOld)
            (congrArg TestCase.input same)
    | @withoutInput base isProgram unclaimed =>
        refine Or.inr ⟨.withoutInput isProgram fun old isOld => ?_, fun other longest same => ?_⟩
        · exact unclaimed old ((isInput old).mpr (Or.inr isOld))
        · obtain rfl : base = other := congrArg TestCase.base same
          exact unclaimed stem ((isInput stem).mpr (Or.inl rfl)) longest
  · rintro (⟨base, suffix, longest, rfl, rfl⟩ | ⟨described, other⟩)
    · exact .withInput ((isInput _).mpr (Or.inl rfl)) longest
    · cases described with
      | withInput isOld longest => exact .withInput ((isInput _).mpr (Or.inr isOld)) longest
      | @withoutInput base isProgram unclaimed =>
          refine .withoutInput isProgram fun found isSupplied longest => ?_
          rcases (isInput found).mp isSupplied with rfl | isOld
          · exact other base longest rfl
          · exact unclaimed found isOld longest

include arrives in
/-- No case has read the new input before. -/
theorem Arrives.not_described {base suffix : String} (text : stem = base ++ suffix)
    : ¬Described layout programs inputs (caseReading layout base suffix) := by
  intro described
  have fresh : ¬IsStem textExt inputs stem :=
    not_isStem_of_added arrives.adds arrives.listedSupplied.distinct
  generalize told : caseReading layout base suffix = tc at described
  cases described with
  | withInput isOld _ =>
      have bases := congrArg TestCase.base told
      have suffixes := congrArg TestCase.suffix told
      simp only [caseReading, caseAt] at bases suffixes
      rw [← bases, ← suffixes, ← text] at isOld
      exact fresh isOld
  | withoutInput _ _ =>
      have isSupplied : IsStem textExt supplied stem :=
        (isStem_added_iff arrives.adds arrives.named stem).mpr (Or.inl rfl)
      have path := congrArg TestCase.input told
      simp only [caseReading, caseAt, ← text] at path
      exact Path.join_plain_ne_empty _ (arrives.listedSupplied.plain isSupplied) path

/-- The cases but for the case without input of one program. -/
def sparing (layout : Layout) (base : String) (cases : List TestCase) : List TestCase :=
  cases.filter fun tc => tc ≠ caseAt layout base "" ""

/-- The cases that are left without a program's case without input. If no case of the program reads
an input that case was there and has been taken out, else it was not there.
-/
theorem sparing_casesIn {base : String} (listedPrograms : Listed before layout.programs programs)
    (listedInputs : Listed before layout.inputs inputs)
    (isProgram : IsStem layout.programExt programs base)
    : (reading base (casesIn layout programs inputs) = []
        → Inserted (caseAt layout base "" "") (sparing layout base (casesIn layout programs inputs))
            (casesIn layout programs inputs))
      ∧ (reading base (casesIn layout programs inputs) ≠ []
        → sparing layout base (casesIn layout programs inputs)
          = casesIn layout programs inputs) := by
  have sorted := casesIn_sorted listedPrograms listedInputs
  have mine := own_casesIn listedPrograms listedInputs isProgram
  have bare : caseAt layout base "" "" ∈ casesIn layout programs inputs
      ↔ caseAt layout base "" "" ∈ own base (casesIn layout programs inputs) := by
    simp [own, caseAt]
  rw [mine] at bare
  constructor
  · intro none
    have present := bare.mpr (by rw [none, orBare, if_pos rfl]; exact List.mem_singleton_self _)
    refine inserted_of_sorted (sorted.filter _) sorted (by simp [sparing]) fun other => ?_
    rw [sparing, List.mem_filter, decide_eq_true_eq]
    constructor
    · intro listed
      exact (em (other = caseAt layout base "" "")).imp_right fun different => ⟨listed, different⟩
    · rintro (rfl | ⟨listed, _⟩)
      · exact present
      · exact listed
  · intro some
    rw [orBare, if_neg some] at bare
    refine List.filter_eq_self.mpr fun tc listed => decide_eq_true ?_
    rintro rfl
    have reads := (List.mem_filter.mp (bare.mp listed)).2
    simp [TestCase.hasInput, caseAt] at reads

include arrives in
/-- An input that arrives affects one program at most. If no program matches it the cases stay the
same list. Otherwise it is claimed by the longest match, and all that happens is that the case of
this program that reads the input is put in at its place in the order, and that the case without
input of this program is taken out, if the program had no case with an input.
-/
theorem discover_arrival
    : ∃ old new,
        discover before layout (fun _ => true) = .ok old
        ∧ discover after layout (fun _ => true) = .ok new
        ∧ ((∀ base, IsStem layout.programExt programs base → ¬Matches base stem) → new = old)
        ∧ ∀ base,
            IsStem layout.programExt programs base
            → Matches base stem
            → ∃ claim kept,
                claimOf? stem (contenders layout programs) = some claim
                ∧ Inserted
                    (caseAt layout claim.base claim.suffix
                      (Path.join layout.inputs (stem ++ textExt)))
                    kept new
                ∧ new.Pairwise Precedes
                ∧ (reading claim.base old = []
                  → Inserted (caseAt layout claim.base "" "") kept old)
                ∧ (reading claim.base old ≠ [] → kept = old) := by
  have found := discover_of_listed arrives.listedPrograms arrives.listedInputs (fun _ => true)
  have found' := discover_of_listed arrives.listedAgain arrives.listedSupplied (fun _ => true)
  rw [List.filter_eq_self.mpr (fun _ _ => rfl)] at found found'
  have sorted := casesIn_sorted arrives.listedPrograms arrives.listedInputs
  have sorted' := casesIn_sorted arrives.listedAgain arrives.listedSupplied
  refine ⟨_, _, found, found', ?_, ?_⟩
  · intro unmatched
    refine eq_of_sorted sorted' sorted fun tc => ?_
    rw [mem_casesIn, mem_casesIn, arrives.described_iff]
    constructor
    · rintro (⟨base, _, longest, _⟩ | ⟨described, _⟩)
      · exact absurd longest.matching (unmatched base longest.member)
      · exact described
    · intro described
      refine Or.inr ⟨described, fun base longest => ?_⟩
      exact absurd longest.matching (unmatched base longest.member)
  · intro base isProgram matching
    obtain ⟨best, longest⟩ := exists_longestMatch_of_isStem isProgram matching
    obtain ⟨suffix, text⟩ := longest.matching.exists_suffix
    have claimed : claimOf? stem (contenders layout programs) = some ⟨best, suffix⟩ :=
      claimOf?_eq_some_iff.mpr ⟨(LongestMatch.congr fun _ => mem_sortedStems).mpr longest, text⟩
    have reads : caseAt layout best suffix (Path.join layout.inputs (stem ++ textExt))
        = caseReading layout best suffix := by
      rw [caseReading, text]
    obtain ⟨lone, several⟩ :=
      sparing_casesIn arrives.listedPrograms arrives.listedInputs longest.member
    refine ⟨⟨best, suffix⟩, sparing layout best (casesIn layout programs inputs), claimed, ?_,
      sorted', lone, several⟩
    rw [reads]
    refine inserted_of_sorted (sorted.filter _) sorted' ?_ fun tc => ?_
    · intro listed
      exact arrives.not_described text (mem_casesIn.mp (List.mem_filter.mp listed).1)
    · rw [sparing, List.mem_filter, decide_eq_true_eq, mem_casesIn, mem_casesIn,
        arrives.described_iff]
      constructor
      · rintro (⟨other, more, longest', text', rfl⟩ | ⟨described, different⟩)
        · obtain rfl := longest'.unique longest
          rw [(String.append_right_inj _).mp (text'.symm.trans text)]
          exact Or.inl rfl
        · exact Or.inr ⟨described, different best longest⟩
      · rintro (rfl | ⟨described, different⟩)
        · exact Or.inl ⟨best, suffix, longest, text, rfl⟩
        · refine Or.inr ⟨described, fun other longest' => ?_⟩
          obtain rfl := longest'.unique longest
          exact different

end Arrived

/-- The suite before its input has arrived. -/
def unfedSuite : FileTree where
  nodes :=
    [(["v"], .directory), (["v", "a-b.v"], .file [] 0o644), (["v", "a.v"], .file [] 0o644),
      (["i"], .directory)]
  home := []

/-- The input goes to the longer program, whose case without input gives way to the case that reads
it.
-/
theorem discover_arrival_dashedSuite
    : Arrives unfedSuite dashedSuite shortLayout [⟨"a-b.v", false⟩, ⟨"a.v", false⟩] []
        [⟨"a-b.txt", false⟩] "a-b"
      ∧ ∃ old new kept,
          discover unfedSuite shortLayout (fun _ => true) = .ok old
          ∧ discover dashedSuite shortLayout (fun _ => true) = .ok new
          ∧ Inserted (caseAt shortLayout "a-b" "" "") kept old
          ∧ Inserted (caseAt shortLayout "a-b" "" (Path.join "i" "a-b.txt")) kept new := by
  have arrives : Arrives unfedSuite dashedSuite shortLayout
      [⟨"a-b.v", false⟩, ⟨"a.v", false⟩] [] [⟨"a-b.txt", false⟩] "a-b" := {
    listedPrograms := ⟨Or.inl (by cbv), by decide, by decide, by decide⟩
    listedAgain := dashedSuite_listed.1
    listedInputs := ⟨Or.inl (by cbv), by decide, by decide, by decide⟩
    listedSupplied := dashedSuite_listed.2
    named := by decide
    adds := .refl _
  }
  refine ⟨arrives, ?_⟩
  obtain ⟨old, new, found, found', _, fed⟩ := discover_arrival arrives
  obtain ⟨claim, kept, claimed, put, _, taken, _⟩ := fed "a" (by decide) (by decide)
  have winner : claimOf? "a-b" (contenders shortLayout [⟨"a-b.v", false⟩, ⟨"a.v", false⟩])
      = some ⟨"a-b", ""⟩ := by
    cbv
  obtain rfl : ⟨"a-b", ""⟩ = claim := Option.some.inj (winner.symm.trans claimed)
  have former : discover unfedSuite shortLayout (fun _ => true)
      = .ok [caseAt shortLayout "a" "" "", caseAt shortLayout "a-b" "" ""] := by
    cbv
  have unread : reading "a-b" old = [] := by
    rw [← Except.ok.inj (former.symm.trans found)]
    decide
  exact ⟨old, new, kept, found, found', taken unread, put⟩

end GoldenSuite.Discovery

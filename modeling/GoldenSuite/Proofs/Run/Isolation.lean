import GoldenSuite.Proofs.Run.Lockstep

/-! Cases are isolated from one another: leaving some of them out of a run leaves out their results
and nothing else, unless the references are looked up below the output of another case.
-/

namespace GoldenSuite.Harness

open FileTree

variable {σ : Type} {h : Harness σ} {s : Session σ}

-----------------------------------------------------------------------------------------
-- Whole runs
-----------------------------------------------------------------------------------------

/-- The harness with another filter. -/
def selecting (h : Harness σ) (selects : String → Bool) : Harness σ :=
  { h with selects }

/-- Steps do not look at the filter. -/
theorem Steps.selecting {final : Session σ} {cases : List TestCase} {results : List CaseResult}
    (steps : h.Steps s cases results final) (selects : String → Bool)
    : (h.selecting selects).Steps s cases results final := by
  induction steps with
  | done s => exact .done s
  | next first _ ih => exact .next first ih

/-- A run that steps through all the cases it has found ends with their results. -/
theorem run_of_steps {tree : FileTree} {cases : List TestCase} {results : List CaseResult}
    {final : Session σ} (reset : Scratch.reset s.tree h.config.layout.scratch = (tree, none))
    (found : Discovery.discover tree h.config.layout h.selects = .ok cases)
    (steps : h.Steps (h.opening s tree cases) cases results final)
    : ∃ tally,
        (h.run s).tally = some tally
        ∧ tally.results = results
        ∧ (h.run s).fault = none
        ∧ (h.run s).session.tree = final.tree := by
  have ran := steps.runCases_append .empty []
  rw [List.append_nil] at ran
  rw [run_eq_ending reset found, ran]
  refine ⟨Tally.empty.recordAll results, rfl, ?_, rfl, rfl⟩
  exact Tally.results_recordAll .empty results

/-- The references are apart from the outputs of the cases that a filter leaves out: none of these
that comes before a selected one hides them.
-/
def ReferencesApart (h : Harness σ) (selects : String → Bool) (s : Session σ) : Prop :=
  ∀ tree cases,
    Scratch.reset s.tree h.config.layout.scratch = (tree, none)
    → Discovery.discover tree h.config.layout (fun _ => true) = .ok cases
    → cases.Pairwise fun earlier later =>
        selects earlier.name = false
        → selects later.name = true
        → ¬Hides h.config.layout tree earlier

/-- Which program claims an input is settled before the filter selects among the cases. -/
theorem discover_selecting (tree : FileTree) (layout : Layout) (selects : String → Bool)
    : Discovery.discover tree layout selects
      = (Discovery.discover tree layout fun _ => true).map
          (List.filter fun tc => selects tc.name) := by
  unfold Discovery.discover
  cases Discovery.filesWithExt tree layout.programs layout.programExt with
  | error fault => rfl
  | ok programs =>
      cases Discovery.filesWithExt tree layout.inputs textExt with
      | error fault => rfl
      | ok inputs => simp [bind, Except.bind, pure, Except.pure, Except.map]

/-- After the reset both runs are in lockstep, in the tree that it has left. -/
theorem lockstep_of_reset {selects : String → Bool} {tree : FileTree} {cases : List TestCase}
    (running : s.cancelled = false) (wf : s.tree.WellFormed) (unlinked : s.tree.Unlinked)
    (reset : Scratch.reset s.tree h.config.layout.scratch = (tree, none))
    (found : Discovery.discover tree h.config.layout (fun _ => true) = .ok cases)
    (foundPart
      : Discovery.discover tree h.config.layout selects
        = .ok (cases.filter fun tc => selects tc.name))
    (apart
      : cases.Pairwise fun earlier later =>
          selects earlier.name = false
          → selects later.name = true
          → ¬Hides h.config.layout tree earlier)
    : h.Lockstep selects tree [] cases
          (h.opening s tree (cases.filter fun tc => selects tc.name)) (h.opening s tree cases)
      ∧ h.Provided selects tree [] cases := by
  obtain ⟨fullReady, unlinkedAfter⟩ := ready_of_reset_unlinked wf unlinked reset found
  obtain ⟨partReady, _⟩ := ready_of_reset_unlinked wf unlinked reset foundPart
  refine ⟨?_, ?_⟩
  · exact {
      partRuns := running
      fullRuns := running
      partReady := partReady
      fullReady := fullReady
      unlinked := unlinkedAfter
      grown := .refl _ tree
      surplus := .refl _ tree
      leftOut := by simp
    }
  · exact {
      supplied := Discovery.supplied_of_discover fullReady.wellFormed unlinkedAfter found
      apart := apart
    }

/-- Leaving cases out of a run leaves out their results and changes nothing else. In a tree without
links, with an executor that leaves the tree alone and whose answers depend on the program and its
input alone, and if nothing asks the runs to stop: a run with a filter ends with the same fault as
the run without it, finds and records what that run does about the selected cases, in the same
order, and leaves the same outputs of these cases. The directory of the references does not lie at
or below the output of a case that is left out before a selected one.
-/
theorem run_filter_isolated (selects : String → Bool) (determined : h.executor.Determined)
    (keeps : h.executor.KeepsTree) (calm : h.Undisturbed) (running : s.cancelled = false)
    (wf : s.tree.WellFormed) (unlinked : s.tree.Unlinked) (apart : h.ReferencesApart selects s)
    : (∀ tree,
        Discovery.discover tree h.config.layout selects
        = (Discovery.discover tree h.config.layout fun _ => true).map
            (List.filter fun tc => selects tc.name))
      ∧ ((h.selecting selects).run s).fault = ((h.selecting fun _ => true).run s).fault
      ∧ ((h.selecting selects).run s).tally.map Tally.results
        = ((h.selecting fun _ => true).run s).tally.map
            (fun tally => tally.results.filter fun result => selects result.tc.name)
      ∧ ∀ tally,
          ((h.selecting selects).run s).tally = some tally
          → ∀ result ∈ tally.results,
              ((h.selecting selects).run s).session.tree.readFile result.tc.actual
              = ((h.selecting fun _ => true).run s).session.tree.readFile result.tc.actual := by
  refine ⟨fun tree => discover_selecting tree h.config.layout selects, ?_⟩
  cases reset : Scratch.reset s.tree h.config.layout.scratch with
  | mk tree failure =>
      cases failure with
      | some fault =>
          rw [run_of_unreset (h := h.selecting selects) reset,
            run_of_unreset (h := h.selecting fun _ => true) reset]
          exact ⟨rfl, rfl, fun tally none => by cases none⟩
      | none =>
          cases found : Discovery.discover tree h.config.layout fun _ => true with
          | error fault =>
              have foundPart : Discovery.discover tree h.config.layout selects = .error fault := by
                rw [discover_selecting, found]
                rfl
              rw [run_of_undiscovered (h := h.selecting selects) reset foundPart,
                run_of_undiscovered (h := h.selecting fun _ => true) reset found]
              exact ⟨rfl, rfl, fun tally none => by cases none⟩
          | ok cases =>
              have foundPart : Discovery.discover tree h.config.layout selects
                  = .ok (cases.filter fun tc => selects tc.name) := by
                rw [discover_selecting, found]
                rfl
              obtain ⟨lockstep, provided⟩ :=
                lockstep_of_reset running wf unlinked reset found foundPart (apart _ _ reset found)
              obtain ⟨part, full, results, skipped, fullSteps, partSteps, ended⟩ :=
                lockstep.steps provided determined keeps calm
              obtain ⟨partTally, partTallied, partResults, partFault, partTree⟩ :=
                run_of_steps (h := h.selecting selects) reset foundPart
                  (partSteps.selecting selects)
              obtain ⟨fullTally, fullTallied, fullResults, fullFault, fullTree⟩ :=
                run_of_steps (h := h.selecting fun _ => true) reset found
                  (fullSteps.selecting fun _ => true)
              refine ⟨partFault.trans fullFault.symm, ?_, ?_⟩
              · rw [partTallied, fullTallied, Option.map_some, Option.map_some, partResults,
                  fullResults]
              · intro tally tallied result member
                obtain rfl := Option.some.inj (partTallied.symm.trans tallied)
                rw [partResults] at member
                obtain ⟨recorded, selected⟩ := List.mem_filter.mp member
                have listed : result.tc ∈ cases := by
                  rw [← fullSteps.results_tc]
                  exact List.mem_map_of_mem recorded
                obtain ⟨cleaned, leads⟩ := lockstep.actual listed
                rw [partTree, fullTree]
                exact ended.comparable.readFile cleaned (ended.agree_actual leads selected)

-----------------------------------------------------------------------------------------
-- Runs over two programs
-----------------------------------------------------------------------------------------

/-- A filter that leaves out the first of two programs. -/
def onlySecond (name : String) : Bool :=
  name == "b"

/-- Nothing stops a run whose programs print their own text. -/
theorem quoting_undisturbed (layout : Layout)
    : (quotingHarness layout fun _ => false).Undisturbed :=
  ⟨fun _ => rfl, fun _ _ _ _ => rfl⟩

/-- There are no links in the suite. -/
theorem pairSuite_unlinked : pairSuite.Unlinked :=
  unlinked_of_nodes (by simp [pairSuite, NoLink])

/-- A reset of the suite makes its scratch directory. -/
theorem reset_pairSuite : Scratch.reset pairSuite "s" = (pairSuiteReset, none) := by
  cbv

/-- Witness: leaving out the first of two programs leaves out its result, though the outputs are
written where the references are looked up.
-/
theorem run_filter_isolated_pairSuite
    : quoting.Determined
      ∧ quoting.KeepsTree
      ∧ (quotingHarness sharedLayout fun _ => false).Undisturbed
      ∧ pairSuite.WellFormed
      ∧ pairSuite.Unlinked
      ∧ (quotingHarness sharedLayout fun _ => false).ReferencesApart onlySecond
          (.start pairSuite () false)
      ∧ (((quotingHarness sharedLayout fun _ => false).selecting onlySecond).run
            (.start pairSuite () false)).tally.map Tally.results
        = (((quotingHarness sharedLayout fun _ => false).selecting fun _ => true).run
            (.start pairSuite () false)).tally.map
            (fun tally => tally.results.filter fun result => onlySecond result.tc.name) := by
  have calm := quoting_undisturbed sharedLayout
  have wf : pairSuite.WellFormed := by decide
  have apart
      : (quotingHarness sharedLayout fun _ => false).ReferencesApart onlySecond
          (.start pairSuite () false) := by
    intro tree cases reset found
    obtain rfl : pairSuiteReset = tree := congrArg Prod.fst (reset_pairSuite.symm.trans reset)
    obtain rfl
        : [Discovery.caseAt sharedLayout "a" "" "", Discovery.caseAt sharedLayout "b" "" ""]
          = cases := by
      refine Except.ok.inj (Eq.trans ?_ found)
      cbv
    have clear : ¬Hides sharedLayout pairSuiteReset (Discovery.caseAt sharedLayout "a" "" "") := by
      rintro ⟨above, _⟩
      exact absurd above (by decide)
    exact List.pairwise_pair.mpr fun _ _ => clear
  obtain ⟨_, _, results, _⟩ :=
    run_filter_isolated (h := quotingHarness sharedLayout fun _ => false)
      (s := .start pairSuite () false) onlySecond quoting_determined quoting_keepsTree calm rfl wf
      pairSuite_unlinked apart
  exact ⟨quoting_determined, quoting_keepsTree, calm, wf, pairSuite_unlinked, apart, results⟩

/-- A case without input prints its program and is judged by that. -/
theorem step_quoting (layout : Layout) (tc : TestCase) {s : Session Unit} {data : Bytes}
    {written : FileTree} (running : s.cancelled = false) (noInput : tc.input = "")
    (source : s.tree.readFile tc.program = .ok data)
    (wrote : s.tree.writeFile tc.actual data = .ok written)
    : ∃ after result,
        (quotingHarness layout fun _ => false).step s tc = (after, some result)
        ∧ after.tree = written
        ∧ after.cancelled = false
        ∧ result.kind
          = (Finding.of false written tc (Scripted.plainExecution data 0) none).kind := by
  obtain ⟨after, result, stepped, still⟩ := (quoting_undisturbed layout).step running tc
  obtain ⟨execution, fault, executed, recorded⟩ := executed_of_step_some stepped
  have opened : openInput s.tree tc = .ok none := by
    simp [openInput, TestCase.hasInput, noInput]
  obtain ⟨told, outcome⟩ := executed.of_opened quoting_keepsTree opened
  have printed : execution = Scripted.plainExecution data 0 := by
    rw [told]
    simp [exchange, quotingHarness, quoting, source, Except.toOption]
  have stdout : execution.stdout = data := by
    rw [printed]
    rfl
  rw [stdout, wrote] at outcome
  rcases outcome with ⟨same, rfl⟩ | ⟨_, refused, _⟩
  · obtain rfl := Except.ok.inj same
    refine ⟨after, result, stepped, rfl, still, ?_⟩
    rw [recorded, printed]
    rfl
  · cases refused

/-- A layout that looks for the references below the output of the first program. -/
def buriedLayout : Layout :=
  { Discovery.shortLayout with references := "s/a.txt" }

/-- A harness with this layout. -/
def buriedHarness : Harness Unit :=
  quotingHarness buriedLayout fun _ => false

/-- The cases of the suite in this layout. -/
def buriedFirst : TestCase :=
  ⟨"a", "v/a.v", "", "", "s/a.txt", "s/a.txt/a.txt"⟩

def buriedSecond : TestCase :=
  ⟨"b", "v/b.v", "", "", "s/b.txt", "s/a.txt/b.txt"⟩

/-- A tree with an output in the scratch directory. -/
def withOutput (tree : FileTree) (name : String) (data : Bytes) : FileTree :=
  tree.put ["s", name] (.file data plainMode)

/-- The programs of the suite can be read and their outputs can be written, those of the second
one whether or not the first one has been run.
-/
theorem pairSuite_written
    : pairSuiteReset.readFile "v/a.v" = .ok [65]
      ∧ pairSuiteReset.writeFile "s/a.txt" [65] = .ok (withOutput pairSuiteReset "a.txt" [65])
      ∧ pairSuiteReset.readFile "v/b.v" = .ok [66]
      ∧ pairSuiteReset.writeFile "s/b.txt" [66] = .ok (withOutput pairSuiteReset "b.txt" [66])
      ∧ (withOutput pairSuiteReset "a.txt" [65]).readFile "v/b.v" = .ok [66]
      ∧ (withOutput pairSuiteReset "a.txt" [65]).writeFile "s/b.txt" [66]
        = .ok (withOutput (withOutput pairSuiteReset "a.txt" [65]) "b.txt" [66]) := by
  have firstProgram (tree : FileTree)
      : tree.locate true "v/a.v" = tree.walk true linkLimit tree.home ["v", "a.v"] :=
    locate_relative (by decide) (by decide) (by decide) (by decide) (by decide)
  have secondProgram (tree : FileTree)
      : tree.locate true "v/b.v" = tree.walk true linkLimit tree.home ["v", "b.v"] :=
    locate_relative (by decide) (by decide) (by decide) (by decide) (by decide)
  have firstOutput (tree : FileTree)
      : tree.locate true "s/a.txt" = tree.walk true linkLimit tree.home ["s", "a.txt"] :=
    locate_relative (by decide) (by decide) (by decide) (by decide) (by decide)
  have secondOutput (tree : FileTree)
      : tree.locate true "s/b.txt" = tree.walk true linkLimit tree.home ["s", "b.txt"] :=
    locate_relative (by decide) (by decide) (by decide) (by decide) (by decide)
  simp only [readFile, openPath, look, writeFile, firstProgram, secondProgram, firstOutput,
    secondOutput]
  refine ⟨?_, ?_, ?_, ?_, ?_, ?_⟩ <;> cbv

/-- Where the second program's reference is looked for there is nothing, and after a run of the
first program its output is in the way.
-/
theorem buriedSecond_reference
    : (withOutput pairSuiteReset "b.txt" [66]).readFile "s/a.txt/b.txt"
        = .error (.refused "open" "s/a.txt/b.txt" .noEntry)
      ∧ (withOutput (withOutput pairSuiteReset "a.txt" [65]) "b.txt" [66]).readFile "s/a.txt/b.txt"
        = .error (.refused "open" "s/a.txt/b.txt" .notDirectory) := by
  have reference (tree : FileTree)
      : tree.locate true "s/a.txt/b.txt"
        = tree.walk true linkLimit tree.home ["s", "a.txt", "b.txt"] :=
    locate_relative (by decide) (by decide) (by decide) (by decide) (by decide)
  simp only [readFile, openPath, look, reference]
  constructor <;> cbv

/-- The steps of both runs: the second program misses its reference when it is run alone, and cannot
read it after the first one.
-/
theorem steps_buried
    : ∃ alone after part full first,
        buriedHarness.Steps
            (buriedHarness.opening (.start pairSuite () false) pairSuiteReset [buriedSecond])
            [buriedSecond] [alone] part
        ∧ buriedHarness.Steps
            (buriedHarness.opening (.start pairSuite () false) pairSuiteReset
              [buriedFirst, buriedSecond])
            [buriedFirst, buriedSecond] [first, after] full
        ∧ alone.kind = .missingReference
        ∧ after.kind = .filesystemFailure := by
  obtain ⟨firstSource, firstWrote, source, wrote, sourceAfter, wroteAfter⟩ := pairSuite_written
  obtain ⟨missing, blocked⟩ := buriedSecond_reference
  obtain ⟨part, alone, stepAlone, _, _, kindAlone⟩ :=
    step_quoting buriedLayout buriedSecond
      (s := buriedHarness.opening (.start pairSuite () false) pairSuiteReset [buriedSecond])
      rfl rfl source wrote
  obtain ⟨half, first, stepFirst, tree, running, _⟩ :=
    step_quoting buriedLayout buriedFirst
      (s := buriedHarness.opening (.start pairSuite () false) pairSuiteReset
        [buriedFirst, buriedSecond])
      rfl rfl firstSource firstWrote
  rw [← tree] at sourceAfter wroteAfter
  obtain ⟨full, after, stepAfter, _, _, kindAfter⟩ :=
    step_quoting buriedLayout buriedSecond running rfl sourceAfter wroteAfter
  refine ⟨alone, after, part, full, first, .next stepAlone (.done part),
    .next stepFirst (.next stepAfter (.done full)), ?_, ?_⟩
  · rw [kindAlone]
    simp [Finding.of, Scripted.plainExecution, Verdict.ofFiles, buriedSecond, missing, Fault.has,
      Finding.kind]
  · rw [kindAfter, tree]
    simp [Finding.of, Scripted.plainExecution, Verdict.ofFiles, buriedSecond, blocked, Fault.has,
      Finding.kind, Fault.filesystem]

/-- Where the directory of the references lies below the output of a case, leaving that case out
changes the result of another one, in a configuration that is accepted, in a tree without links and
with an executor that leaves the tree alone and whose answers depend on the program alone.
-/
theorem run_filter_buried
    : buriedHarness.config.invalid? = none
      ∧ quoting.Determined
      ∧ quoting.KeepsTree
      ∧ buriedHarness.Undisturbed
      ∧ pairSuite.WellFormed
      ∧ pairSuite.Unlinked
      ∧ ((buriedHarness.selecting onlySecond).run (.start pairSuite () false)).tally.map
          Tally.results
        ≠ ((buriedHarness.selecting fun _ => true).run (.start pairSuite () false)).tally.map
            (fun tally => tally.results.filter fun result => onlySecond result.tc.name) := by
  refine ⟨by decide, quoting_determined, quoting_keepsTree, quoting_undisturbed buriedLayout,
    by decide, pairSuite_unlinked, ?_⟩
  have foundPart
      : Discovery.discover pairSuiteReset buriedLayout onlySecond = .ok [buriedSecond] := by
    cbv
  have found
      : Discovery.discover pairSuiteReset buriedLayout (fun _ => true)
        = .ok [buriedFirst, buriedSecond] := by
    cbv
  obtain ⟨alone, after, part, full, first, steps, fullSteps, missing, blocked⟩ := steps_buried
  obtain ⟨_, tallied, results, _⟩ :=
    run_of_steps (h := buriedHarness.selecting onlySecond) reset_pairSuite foundPart
      (steps.selecting onlySecond)
  obtain ⟨_, fullTallied, fullResults, _⟩ :=
    run_of_steps (h := buriedHarness.selecting fun _ => true) reset_pairSuite found
      (fullSteps.selecting fun _ => true)
  have cases : [first.tc, after.tc] = [buriedFirst, buriedSecond] := fullSteps.results_tc
  simp only [List.cons.injEq, and_true] at cases
  have kept : [first, after].filter (fun result => onlySecond result.tc.name) = [after] := by
    simp [cases.1, cases.2, buriedFirst, buriedSecond, TestCase.name, onlySecond]
  rw [tallied, fullTallied, Option.map_some, Option.map_some, results, fullResults, kept]
  intro same
  obtain rfl : alone = after := by simpa using same
  rw [missing] at blocked
  cases blocked

end GoldenSuite.Harness

import GoldenSuite.Proofs.Run.Outcome
import GoldenSuite.Proofs.Run.Prefix
import GoldenSuite.Proofs.Scratch.Changes

/-! What a recorded pass says about the reference of its case. It was compared in the tree of that
moment, after the scratch directory has been reset and the outputs so far have been written; it is
the reference of the tree before the run if these leave it alone.
-/

namespace GoldenSuite

/-- Two outputs pass exactly if they are the same bytes. -/
theorem Verdict.ofBytes_eq_pass_iff {actual reference : Bytes}
    : Verdict.ofBytes actual reference = .pass ↔ actual = reference := by
  unfold Verdict.ofBytes
  split <;> simp [*]

/-- Two files pass only if both can be read and have the same bytes. -/
theorem Verdict.of_ofFiles_pass {tree : FileTree} {actual reference : String}
    (compared : Verdict.ofFiles tree actual reference = .ok .pass)
    : ∃ data, tree.readFile reference = .ok data ∧ tree.readFile actual = .ok data := by
  unfold Verdict.ofFiles at compared
  split at compared
  · split at compared <;> cases compared
  · rename_i expected wanted
    split at compared
    · cases compared
    · rename_i printed got
      obtain rfl := Verdict.ofBytes_eq_pass_iff.mp (Except.ok.inj compared)
      exact ⟨printed, wanted, got⟩

/-- A case passes only if no fault has come up and its output is its reference. -/
theorem Finding.of_eq_passed {strictExit : Bool} {tree : FileTree} {tc : TestCase}
    {execution : Execution} {fault : Option Fault}
    (passed : Finding.of strictExit tree tc execution fault = .passed)
    : fault = none
      ∧ ∃ data, tree.readFile tc.reference = .ok data ∧ tree.readFile tc.actual = .ok data := by
  unfold Finding.of at passed
  split at passed
  · split at passed
    · cases passed
    · split at passed <;> cases passed
  · split at passed
    · cases passed
    · split at passed
      · split at passed <;> cases passed
      · cases passed
      · rename_i compared
        exact ⟨rfl, Verdict.of_ofFiles_pass compared⟩

/-- Only a finding of a pass gives the verdict. -/
theorem Finding.eq_passed_of_verdict {finding : Finding} (pass : finding.verdict = .pass)
    : finding = .passed := by
  cases finding with
  | passed => rfl
  | _ => cases pass

namespace Harness

open FileTree

variable {σ : Type}

/-- The reference of a case stands apart from the outputs of a run: its path leads where it led
before the scratch directory was reset, no output of the given cases is written there, and the
output of the case does not go to a device that forgets it.
-/
structure ReferenceApart (before after : FileTree) (written : List TestCase) (tc : TestCase)
    : Prop where
  led
    : ∀ place,
        after.locate true tc.reference = .ok place
        → before.locate true tc.reference = .ok place
  unwritten
    : ∀ place,
        after.locate true tc.reference = .ok place
        → ∀ other ∈ written, after.locate true other.actual ≠ .ok place
  kept : after.NoDevice tc.actual

/-- A step that records a pass has called its executor once, and has read from the path of the
reference what was printed, if the output was not lost.
-/
theorem readFile_of_step_pass {h : Harness σ} {s final : Session σ} {tc : TestCase}
    {result : CaseResult} (keeps : h.executor.KeepsTree)
    (recorded : h.step s tc = (final, some result)) (pass : result.verdict = .pass)
    (kept : s.tree.NoDevice tc.actual)
    : ∃ call,
        h.callsFor s tc = [call]
        ∧ final.tree.readFile tc.reference = .ok call.reply.execution.stdout := by
  obtain ⟨execution, fault, executed, rfl⟩ := executed_of_step_some recorded
  obtain ⟨none, data, reference, actual⟩ :=
    Finding.of_eq_passed (Finding.eq_passed_of_verdict pass)
  generalize final.tree = tree at executed reference actual
  cases executed with
  | unopened refused => cases none
  | @written call tree called wrote =>
      rw [tree_of_callsFor keeps called] at wrote
      refine ⟨call, called, ?_⟩
      rw [reference, eq_of_readFile_writeFile wrote kept actual]
  | unwritten called refused => cases none

/-- A pass among the results of steps has read the reference after the outputs of the cases up to
its own have been written, and what it has read is what the one call for its case has printed.
-/
theorem Steps.readFile_of_pass {h : Harness σ} {s final : Session σ} {ran : List TestCase}
    {results : List CaseResult} {index : Nat} {result : CaseResult}
    (keeps : h.executor.KeepsTree) (steps : h.Steps s ran results final)
    (selected : results[index]? = some result) (pass : result.verdict = .pass)
    (kept : s.tree.NoDevice result.tc.actual)
    : ∃ call tree,
        ran[index]? = some result.tc
        ∧ h.callsAt s ran index = [call]
        ∧ Changed
            (Writes fun place =>
              ∃ tc ∈ ran.take (index + 1), s.tree.locate true tc.actual = .ok place)
            s.tree tree
        ∧ tree.readFile result.tc.reference = .ok call.reply.execution.stdout := by
  obtain ⟨before, after, earlier, numbered, leading, taken⟩ := steps.split selected
  have keptBefore : before.tree.NoDevice result.tc.actual :=
    (leading.tree_changed keeps).noDevice kept
  obtain ⟨call, called, read⟩ := readFile_of_step_pass keeps taken pass keptBefore
  refine ⟨call, after.tree, numbered, ?_, ?_, read⟩
  · rw [callsAt, numbered, leading.sessionAfter_eq]
    exact called
  · have upTo : ran.take (index + 1) = ran.take index ++ [result.tc] := by
      rw [List.take_add_one, numbered]
      rfl
    rw [upTo]
    exact (leading.snoc taken).tree_changed keeps

/-- What is read from an unwritten place in the course of a run was there before it. -/
theorem readFile_of_changed {before after : FileTree} {scratch path : String} {data : Bytes}
    {places : Place → Prop}
    (changed : Changed (Writes places) (Scratch.reset before scratch).1 after)
    (read : after.readFile path = .ok data)
    (led : ∀ place,
      (Scratch.reset before scratch).1.locate true path = .ok place
      → before.locate true path = .ok place)
    (unwritten : ∀ place,
      (Scratch.reset before scratch).1.locate true path = .ok place → ¬places place)
    : before.readFile path = .ok data := by
  obtain ⟨place, located, contents⟩ := readFile_eq_ok_iff.mp read
  have cleared := changed.locate_iff.mp located
  have same : after.find? place = (Scratch.reset before scratch).1.find? place := by
    rcases changed.node place with same | ⟨written, _⟩
    · exact same
    · exact absurd written (unwritten place cleared)
  obtain ⟨node, found, holds⟩ := Option.bind_eq_some_iff.mp contents
  have noDirectory : node ≠ .directory := by
    rintro rfl
    cases holds
  rw [same] at found
  refine readFile_eq_ok_iff.mpr ⟨place, led place cleared, ?_⟩
  rw [Scratch.find?_of_find?_reset found noDirectory]
  exact holds

/-- A run with a tally has reset its scratch directory and found its cases. -/
theorem exists_of_run_tally {h : Harness σ} {s : Session σ} {tally : Tally}
    (tallied : (h.run s).tally = some tally)
    : ∃ tree cases,
        Scratch.reset s.tree h.config.layout.scratch = (tree, none)
        ∧ Discovery.discover tree h.config.layout h.selects = .ok cases := by
  unfold run at tallied
  dsimp only at tallied
  split at tallied
  · cases tallied
  · rename_i tree reset
    split at tallied
    · cases tallied
    · rename_i cases found
      exact ⟨tree, cases, reset, found⟩

/-- Every pass that a run records is a match with the reference as it was before the run: the file
was there, and its bytes are those that the executor's one call for the case has printed. The
executor leaves the tree alone, and the reference stands apart from the outputs of the cases up to
this one.
-/
theorem run_pass_matches_reference {h : Harness σ} {s : Session σ} {tally : Tally}
    (keeps : h.executor.KeepsTree) (tallied : (h.run s).tally = some tally)
    : ∃ tree cases,
        Scratch.reset s.tree h.config.layout.scratch = (tree, none)
        ∧ Discovery.discover tree h.config.layout h.selects = .ok cases
        ∧ ∀ index result,
            tally.results[index]? = some result
            → result.verdict = .pass
            → ReferenceApart s.tree tree (cases.take (index + 1)) result.tc
            → ∃ call,
                h.callsAt (h.opening s tree cases) cases index = [call]
                ∧ call ∈ h.calls s
                ∧ IsCallOf call result.tc
                ∧ s.tree.readFile result.tc.reference = .ok call.reply.execution.stdout := by
  obtain ⟨tree, cases, reset, found⟩ := exists_of_run_tally tallied
  refine ⟨tree, cases, reset, found, fun index result selected pass apart => ?_⟩
  obtain ⟨ran, rest, results, reached, rfl, steps, finish⟩ :=
    h.runCases_steps (h.opening s tree cases) .empty cases
  have recorded : tally.results = results := by
    have final := finish.ending_facts.1
    rw [← run_eq_ending reset found, tallied] at final
    rw [Option.some.inj final, Tally.results_recordAll]
    rfl
  rw [recorded] at selected
  obtain ⟨call, left, numbered, called, changed, read⟩ :=
    steps.readFile_of_pass keeps selected pass apart.kept
  have within : index < ran.length := (List.getElem?_eq_some_iff.mp numbered).1
  have own : h.callsAt (h.opening s tree (ran ++ rest)) (ran ++ rest) index = [call] := by
    rw [h.callsAt_append _ within, called]
  have listed : call ∈ h.callsAt (h.opening s tree (ran ++ rest)) (ran ++ rest) index := by
    simp [own]
  refine ⟨call, own, ?_, ?_, ?_⟩
  · rw [calls_of_steps reset found steps finish]
    exact List.mem_append_left _
      (List.mem_flatMap.mpr ⟨index, List.mem_range.mpr within, listed⟩)
  · obtain ⟨tc, same, isCall⟩ := isCallOf_of_mem_callsAt listed
    rw [List.getElem?_append_left within, numbered] at same
    obtain rfl := Option.some.inj same
    exact isCall
  · have cleared : (Scratch.reset s.tree h.config.layout.scratch).1 = tree := by rw [reset]
    have upTo : (ran ++ rest).take (index + 1) = ran.take (index + 1) :=
      List.take_append_of_le_length within
    rw [upTo] at apart
    rw [← cleared] at apart changed
    refine readFile_of_changed changed read apart.led fun place located => ?_
    rintro ⟨other, member, written⟩
    exact apart.unwritten place located other member written

-----------------------------------------------------------------------------------------
-- One program with its reference
-----------------------------------------------------------------------------------------

/-- The executor with prepared answers leaves the tree alone. -/
theorem scripted_keepsTree : Scripted.executor.KeepsTree := by
  intro invocation tree cancelled host
  unfold Scripted.executor
  dsimp only
  split
  · rfl
  · split <;> rfl

/-- A harness whose executor has no prepared answers, in a session that nothing asks to stop. -/
structure Uneventful (h : Harness Scripted.State) (s : Session Scripted.State) : Prop where
  scripted : h.executor = Scripted.executor
  unprepared : s.host.answers = []
  running : s.cancelled = false
  quiet : ∀ look, h.interrupts look = false

/-- Nothing of this changes when a run opens. -/
theorem Uneventful.opening {h : Harness Scripted.State} {s : Session Scripted.State}
    (plain : h.Uneventful s) (tree : FileTree) (cases : List TestCase)
    : h.Uneventful (h.opening s tree cases) :=
  ⟨plain.scripted, plain.unprepared, plain.running, plain.quiet⟩

/-- Without a prepared answer, a program that has nothing to read prints its own text. -/
theorem scripted_unprepared {program : String} {tree : FileTree} {host : Scripted.State}
    {data : Bytes} (unprepared : host.answers = []) (source : tree.readFile program = .ok data)
    (cancelled : Bool)
    : Scripted.executor ⟨program, none⟩ tree cancelled host
      = { execution := Scripted.plainExecution data 0
          fault := none
          tree := tree
          host := { host with calls := host.calls ++ [⟨program, false, []⟩] }
          stderr := []
          cancels := false } := by
  simp [Scripted.executor, Scripted.nextAnswer?, unprepared, source]

/-- A case without input is recorded if its program can be read and what it prints can be written.
The result is told by the files that are compared then.
-/
theorem Uneventful.step {h : Harness Scripted.State} {s : Session Scripted.State}
    {tc : TestCase} {written : FileTree} {data : Bytes} (plain : h.Uneventful s)
    (noInput : tc.input = "") (source : s.tree.readFile tc.program = .ok data)
    (wrote : s.tree.writeFile tc.actual data = .ok written)
    : (h.step s tc).2
      = some ((Finding.of h.config.strictExit written tc (Scripted.plainExecution data 0)
          none).result tc (Scripted.plainExecution data 0)) := by
  have answer := scripted_unprepared plain.unprepared source
  have printed
      : s.tree.writeFile tc.actual (Scripted.plainExecution data 0).stdout = .ok written :=
    wrote
  simp [Harness.step, Session.poll, Session.log, Session.print, plain.running, plain.quiet,
    reported, runCase, execute, openInput, TestCase.hasInput, noInput, call, plain.scripted, answer,
    keepOutput, printed]

/-- A run over one program without input comes to its end and records that result. -/
theorem Uneventful.run {h : Harness Scripted.State} {s : Session Scripted.State}
    {tree written : FileTree} {tc : TestCase} {data : Bytes} (plain : h.Uneventful s)
    (reset : Scratch.reset s.tree h.config.layout.scratch = (tree, none))
    (found : Discovery.discover tree h.config.layout h.selects = .ok [tc])
    (noInput : tc.input = "") (source : tree.readFile tc.program = .ok data)
    (wrote : tree.writeFile tc.actual data = .ok written)
    : (h.run s).fault = none
      ∧ (h.run s).tally
        = some (Tally.empty.record
            ((Finding.of h.config.strictExit written tc (Scripted.plainExecution data 0)
              none).result tc (Scripted.plainExecution data 0))) := by
  have recorded := (plain.opening tree [tc]).step noInput source wrote
  rw [run_eq_ending reset found, runCases_cons]
  generalize h.step (h.opening s tree [tc]) tc = taken at recorded ⊢
  obtain ⟨after, outcome⟩ := taken
  obtain rfl : outcome = some _ := recorded
  exact ⟨rfl, rfl⟩

/-- The run records a pass if the files that are compared then are the same. -/
theorem tally_echoing {layout : Layout} {suite tree written : FileTree} {tc : TestCase}
    {data : Bytes} (reset : Scratch.reset suite layout.scratch = (tree, none))
    (found : Discovery.discover tree layout (fun _ => true) = .ok [tc]) (noInput : tc.input = "")
    (source : tree.readFile tc.program = .ok data)
    (wrote : tree.writeFile tc.actual data = .ok written)
    (compared : Verdict.ofFiles written tc.actual tc.reference = .ok .pass)
    : ((echoing layout fun _ => false).run (.start suite ⟨[], []⟩ false)).tally
      = some ⟨[⟨tc, .pass, .none, 0, none, .zero, none⟩], 1, 0⟩ := by
  have plain : (echoing layout fun _ => false).Uneventful (.start suite ⟨[], []⟩ false) :=
    ⟨rfl, rfl, rfl, fun _ => rfl⟩
  obtain ⟨_, tallied⟩ := plain.run reset found noInput source wrote
  have passed
      : Finding.of false written tc (Scripted.plainExecution data 0) none = .passed := by
    simp [Finding.of, Scripted.plainExecution, compared]
  rw [tallied, echoing, Config.default, passed]
  rfl

/-- A program and its reference. -/
def soloSuite : FileTree where
  nodes :=
    [(["v"], .directory), (["v", "a.v"], .file [65] 0o644), (["o"], .directory),
      (["o", "a.txt"], .file [65] 0o644)]
  home := []

/-- The suite once its scratch directory has been made. -/
def soloSuiteReset : FileTree where
  nodes := (["s"], .directory) :: soloSuite.nodes
  home := []

/-- The suite once the output of its case has been written. -/
def soloSuiteWritten : FileTree :=
  soloSuiteReset.put ["s", "a.txt"] (.file [65] plainMode)

/-- The paths of the suite are walked from where relative paths start. -/
theorem locate_soloPaths (tree : FileTree)
    : tree.locate true "v/a.v" = tree.walk true linkLimit tree.home ["v", "a.v"]
      ∧ tree.locate true "o/a.txt" = tree.walk true linkLimit tree.home ["o", "a.txt"]
      ∧ tree.locate true "s/a.txt" = tree.walk true linkLimit tree.home ["s", "a.txt"] :=
  ⟨locate_relative (by decide) (by decide) (by decide) (by decide) (by decide),
    locate_relative (by decide) (by decide) (by decide) (by decide) (by decide),
    locate_relative (by decide) (by decide) (by decide) (by decide) (by decide)⟩

/-- Where the paths of the suite lead. -/
theorem locate_soloSuite
    : soloSuite.locate true "o/a.txt" = .ok ["o", "a.txt"]
      ∧ soloSuite.locate true "s/a.txt" = .error .noEntry
      ∧ soloSuiteReset.locate true "v/a.v" = .ok ["v", "a.v"]
      ∧ soloSuiteReset.locate true "o/a.txt" = .ok ["o", "a.txt"]
      ∧ soloSuiteReset.locate true "s/a.txt" = .ok ["s", "a.txt"]
      ∧ soloSuiteWritten.locate true "o/a.txt" = .ok ["o", "a.txt"]
      ∧ soloSuiteWritten.locate true "s/a.txt" = .ok ["s", "a.txt"] := by
  have program (tree : FileTree) := (locate_soloPaths tree).1
  have reference (tree : FileTree) := (locate_soloPaths tree).2.1
  have output (tree : FileTree) := (locate_soloPaths tree).2.2
  simp only [program, reference, output]
  refine ⟨?_, ?_, ?_, ?_, ?_, ?_, ?_⟩ <;> cbv

/-- The program of the suite is read, and its output is written. -/
theorem soloSuite_written
    : soloSuiteReset.readFile "v/a.v" = .ok [65]
      ∧ soloSuiteReset.writeFile "s/a.txt" [65] = .ok soloSuiteWritten
      ∧ soloSuiteWritten.readFile "s/a.txt" = .ok [65] := by
  obtain ⟨_, _, program, _, output, _, written⟩ := locate_soloSuite
  refine ⟨readFile_eq_ok_iff.mpr ⟨_, program, by decide⟩, ?_,
    readFile_eq_ok_iff.mpr ⟨_, written, by decide⟩⟩
  have missing : soloSuiteReset.find? ["s", "a.txt"] = none := by decide
  simp only [writeFile, output, missing, soloSuiteWritten]

/-- The case of the suite, in a layout with the given directory of references. -/
def soloCase (reference : String) : TestCase where
  base := "a"
  program := "v/a.v"
  suffix := ""
  input := ""
  actual := "s/a.txt"
  reference := reference

/-- The run over the suite passes, and its reference is what has been printed. -/
theorem run_pass_matches_reference_soloSuite
    : Scripted.executor.KeepsTree
      ∧ ((echoing Discovery.shortLayout fun _ => false).run
          (.start soloSuite ⟨[], []⟩ false)).tally
        = some ⟨[⟨soloCase "o/a.txt", .pass, .none, 0, none, .zero, none⟩], 1, 0⟩
      ∧ ReferenceApart soloSuite soloSuiteReset [soloCase "o/a.txt"] (soloCase "o/a.txt")
      ∧ ∃ call ∈ (echoing Discovery.shortLayout fun _ => false).calls
            (.start soloSuite ⟨[], []⟩ false),
          IsCallOf call (soloCase "o/a.txt")
          ∧ soloSuite.readFile "o/a.txt" = .ok call.reply.execution.stdout := by
  have reset : Scratch.reset soloSuite "s" = (soloSuiteReset, none) := by cbv
  have found : Discovery.discover soloSuiteReset Discovery.shortLayout (fun _ => true)
      = .ok [soloCase "o/a.txt"] := by
    cbv
  obtain ⟨before, _, _, cleared, output, led, _⟩ := locate_soloSuite
  obtain ⟨source, wrote, printed⟩ := soloSuite_written
  have compared : Verdict.ofFiles soloSuiteWritten "s/a.txt" "o/a.txt" = .ok .pass := by
    have expected : soloSuiteWritten.readFile "o/a.txt" = .ok [65] :=
      readFile_eq_ok_iff.mpr ⟨_, led, by decide⟩
    simp [Verdict.ofFiles, printed, expected, Verdict.ofBytes]
  have tallied
      : ((echoing Discovery.shortLayout fun _ => false).run
          (.start soloSuite ⟨[], []⟩ false)).tally
        = some ⟨[⟨soloCase "o/a.txt", .pass, .none, 0, none, .zero, none⟩], 1, 0⟩ :=
    tally_echoing reset found rfl source wrote compared
  have apart
      : ReferenceApart soloSuite soloSuiteReset [soloCase "o/a.txt"] (soloCase "o/a.txt") := by
    refine ⟨fun place located => ?_, fun place located other member => ?_, fun place located => ?_⟩
    · rw [← located]
      exact before.trans cleared.symm
    · obtain rfl := List.mem_singleton.mp member
      obtain rfl := Except.ok.inj (cleared.symm.trans located)
      intro same
      exact absurd (Except.ok.inj (output.symm.trans same)) (by decide)
    · obtain rfl := Except.ok.inj (output.symm.trans located)
      decide
  refine ⟨scripted_keepsTree, tallied, apart, ?_⟩
  obtain ⟨tree, cases, sameTree, sameCases, matching⟩ :=
    run_pass_matches_reference (h := echoing Discovery.shortLayout fun _ => false)
      scripted_keepsTree tallied
  obtain rfl : soloSuiteReset = tree := congrArg Prod.fst (reset.symm.trans sameTree)
  obtain rfl : [soloCase "o/a.txt"] = cases := Except.ok.inj (found.symm.trans sameCases)
  obtain ⟨call, _, member, isCall, read⟩ := matching 0 _ rfl rfl apart
  exact ⟨call, member, isCall, read⟩

/-- A layout whose outputs are written over its references. -/
def sharedLayout : Layout :=
  { Discovery.shortLayout with references := "s" }

/-- If the outputs are written where the references are looked up, an output is compared with
itself: a case passes whose reference was not there before the run, in a configuration that is
accepted and with an executor that leaves the tree alone.
-/
theorem run_passes_without_reference
    : (echoing sharedLayout fun _ => false).config.invalid? = none
      ∧ (echoing sharedLayout fun _ => false).executor.KeepsTree
      ∧ ∃ tally,
          ((echoing sharedLayout fun _ => false).run (.start soloSuite ⟨[], []⟩ false)).tally
            = some tally
          ∧ ∃ result ∈ tally.results,
              result.verdict = .pass
              ∧ soloSuite.readFile result.tc.reference
                = .error (.refused "open" "s/a.txt" .noEntry) := by
  have reset : Scratch.reset soloSuite "s" = (soloSuiteReset, none) := by cbv
  have found : Discovery.discover soloSuiteReset sharedLayout (fun _ => true)
      = .ok [soloCase "s/a.txt"] := by
    cbv
  obtain ⟨_, missing, _⟩ := locate_soloSuite
  obtain ⟨source, wrote, printed⟩ := soloSuite_written
  have compared : Verdict.ofFiles soloSuiteWritten "s/a.txt" "s/a.txt" = .ok .pass := by
    simp [Verdict.ofFiles, printed, Verdict.ofBytes]
  have unread : soloSuite.readFile "s/a.txt" = .error (.refused "open" "s/a.txt" .noEntry) := by
    simp only [readFile, openPath, look, missing]
  exact ⟨by decide, scripted_keepsTree, _, tally_echoing reset found rfl source wrote compared, _,
    List.mem_singleton_self _, rfl, unread⟩

end Harness

end GoldenSuite

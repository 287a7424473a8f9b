import GoldenSuite.Proofs.Run.Passing
import GoldenSuite.Proofs.Run.Twins

/-! Strict exit checking changes exactly the passes of programs that end with another exit status
than zero. All that is checked before, a fault, a timeout, the reference and the output, goes
through as it does without.
-/

namespace GoldenSuite

-----------------------------------------------------------------------------------------
-- One case
-----------------------------------------------------------------------------------------

namespace CaseResult

/-- A pass of a program that has not ended with the exit status zero. -/
def crashedYetPassed (result : CaseResult) : Bool :=
  result.verdict = .pass && result.exitCode ≠ 0

/-- A result under strict exit checking. -/
def strictly (result : CaseResult) : CaseResult :=
  if result.crashedYetPassed then { result with verdict := .fail, kind := .nonZeroExit }
  else result

end CaseResult

/-- Strict exit checking turns a pass with another exit status than zero into a bad exit, and
changes no other finding.
-/
theorem Finding.of_strict (tree : FileTree) (tc : TestCase) (execution : Execution)
    (fault : Option Fault)
    : Finding.of true tree tc execution fault
      = if Finding.of false tree tc execution fault = .passed ∧ execution.exitCode ≠ 0 then .badExit
        else Finding.of false tree tc execution fault := by
  unfold Finding.of
  split
  · split
    · simp
    · split <;> simp
  · split
    · simp
    · split
      · split <;> simp
      · simp
      · simp

/-- The result of a case under strict exit checking. -/
theorem Finding.result_strict (tree : FileTree) (tc : TestCase) (execution : Execution)
    (fault : Option Fault)
    : (Finding.of true tree tc execution fault).result tc execution
      = ((Finding.of false tree tc execution fault).result tc execution).strictly := by
  rw [Finding.of_strict]
  generalize Finding.of false tree tc execution fault = finding
  cases finding with
  | passed =>
      by_cases zero : execution.exitCode = 0
      · simp [zero, Finding.result, Finding.verdict, CaseResult.strictly,
          CaseResult.crashedYetPassed]
      · simp [zero, Finding.result, Finding.verdict, Finding.kind, Finding.fault?,
          CaseResult.strictly, CaseResult.crashedYetPassed]
  | _ =>
      simp [Finding.result, Finding.verdict, CaseResult.strictly, CaseResult.crashedYetPassed]

-----------------------------------------------------------------------------------------
-- Counts
-----------------------------------------------------------------------------------------

/-- Under strict exit checking as many passes are lost as there were with another exit status than
zero, by induction over the results.
-/
theorem Tally.passed_strictly (results : List CaseResult)
    : (Tally.empty.recordAll (results.map CaseResult.strictly)).passed
        + results.countP CaseResult.crashedYetPassed
      = (Tally.empty.recordAll results).passed := by
  simp only [Tally.recordAll_empty]
  induction results with
  | nil => rfl
  | cons result rest ih =>
      have first : (if result.strictly.verdict = .pass then 1 else 0)
            + (if result.crashedYetPassed then 1 else 0)
          = if result.verdict = .pass then 1 else 0 := by
        by_cases crashed : result.crashedYetPassed = true
        · have passed : result.verdict = .pass := by
            simp only [CaseResult.crashedYetPassed, Bool.and_eq_true, decide_eq_true_eq] at crashed
            exact crashed.1
          simp [CaseResult.strictly, crashed, passed]
        · simp [CaseResult.strictly, crashed]
      simp only [List.map_cons, List.countP_cons, decide_eq_true_eq] at ih ⊢
      omega

/-- Strict exit checking records no more and no fewer results. -/
theorem Tally.total_strictly (results : List CaseResult)
    : (Tally.empty.recordAll (results.map CaseResult.strictly)).total
      = (Tally.empty.recordAll results).total := by
  rw [Tally.total_recordAll_empty, Tally.total_recordAll_empty, List.length_map]

-----------------------------------------------------------------------------------------
-- Whole runs
-----------------------------------------------------------------------------------------

namespace Harness

variable {σ τ : Type}

/-- A run that records nothing could not begin. -/
theorem fault_of_tally_none {h : Harness σ} {s : Session σ} (untallied : (h.run s).tally = none)
    : ∃ inner, (h.run s).fault = some (.runtime inner) := by
  have course := h.run_course s
  generalize h.run s = ending at course untallied ⊢
  cases course with
  | unreset reset => exact ⟨_, rfl⟩
  | undiscovered reset found => exact ⟨_, rfl⟩
  | @ran tree cases reset found =>
      generalize h.runCases (h.opening s tree cases) .empty cases = out at untallied
      obtain ⟨after, tally, cut⟩ := out
      cases cut <;> cases untallied

/-- Strict exit checking changes exactly the passes of programs that have crashed. Of twin runs, one
with strict exit checking and one without, both end with the same fault, leave the same tree, and
make the same invocations. Either both could not begin, or the results of the strict run are those
of the other one, in the same order, where each pass with another exit status than zero has become a
failure for that reason; so it has as many passes less, and as many results.
-/
theorem run_strict_exit {related : σ → τ → Prop} {strict : Harness σ} {lenient : Harness τ}
    {s : Session σ} {t : Session τ} (twins : strict.Twins related lenient)
    (on : strict.config.strictExit = true) (off : lenient.config.strictExit = false)
    (sessions : s.Twins related t)
    : (strict.run s).fault = (lenient.run t).fault
      ∧ (strict.run s).session.tree = (lenient.run t).session.tree
      ∧ (strict.calls s).map Exchange.invocation = (lenient.calls t).map Exchange.invocation
      ∧ ((∃ inner, (lenient.run t).fault = some (.runtime inner))
            ∧ (strict.run s).tally = none
            ∧ (lenient.run t).tally = none
          ∨ ∃ stricter tally,
              (strict.run s).tally = some stricter
              ∧ (lenient.run t).tally = some tally
              ∧ stricter.results = tally.results.map CaseResult.strictly
              ∧ stricter.passed + tally.results.countP CaseResult.crashedYetPassed = tally.passed
              ∧ stricter.total = tally.total) := by
  have judges (tree : FileTree) (tc : TestCase) (execution : Execution) (fault : Option Fault)
      : (Finding.of strict.config.strictExit tree tc execution fault).result tc execution
        = ((Finding.of lenient.config.strictExit tree tc execution fault).result tc
            execution).strictly := by
    rw [on, off]
    exact Finding.result_strict tree tc execution fault
  obtain ⟨fault, tree, invocations, tally⟩ := twins.run sessions CaseResult.strictly judges
  refine ⟨fault, tree, invocations, ?_⟩
  rcases tally with ⟨none, none'⟩ | ⟨results, recorded, recorded'⟩
  · exact Or.inl ⟨fault_of_tally_none none', none, none'⟩
  · refine Or.inr ⟨_, _, recorded, recorded', ?_, ?_, Tally.total_strictly results⟩
    · simp [Tally.empty]
    · have listed : (Tally.empty.recordAll results).results = results := by simp [Tally.empty]
      rw [listed]
      exact Tally.passed_strictly results

-----------------------------------------------------------------------------------------
-- A program that crashes after it has printed its reference
-----------------------------------------------------------------------------------------

/-- A harness under which every program prints its own text and ends with the exit status 3. -/
def crashing (strictExit : Bool) : Harness Unit :=
  answering
    (fun invocation tree =>
      (Scripted.plainExecution ((tree.readFile invocation.program).toOption.getD []) 3, none))
    strictExit fun _ => false

/-- Without strict exit checking the program of the suite passes, though it has crashed. -/
theorem tally_crashing
    : ((crashing false).run (.start soloSuite () false)).tally
      = some ⟨[⟨soloCase "o/a.txt", .pass, .none, 3, none, .zero, none⟩], 1, 0⟩ := by
  have reset : Scratch.reset soloSuite "s" = (soloSuiteReset, none) := by cbv
  have found : Discovery.discover soloSuiteReset Discovery.shortLayout (fun _ => true)
      = .ok [soloCase "o/a.txt"] := by
    cbv
  obtain ⟨_, _, _, _, _, reference, _⟩ := locate_soloSuite
  obtain ⟨source, wrote, printed⟩ := soloSuite_written
  have compared : Verdict.ofFiles soloSuiteWritten "s/a.txt" "o/a.txt" = .ok .pass := by
    have expected : soloSuiteWritten.readFile "o/a.txt" = .ok [65] :=
      FileTree.readFile_eq_ok_iff.mpr ⟨_, reference, by decide⟩
    simp [Verdict.ofFiles, printed, expected, Verdict.ofBytes]
  rw [run_eq_ending (h := crashing false) reset found, runCases_cons]
  simp [step, opening, crashing, answering, Session.start, Session.poll, Session.log, Session.print,
    reported, runCase, execute, openInput, soloCase, TestCase.hasInput, call, source,
    Except.toOption, Scripted.plainExecution, keepOutput, wrote, Finding.of, compared,
    Finding.result, Finding.verdict, Finding.kind, Finding.fault?, runCases, ending, Tally.record,
    Tally.empty]

/-- With strict exit checking the same program fails for its exit status. -/
theorem run_strict_exit_soloSuite
    : (crashing true).Twins Eq (crashing false)
      ∧ ((crashing false).run (.start soloSuite () false)).tally
        = some ⟨[⟨soloCase "o/a.txt", .pass, .none, 3, none, .zero, none⟩], 1, 0⟩
      ∧ ∃ stricter,
          ((crashing true).run (.start soloSuite () false)).tally = some stricter
          ∧ stricter.results = [⟨soloCase "o/a.txt", .fail, .nonZeroExit, 3, none, .zero, none⟩]
          ∧ stricter.passed = 0
          ∧ stricter.total = 1 := by
  have twins : (crashing true).Twins Eq (crashing false) :=
    ⟨rfl, rfl, rfl, .refl _⟩
  refine ⟨twins, tally_crashing, ?_⟩
  obtain ⟨_, _, _, ⟨_, _, none⟩ | ⟨stricter, tally, strict, tallied, results, passed, total⟩⟩ :=
    run_strict_exit (s := .start soloSuite () false) (t := .start soloSuite () false) twins rfl rfl
      ⟨rfl, rfl, rfl, rfl⟩
  · rw [tally_crashing] at none
    cases none
  · obtain rfl := Option.some.inj (tally_crashing.symm.trans tallied)
    exact ⟨stricter, strict, results, Nat.add_right_cancel passed, total⟩

end Harness

end GoldenSuite

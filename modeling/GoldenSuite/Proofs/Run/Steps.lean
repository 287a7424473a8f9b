import GoldenSuite.Run

/-! A run as a sequence of steps, one for each case. Every run of cases takes some steps that
record a result and then either has no case left or is stopped in the next one; what holds of
runs is derived from this.
-/

namespace GoldenSuite

namespace Tally

/-- Records results one after the other. -/
def recordAll (tally : Tally) (results : List CaseResult) : Tally :=
  results.foldl record tally

@[simp] theorem results_record (tally : Tally) (result : CaseResult)
    : (tally.record result).results = tally.results ++ [result] := by
  unfold record
  cases result.verdict <;> rfl

/-- Recording appends the results in order, by induction over them. -/
@[simp] theorem results_recordAll (tally : Tally) (results : List CaseResult)
    : (tally.recordAll results).results = tally.results ++ results := by
  induction results generalizing tally with
  | nil => simp [recordAll]
  | cons result rest ih =>
      have next := ih (tally.record result)
      rw [results_record, List.append_assoc, List.singleton_append] at next
      exact next

/-- Recording counts the passes, by induction over the results. -/
theorem passed_recordAll (tally : Tally) (results : List CaseResult)
    : (tally.recordAll results).passed
      = tally.passed + results.countP (fun result => result.verdict = .pass) := by
  induction results generalizing tally with
  | nil => rfl
  | cons result rest ih =>
      have next := ih (tally.record result)
      cases verdict : result.verdict <;>
        simpa [recordAll, record, verdict, Nat.add_assoc, Nat.add_comm] using next

/-- Recording counts the failures, by induction over the results. -/
theorem failed_recordAll (tally : Tally) (results : List CaseResult)
    : (tally.recordAll results).failed
      = tally.failed + results.countP (fun result => result.verdict = .fail) := by
  induction results generalizing tally with
  | nil => rfl
  | cons result rest ih =>
      have next := ih (tally.record result)
      cases verdict : result.verdict <;>
        simpa [recordAll, record, verdict, Nat.add_assoc, Nat.add_comm] using next

/-- A tally is told by the results that have been recorded: it keeps their order and counts both
verdicts.
-/
theorem recordAll_empty (results : List CaseResult)
    : Tally.empty.recordAll results
      = { results
          passed := results.countP (fun result => result.verdict = .pass)
          failed := results.countP (fun result => result.verdict = .fail) } := by
  have listed := results_recordAll .empty results
  have passed := passed_recordAll .empty results
  have failed := failed_recordAll .empty results
  generalize Tally.empty.recordAll results = tally at listed passed failed ⊢
  obtain ⟨recorded, passes, failures⟩ := tally
  simp only [empty, List.nil_append, Nat.zero_add] at listed passed failed
  rw [listed, passed, failed]

/-- Every recorded result counts as a pass or as a failure. -/
theorem total_recordAll_empty (results : List CaseResult)
    : (Tally.empty.recordAll results).total = results.length := by
  have others : results.countP (fun result => result.verdict = .fail)
      = results.countP (fun result => ¬result.verdict = .pass) := by
    refine List.countP_congr fun result _ => ?_
    cases result.verdict <;> simp
  rw [recordAll_empty, total, others]
  simpa using (results.length_eq_countP_add_countP (fun result => result.verdict = .pass)).symm

end Tally

/-- A look that finds the request to stop leaves it with the session. -/
theorem Session.cancelled_of_poll {σ : Type} {s polled : Session σ} {interrupts : Nat → Bool}
    (asked : s.poll interrupts = (true, polled))
    : polled.cancelled = true := by
  obtain ⟨stop, rfl⟩ := Prod.mk.inj asked
  exact stop

/-- A look finds a request to stop that was there before, or that has come by now. -/
theorem Session.asked_of_poll {σ : Type} {s polled : Session σ} {interrupts : Nat → Bool}
    (asked : s.poll interrupts = (true, polled))
    : s.cancelled = true ∨ interrupts s.polls = true := by
  obtain ⟨stop, _⟩ := Prod.mk.inj asked
  exact Bool.or_eq_true_iff.mp stop

/-- Where a look finds no request to stop, none has come by then. -/
theorem Session.uninterrupted_of_poll {σ : Type} {s polled : Session σ} {interrupts : Nat → Bool}
    (passed : s.poll interrupts = (false, polled))
    : interrupts s.polls = false := by
  obtain ⟨stop, _⟩ := Prod.mk.inj passed
  exact (Bool.or_eq_false_iff.mp stop).2

/-- A look that finds no request to stop only counts itself. -/
theorem Session.of_poll_false {σ : Type} {s polled : Session σ} {interrupts : Nat → Bool}
    (passed : s.poll interrupts = (false, polled))
    : s.cancelled = false ∧ polled = { s with polls := s.polls + 1 } := by
  obtain ⟨stop, rfl⟩ := Prod.mk.inj passed
  obtain ⟨calm, _⟩ := Bool.or_eq_false_iff.mp stop
  exact ⟨calm, by rw [stop, calm]⟩

namespace Harness

variable {σ : Type}

-----------------------------------------------------------------------------------------
-- One step
-----------------------------------------------------------------------------------------

/-- The session once the log says that a case runs. -/
def announced (h : Harness σ) (s : Session σ) (tc : TestCase) : Session σ :=
  s.log (h.logger.extend "case" (.text tc.name))
    ⟨.debug, "Running case", [⟨"program", .text tc.program⟩, ⟨"input", .text tc.input⟩]⟩

/-- How an execution of a case is judged in a session. -/
def finding (h : Harness σ) (s : Session σ) (tc : TestCase) (execution : Execution)
    (fault : Option Fault)
    : Finding :=
  .of h.config.strictExit s.tree tc execution fault

/-- The session once the log says how a case came out. -/
def concluded (h : Harness σ) (s : Session σ) (tc : TestCase) (execution : Execution)
    (finding : Finding)
    : Session σ :=
  match finding.remark? h.config.timeout tc execution with
  | some record => s.log (h.logger.extend "case" (.text tc.name)) record
  | none => s

/-- A case is executed and, unless the run is asked to stop, judged. -/
theorem runCase_eq (h : Harness σ) (s : Session σ) (tc : TestCase)
    : h.runCase s tc
      = match h.execute (h.announced s tc) tc with
        | (s, none) => (s, none)
        | (s, some (execution, fault)) =>
            match s.poll h.interrupts with
            | (true, s) => (s, none)
            | (false, s) =>
                (h.concluded s tc execution (h.finding s tc execution fault),
                  some ((h.finding s tc execution fault).result tc execution)) :=
  rfl

/-- What came of a case, once its result has been printed. -/
def reported (h : Harness σ) : Session σ × Option CaseResult → Session σ × Option CaseResult
  | (s, none) => (s, none)
  | (s, some result) => (s.print (h.reporter.finished s.tree result), some result)

/-- One case with the look before it and the lines around it. Nothing is recorded if the run is
asked to stop.
-/
def step (h : Harness σ) (s : Session σ) (tc : TestCase) : Session σ × Option CaseResult :=
  match s.poll h.interrupts with
  | (true, s) => (s, none)
  | (false, s) => h.reported (h.runCase (s.print (h.reporter.starting tc)) tc)

/-- A run of cases takes the step of the first one and goes on if it has recorded a result. -/
theorem runCases_cons (h : Harness σ) (s : Session σ) (tally : Tally) (tc : TestCase)
    (rest : List TestCase)
    : h.runCases s tally (tc :: rest)
      = match h.step s tc with
        | (s, none) => (s, tally, true)
        | (s, some result) => h.runCases s (tally.record result) rest := by
  rw [runCases, step]
  cases s.poll h.interrupts with
  | mk stop polled =>
      cases stop with
      | true => rfl
      | false =>
          dsimp only
          cases h.runCase (polled.print (h.reporter.starting tc)) tc with
          | mk after outcome => cases outcome <;> rfl

/-- Nothing comes back from an execution only if the run was asked to stop. -/
theorem cancelled_of_execute_none {h : Harness σ} {s after : Session σ} {tc : TestCase}
    (stopped : h.execute s tc = (after, none))
    : after.cancelled = true := by
  unfold execute at stopped
  split at stopped
  · cases stopped
  · dsimp only at stopped
    split at stopped
    · rename_i polled asked
      cases stopped
      exact Session.cancelled_of_poll asked
    · cases stopped

/-- Nothing comes back from a case only if the run was asked to stop. -/
theorem cancelled_of_runCase_none {h : Harness σ} {s after : Session σ} {tc : TestCase}
    (stopped : h.runCase s tc = (after, none))
    : after.cancelled = true := by
  rw [runCase_eq] at stopped
  split at stopped
  · rename_i executed
    cases stopped
    exact cancelled_of_execute_none executed
  · split at stopped
    · rename_i polled asked
      cases stopped
      exact Session.cancelled_of_poll asked
    · cases stopped

/-- A case that comes back reports its own test case. -/
theorem tc_of_runCase_some {h : Harness σ} {s after : Session σ} {tc : TestCase}
    {result : CaseResult} (recorded : h.runCase s tc = (after, some result))
    : result.tc = tc := by
  rw [runCase_eq] at recorded
  split at recorded
  · cases recorded
  · split at recorded
    · cases recorded
    · cases recorded
      rfl

/-- A step that records nothing leaves the run asked to stop. -/
theorem cancelled_of_step_none {h : Harness σ} {s : Session σ} {tc : TestCase}
    (stopped : (h.step s tc).2 = none)
    : (h.step s tc).1.cancelled = true := by
  unfold step at stopped ⊢
  split
  · rename_i polled asked
    exact Session.cancelled_of_poll asked
  · rename_i polled passed
    rw [passed] at stopped
    cases ran : h.runCase (polled.print (h.reporter.starting tc)) tc with
    | mk after outcome =>
        cases outcome with
        | none => exact cancelled_of_runCase_none ran
        | some result => simp [ran, reported] at stopped

/-- A step that records a result has run its case to the end. -/
theorem of_step_some {h : Harness σ} {s final : Session σ} {tc : TestCase} {result : CaseResult}
    (recorded : h.step s tc = (final, some result))
    : ∃ after,
        s.cancelled = false
        ∧ h.runCase (Session.print { s with polls := s.polls + 1 } (h.reporter.starting tc)) tc
          = (after, some result)
        ∧ final = after.print (h.reporter.finished after.tree result) := by
  unfold step at recorded
  split at recorded
  · cases recorded
  · rename_i polled passed
    obtain ⟨calm, rfl⟩ := Session.of_poll_false passed
    cases ran : h.runCase (Session.print { s with polls := s.polls + 1 }
        (h.reporter.starting tc)) tc with
    | mk after outcome =>
        rw [ran] at recorded
        cases outcome with
        | none => cases recorded
        | some result =>
            cases recorded
            exact ⟨after, calm, rfl, rfl⟩

/-- A step that records a result records that of its own case. -/
theorem tc_of_step_some {h : Harness σ} {s final : Session σ} {tc : TestCase}
    {result : CaseResult} (recorded : h.step s tc = (final, some result))
    : result.tc = tc := by
  obtain ⟨after, _, ran, _⟩ := of_step_some recorded
  exact tc_of_runCase_some ran

-----------------------------------------------------------------------------------------
-- Sequences of steps
-----------------------------------------------------------------------------------------

/-- The cases are run one after the other, each records its result, and the session passes from
the first to the last.
-/
inductive Steps (h : Harness σ) : Session σ → List TestCase → List CaseResult → Session σ → Prop
  | done (s : Session σ)
    : h.Steps s [] [] s
  | next {s after final : Session σ} {tc : TestCase} {result : CaseResult}
    {cases : List TestCase} {results : List CaseResult}
    (first : h.step s tc = (after, some result)) (rest : h.Steps after cases results final)
    : h.Steps s (tc :: cases) (result :: results) final

/-- Steps record the results of exactly their cases, in order. -/
theorem Steps.results_tc {h : Harness σ} {s final : Session σ} {cases : List TestCase}
    {results : List CaseResult} (steps : h.Steps s cases results final)
    : results.map CaseResult.tc = cases := by
  induction steps with
  | done s => rfl
  | next first rest ih => rw [List.map_cons, tc_of_step_some first, ih]

/-- One more step prolongs a sequence of steps, by induction over the steps. -/
theorem Steps.snoc {h : Harness σ} {s reached final : Session σ} {tc : TestCase}
    {result : CaseResult} {cases : List TestCase} {results : List CaseResult}
    (steps : h.Steps s cases results reached) (last : h.step reached tc = (final, some result))
    : h.Steps s (cases ++ [tc]) (results ++ [result]) final := by
  induction steps with
  | done s => exact .next last (.done final)
  | next first _ ih => exact .next first (ih last)

/-- A recorded result is that of a step to which the steps before it lead, by induction over the
steps.
-/
theorem Steps.split {h : Harness σ} {s final : Session σ} {cases : List TestCase}
    {results : List CaseResult} (steps : h.Steps s cases results final) {index : Nat}
    {result : CaseResult} (selected : results[index]? = some result)
    : ∃ before after earlier,
        cases[index]? = some result.tc
        ∧ h.Steps s (cases.take index) earlier before
        ∧ h.step before result.tc = (after, some result) := by
  induction steps generalizing index with
  | done s => cases selected
  | @next s after final tc result cases results first rest ih =>
      cases index with
      | zero =>
          obtain rfl := Option.some.inj selected
          obtain rfl := tc_of_step_some first
          exact ⟨s, after, [], rfl, .done s, first⟩
      | succ index =>
          obtain ⟨before, later, earlier, numbered, leading, taken⟩ := ih selected
          exact ⟨before, later, _, numbered, .next first leading, taken⟩

/-- A run of cases goes through steps and then on with the cases that follow, by induction over
the steps.
-/
theorem Steps.runCases_append {h : Harness σ} {s final : Session σ} {cases : List TestCase}
    {results : List CaseResult} (steps : h.Steps s cases results final) (tally : Tally)
    (rest : List TestCase)
    : h.runCases s tally (cases ++ rest) = h.runCases final (tally.recordAll results) rest := by
  induction steps generalizing tally with
  | done s => rfl
  | next first _ ih =>
      rw [List.cons_append, runCases_cons, first]
      exact ih _

/-- The tally that a run starts from does not show in its sessions, by induction over the cases. -/
theorem runCases_session_eq (h : Harness σ) (s : Session σ) (left right : Tally)
    (cases : List TestCase)
    : (h.runCases s left cases).1 = (h.runCases s right cases).1 := by
  induction cases generalizing s left right with
  | nil => rfl
  | cons tc rest ih =>
      rw [runCases_cons, runCases_cons]
      cases h.step s tc with
      | mk after outcome =>
          cases outcome with
          | none => rfl
          | some result => exact ih after _ _

/-- The session after some cases have been run. -/
def sessionAfter (h : Harness σ) (s : Session σ) (cases : List TestCase) : Session σ :=
  (h.runCases s .empty cases).1

/-- A step that records a result passes its session on to the cases that follow. -/
theorem sessionAfter_cons {h : Harness σ} {s after : Session σ} {tc : TestCase}
    {result : CaseResult} (first : h.step s tc = (after, some result)) (rest : List TestCase)
    : h.sessionAfter s (tc :: rest) = h.sessionAfter after rest := by
  rw [sessionAfter, runCases_cons, first]
  exact h.runCases_session_eq after _ _ rest

/-- Steps lead to the session after their cases. -/
theorem Steps.sessionAfter_eq {h : Harness σ} {s final : Session σ} {cases : List TestCase}
    {results : List CaseResult} (steps : h.Steps s cases results final)
    : h.sessionAfter s cases = final := by
  induction steps with
  | done s => rfl
  | next first _ ih => rw [sessionAfter_cons first, ih]

/-- How a run of cases comes to its end after its steps: no case is left, or the next one was
stopped.
-/
inductive Finish (h : Harness σ) (reached : Session σ) (tally : Tally)
    : List TestCase → Session σ × Tally × Bool → Prop
  | complete : h.Finish reached tally [] (reached, tally, false)
  | stopped {tc : TestCase} {rest : List TestCase} (none : (h.step reached tc).2 = none)
    : h.Finish reached tally (tc :: rest) ((h.step reached tc).1, tally, true)

/-- Every run of cases takes steps through some of its cases and then finishes, by induction over
the cases.
-/
theorem runCases_steps (h : Harness σ) (s : Session σ) (tally : Tally) (cases : List TestCase)
    : ∃ ran rest results reached,
        cases = ran ++ rest
        ∧ h.Steps s ran results reached
        ∧ h.Finish reached (tally.recordAll results) rest (h.runCases s tally cases) := by
  induction cases generalizing s tally with
  | nil => exact ⟨[], [], [], s, rfl, .done s, .complete⟩
  | cons tc rest ih =>
      rw [runCases_cons]
      cases taken : h.step s tc with
      | mk after outcome =>
          cases outcome with
          | none =>
              refine ⟨[], tc :: rest, [], s, rfl, .done s, ?_⟩
              have finish : h.Finish s tally (tc :: rest) ((h.step s tc).1, tally, true) :=
                .stopped (by rw [taken])
              rw [taken] at finish
              exact finish
          | some result =>
              obtain ⟨ran, left, results, reached, split, steps, finish⟩ :=
                ih after (tally.record result)
              exact ⟨tc :: ran, left, result :: results, reached, by rw [split, List.cons_append],
                .next taken steps, finish⟩

-----------------------------------------------------------------------------------------
-- Whole runs
-----------------------------------------------------------------------------------------

/-- The session in which the cases of a run begin, with the tree that the reset has left. -/
def opening (h : Harness σ) (s : Session σ) (tree : FileTree) (cases : List TestCase)
    : Session σ :=
  { s with tree }.log h.logger
    ⟨.info, "Discovered test cases",
      [⟨"count", .int cases.length⟩, ⟨"programs", .text h.config.layout.programs⟩]⟩

/-- The ending of a run whose cases have come to an end. -/
def ending (h : Harness σ) : Session σ × Tally × Bool → Ending σ
  | (s, tally, true) => ⟨s, some tally, some (.mark .canceled)⟩
  | (s, tally, false) =>
      ⟨s.log h.logger
          ⟨.info, "Run finished", [⟨"passed", .int tally.passed⟩, ⟨"failed", .int tally.failed⟩]⟩,
        some tally, none⟩

/-- A run whose scratch directory cannot be reset does not begin. -/
theorem run_of_unreset {h : Harness σ} {s : Session σ} {tree : FileTree} {fault : Fault}
    (reset : Scratch.reset s.tree h.config.layout.scratch = (tree, some fault))
    : h.run s = ⟨{ s with tree }, none, some (.runtime fault)⟩ := by
  simp only [run, reset]

/-- A run whose cases cannot be found does not begin, either. -/
theorem run_of_undiscovered {h : Harness σ} {s : Session σ} {tree : FileTree} {fault : Fault}
    (reset : Scratch.reset s.tree h.config.layout.scratch = (tree, none))
    (found : Discovery.discover tree h.config.layout h.selects = .error fault)
    : h.run s = ⟨{ s with tree }, none, some (.runtime fault)⟩ := by
  simp only [run, reset, found]

/-- A run whose scratch directory can be reset and whose cases can be found runs these cases. -/
theorem run_eq_ending {h : Harness σ} {s : Session σ} {tree : FileTree} {cases : List TestCase}
    (reset : Scratch.reset s.tree h.config.layout.scratch = (tree, none))
    (found : Discovery.discover tree h.config.layout h.selects = .ok cases)
    : h.run s = h.ending (h.runCases (h.opening s tree cases) .empty cases) := by
  simp only [run, reset, found]
  rfl

/-- How a run comes to its ending: the scratch directory cannot be reset, or no cases can be found,
or the cases that are found are run.
-/
inductive Course (h : Harness σ) (s : Session σ) : Ending σ → Prop
  | unreset {tree : FileTree} {fault : Fault}
    (reset : Scratch.reset s.tree h.config.layout.scratch = (tree, some fault))
    : h.Course s ⟨{ s with tree }, none, some (.runtime fault)⟩
  | undiscovered {tree : FileTree} {fault : Fault}
    (reset : Scratch.reset s.tree h.config.layout.scratch = (tree, none))
    (found : Discovery.discover tree h.config.layout h.selects = .error fault)
    : h.Course s ⟨{ s with tree }, none, some (.runtime fault)⟩
  | ran {tree : FileTree} {cases : List TestCase}
    (reset : Scratch.reset s.tree h.config.layout.scratch = (tree, none))
    (found : Discovery.discover tree h.config.layout h.selects = .ok cases)
    : h.Course s (h.ending (h.runCases (h.opening s tree cases) .empty cases))

/-- Every run takes one of the three courses. -/
theorem run_course (h : Harness σ) (s : Session σ) : h.Course s (h.run s) := by
  cases reset : Scratch.reset s.tree h.config.layout.scratch with
  | mk tree failure =>
      cases failure with
      | some fault =>
          rw [run_of_unreset reset]
          exact .unreset reset
      | none =>
          cases found : Discovery.discover tree h.config.layout h.selects with
          | error fault =>
              rw [run_of_undiscovered reset found]
              exact .undiscovered reset found
          | ok cases =>
              rw [run_eq_ending reset found]
              exact .ran reset found

end Harness

end GoldenSuite

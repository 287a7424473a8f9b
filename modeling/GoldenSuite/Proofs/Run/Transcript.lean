import GoldenSuite.Proofs.FileTree.Walking
import GoldenSuite.Proofs.Run.Prefix
import GoldenSuite.Proofs.Run.Printing

/-! The transcript of a run is its tally: for every recorded result the line before the case and
what there is to say about the result, in order, and after these at most the line before one more
case, the one in which the run was stopped.
-/

namespace GoldenSuite.Harness

variable {σ : Type} {h : Harness σ}

/-- What is printed about one of the cases of a run, by its number: the line before it, and what
there is to say about its result in the tree after it.
-/
def caseText (h : Harness σ) (s : Session σ) (cases : List TestCase) (index : Nat)
    (result : CaseResult)
    : String :=
  h.reporter.starting result.tc
  ++ h.reporter.finished (h.sessionAfter s (cases.take (index + 1))).tree result

/-- What is printed about the recorded cases of a run. -/
def transcript (h : Harness σ) (s : Session σ) (cases : List TestCase)
    (results : List CaseResult)
    : String :=
  String.join (results.mapIdx (h.caseText s cases))

/-- Whether the request to stop is found by the look before the next case. -/
def stopsHere (h : Harness σ) (s : Session σ) : Bool :=
  s.cancelled || h.interrupts s.polls

/-- A transcript begins with the text of the first case; then those of the others follow from the
session that it has left.
-/
theorem transcript_cons {s after : Session σ} {tc : TestCase} {result : CaseResult}
    (first : h.step s tc = (after, some result)) (rest : List TestCase)
    (results : List CaseResult)
    : h.transcript s (tc :: rest) (result :: results)
      = h.reporter.starting tc ++ h.reporter.finished after.tree result
        ++ h.transcript after rest results := by
  have own : h.caseText s (tc :: rest) 0 result
      = h.reporter.starting tc ++ h.reporter.finished after.tree result := by
    rw [caseText, tc_of_step_some first, List.take_succ_cons, List.take_zero,
      sessionAfter_cons first]
    rfl
  have later : (fun index => h.caseText s (tc :: rest) (index + 1)) = h.caseText after rest := by
    funext index result
    rw [caseText, List.take_succ_cons, sessionAfter_cons first]
    rfl
  rw [transcript, List.mapIdx_cons, String.join_cons, own, later]
  rfl

/-- Steps print the transcript of their results, by induction over the steps. -/
theorem Steps.output {s final : Session σ} {ran : List TestCase} {results : List CaseResult}
    (steps : h.Steps s ran results final) (rest : List TestCase)
    : final.output = s.output ++ h.transcript s (ran ++ rest) results := by
  induction steps with
  | done s => simp [transcript]
  | @next s after final tc result cases results first _ ih =>
      rw [ih, output_of_step_some first, List.cons_append, transcript_cons first]
      simp only [String.append_assoc]

/-- What is printed after the recorded cases of a run: the line before the next case, if there is
one and it was started.
-/
def furtherText (h : Harness σ) (reached : Session σ) : List TestCase → String
  | [] => ""
  | tc :: _ => if h.stopsHere reached then "" else h.reporter.starting tc

/-- After the steps of a run the line before the next case is printed, if the run was stopped in
it.
-/
theorem Finish.output {reached : Session σ} {tally : Tally} {rest : List TestCase}
    {out : Session σ × Tally × Bool} (finish : h.Finish reached tally rest out)
    : (h.ending out).session.output = reached.output ++ h.furtherText reached rest := by
  cases finish with
  | complete => simp [ending, Session.log, furtherText]
  | stopped none => exact output_of_step_none none

/-- The transcript of a run is its tally. If the scratch directory is reset and the cases are found,
then what is printed is, for every recorded result in order, the line before the case and what there
is to say about the result. One line follows, that before the next case, exactly if the run was
stopped, and the request to stop was not found by the look before that case.
-/
theorem run_transcript {s : Session σ} {tree : FileTree} {cases : List TestCase}
    (reset : Scratch.reset s.tree h.config.layout.scratch = (tree, none))
    (found : Discovery.discover tree h.config.layout h.selects = .ok cases)
    : ∃ tally further,
        (h.run s).tally = some tally
        ∧ (h.run s).session.output
          = s.output ++ h.transcript (h.opening s tree cases) cases tally.results ++ further
        ∧ ((h.run s).fault = none → further = "")
        ∧ ((h.run s).fault ≠ none
          → ∃ tc,
              cases[tally.results.length]? = some tc
              ∧ further
                = if h.stopsHere
                      (h.sessionAfter (h.opening s tree cases)
                        (cases.take tally.results.length)) then ""
                  else h.reporter.starting tc) := by
  obtain ⟨ran, rest, results, reached, rfl, steps, finish⟩ :=
    h.runCases_steps (h.opening s tree cases) .empty cases
  obtain ⟨tallied, complete, _⟩ := finish.ending_facts
  have printed := finish.output
  rw [← run_eq_ending reset found] at tallied complete printed
  have listed : (Tally.empty.recordAll results).results = results :=
    Tally.results_recordAll .empty results
  have many : results.length = ran.length := by
    rw [← steps.results_tc, List.length_map]
  refine ⟨_, _, tallied, printed.trans (congrArg (· ++ _) ?_), ?_, ?_⟩
  · rw [listed]
    exact steps.output rest
  · intro unbroken
    rw [complete.mp unbroken, furtherText]
  · intro broken
    cases rest with
    | nil => exact absurd (complete.mpr rfl) broken
    | cons tc rest =>
        refine ⟨tc, ?_, ?_⟩
        · rw [listed, many]
          simp
        -- The look before this case is taken in the session that the recorded ones have left.
        · rw [listed, many, List.take_left, steps.sessionAfter_eq]
          rfl

-----------------------------------------------------------------------------------------
-- A run that is stopped in its second case
-----------------------------------------------------------------------------------------

/-- A harness under which every program is stopped by its timeout, and which is asked to stop at its
fifth look.
-/
def hanging : Harness Unit :=
  answering (fun _ _ => ({ Execution.notStarted with timedOut := true }, none)) false (· == 4)

/-- The first case has timed out. -/
def hangingResult : CaseResult :=
  ⟨firstOfPair, .fail, .timeout, -1, none, .zero, none⟩

/-- The first case is recorded after three looks. -/
theorem step_hanging
    : ∃ after,
        hanging.step
            (hanging.opening (.start pairSuite () false) pairSuiteReset
              [firstOfPair, secondOfPair])
            firstOfPair
          = (after, some hangingResult)
        ∧ after.polls = 3
        ∧ after.cancelled = false := by
  have led : pairSuiteReset.locate true "s/a.txt" = .ok ["s", "a.txt"] := by
    have route : pairSuiteReset.locate true "s/a.txt"
        = pairSuiteReset.walk true FileTree.linkLimit pairSuiteReset.home ["s", "a.txt"] :=
      FileTree.locate_relative (by decide) (by decide) (by decide) (by decide) (by decide)
    rw [route]
    cbv
  have missing : pairSuiteReset.find? ["s", "a.txt"] = none := by decide
  have actual : firstOfPair.actual = "s/a.txt" := by decide
  have noInput : firstOfPair.hasInput = false := by decide
  simp [step, opening, hanging, answering, hangingResult, Session.start, Session.poll, Session.log,
    Session.print, reported, runCase, execute, openInput, noInput, call,
    Execution.notStarted, keepOutput, actual, FileTree.writeFile, led, missing, Finding.of,
    Finding.result, Finding.verdict, Finding.kind, Finding.fault?, Finding.remark?]

/-- The second case is stopped at the fifth look. -/
theorem step_hanging_stopped {s : Session Unit} (polls : s.polls = 3)
    (running : s.cancelled = false)
    : (hanging.step s secondOfPair).2 = none := by
  have noInput : secondOfPair.hasInput = false := by decide
  simp [step, hanging, answering, Session.poll, Session.print, Session.log, runCase, execute,
    openInput, noInput, call, polls, running, reported]

/-- The run prints the line before its first case, how that case ended, and the line before the
second one; only the first is in its tally.
-/
theorem run_transcript_pairSuite
    : Scratch.reset pairSuite "s" = (pairSuiteReset, none)
      ∧ Discovery.discover pairSuiteReset Discovery.shortLayout (fun _ => true)
        = .ok [firstOfPair, secondOfPair]
      ∧ (hanging.run (.start pairSuite () false)).tally = some ⟨[hangingResult], 0, 1⟩
      ∧ (hanging.run (.start pairSuite () false)).session.output
        = "Running test: a (no input)\n" ++ "Test failed: a (timeout)\n"
          ++ "Running test: b (no input)\n" := by
  have reset : Scratch.reset pairSuite "s" = (pairSuiteReset, none) := by cbv
  have found : Discovery.discover pairSuiteReset Discovery.shortLayout (fun _ => true)
      = .ok [firstOfPair, secondOfPair] := by
    cbv
  obtain ⟨after, first, polls, running⟩ := step_hanging
  have steps := Steps.next first (.done after)
  have ended : hanging.run (.start pairSuite () false)
      = hanging.ending
          ((hanging.step after secondOfPair).1, ⟨[hangingResult], 0, 1⟩, true) := by
    have second := step_hanging_stopped polls running
    rw [run_eq_ending (h := hanging) reset found]
    refine congrArg hanging.ending
      ((steps.runCases_append .empty [secondOfPair]).trans ?_)
    rw [runCases_cons]
    generalize hanging.step after secondOfPair = stopped at second ⊢
    obtain ⟨final, _⟩ := stopped
    obtain rfl := second
    rfl
  have tallied : (hanging.run (.start pairSuite () false)).tally
      = some ⟨[hangingResult], 0, 1⟩ := by
    rw [ended]
    rfl
  refine ⟨reset, found, tallied, ?_⟩
  obtain ⟨tally, further, same, printed, _, stopped⟩ :=
    run_transcript (h := hanging) (s := .start pairSuite () false) reset found
  obtain rfl := Option.some.inj (tallied.symm.trans same)
  obtain ⟨tc, selected, rfl⟩ := stopped (by rw [ended]; simp [ending])
  obtain rfl := Option.some.inj selected
  have reached : hanging.sessionAfter
      (hanging.opening (.start pairSuite () false) pairSuiteReset
        [firstOfPair, secondOfPair])
      ([firstOfPair, secondOfPair].take [hangingResult].length)
      = after :=
    steps.sessionAfter_eq
  have later : hanging.stopsHere after = false := by
    simp [stopsHere, hanging, answering, running, polls]
  rw [printed, reached, later, transcript_cons first]
  rfl

end GoldenSuite.Harness

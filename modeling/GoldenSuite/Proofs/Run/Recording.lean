import GoldenSuite.Proofs.Run.Steps

/-! The calls that a run makes of its executor. An executor is made to keep a list of its calls
in its own state; the run itself cannot tell the difference, so the list shows the calls of the
run as it is.
-/

namespace GoldenSuite

/-- One call of an executor: what it was given and what it answered. -/
structure Exchange (σ : Type) where
  invocation : Invocation
  /-- The file tree at the moment of the call. -/
  tree : FileTree
  cancelled : Bool
  host : σ
  reply : Reply σ

variable {σ : Type}

/-- The executor that answers the same and notes every call. -/
def Executor.recording (executor : Executor σ) : Executor (σ × List (Exchange σ)) :=
  fun invocation tree cancelled host =>
    let reply := executor invocation tree cancelled host.1
    { execution := reply.execution
      fault := reply.fault
      tree := reply.tree
      host := (reply.host, host.2 ++ [⟨invocation, tree, cancelled, host.1, reply⟩])
      stderr := reply.stderr
      cancels := reply.cancels }

/-- The session with the calls that have been noted so far. -/
def Session.noting (s : Session σ) (calls : List (Exchange σ))
    : Session (σ × List (Exchange σ)) where
  tree := s.tree
  host := (s.host, calls)
  cancelled := s.cancelled
  polls := s.polls
  output := s.output
  diagnostics := s.diagnostics

@[simp] theorem Session.tree_noting (s : Session σ) (noted : List (Exchange σ))
    : (s.noting noted).tree = s.tree :=
  rfl

/-- A look does not see the noted calls. -/
theorem Session.poll_noting (s : Session σ) (noted : List (Exchange σ)) (interrupts : Nat → Bool)
    : (s.noting noted).poll interrupts
      = ((s.poll interrupts).1, (s.poll interrupts).2.noting noted) :=
  rfl

namespace Harness

/-- The harness whose executor notes its calls. -/
def recording (h : Harness σ) : Harness (σ × List (Exchange σ)) where
  config := h.config
  logger := h.logger
  selects := h.selects
  executor := h.executor.recording
  reporter := h.reporter
  interrupts := h.interrupts

@[simp] theorem interrupts_recording (h : Harness σ) : h.recording.interrupts = h.interrupts :=
  rfl

@[simp] theorem reporter_recording (h : Harness σ) : h.recording.reporter = h.reporter :=
  rfl

/-- The calls that a run makes of its executor, in order. -/
def calls (h : Harness σ) (s : Session σ) : List (Exchange σ) :=
  (h.recording.run (s.noting [])).session.host.2

-----------------------------------------------------------------------------------------
-- The calls of one case
-----------------------------------------------------------------------------------------

/-- The call of an invocation in a session, with its answer. -/
def exchange (h : Harness σ) (s : Session σ) (invocation : Invocation) : Exchange σ where
  invocation := invocation
  tree := s.tree
  cancelled := s.cancelled
  host := s.host
  reply := h.executor invocation s.tree s.cancelled s.host

/-- The calls that a case makes in a session. A case without input makes one, without anything to
read; else there is one with the file at the path of the input, if it can be opened.
-/
def callsFor (h : Harness σ) (s : Session σ) (tc : TestCase) : List (Exchange σ) :=
  if tc.input = "" then [h.exchange s ⟨tc.program, none⟩]
  else
    match s.tree.openPath tc.input with
    | .ok opened => [h.exchange s ⟨tc.program, some (.file tc.input opened)⟩]
    | .error _ => []

/-- The calls of a case follow from what it can read. -/
theorem callsFor_eq_openInput (h : Harness σ) (s : Session σ) (tc : TestCase)
    : h.callsFor s tc
      = match openInput s.tree tc with
        | .ok stdin => [h.exchange s ⟨tc.program, stdin⟩]
        | .error _ => [] := by
  unfold callsFor openInput TestCase.hasInput
  by_cases empty : tc.input = ""
  · simp [empty]
  · simp only [empty, if_false, ne_eq, not_false_eq_true, decide_true, if_true]
    cases s.tree.openPath tc.input <;> rfl

/-- What an execution that comes back has done: its input could not be opened, or it has called its
executor, looked whether to stop, and kept what was printed.
-/
theorem of_execute_some {h : Harness σ} {s after : Session σ} {tc : TestCase}
    {execution : Execution} {fault : Option Fault}
    (came : h.execute s tc = (after, some (execution, fault)))
    : (∃ cause,
        openInput s.tree tc = .error cause
        ∧ after = s
        ∧ execution = .notStarted
        ∧ fault = some cause)
      ∨ ∃ stdin polled,
          openInput s.tree tc = .ok stdin
          ∧ (h.call s ⟨tc.program, stdin⟩).1.poll h.interrupts = (false, polled)
          ∧ execution = (h.exchange s ⟨tc.program, stdin⟩).reply.execution
          ∧ keepOutput polled tc execution.stdout (h.exchange s ⟨tc.program, stdin⟩).reply.fault
            = (after, fault) := by
  unfold execute at came
  split at came
  · rename_i refused
    cases came
    exact .inl ⟨_, refused, rfl, rfl, rfl⟩
  · rename_i stdin opened
    dsimp only at came
    split at came
    · cases came
    · rename_i polled passed
      cases came
      exact .inr ⟨stdin, polled, opened, passed, rfl, rfl⟩

-----------------------------------------------------------------------------------------
-- Noting calls changes nothing else
-----------------------------------------------------------------------------------------

/-- Keeping an output does not look at the noted calls. -/
theorem keepOutput_noting (s : Session σ) (noted : List (Exchange σ)) (tc : TestCase)
    (stdout : Bytes) (fault : Option Fault)
    : keepOutput (s.noting noted) tc stdout fault
      = ((keepOutput s tc stdout fault).1.noting noted, (keepOutput s tc stdout fault).2) := by
  simp only [keepOutput, Session.tree_noting]
  cases s.tree.writeFile tc.actual stdout <;> rfl

/-- A call is noted. -/
theorem call_recording (h : Harness σ) (s : Session σ) (noted : List (Exchange σ))
    (invocation : Invocation)
    : h.recording.call (s.noting noted) invocation
      = ((h.call s invocation).1.noting (noted ++ [h.exchange s invocation]),
        (h.call s invocation).2) :=
  rfl

/-- An execution notes the calls of its case. -/
theorem execute_recording (h : Harness σ) (s : Session σ) (noted : List (Exchange σ))
    (tc : TestCase)
    : h.recording.execute (s.noting noted) tc
      = ((h.execute s tc).1.noting (noted ++ h.callsFor s tc), (h.execute s tc).2) := by
  simp only [callsFor_eq_openInput, execute, Session.tree_noting]
  cases openInput s.tree tc with
  | error fault => simp
  | ok stdin =>
      simp only [call_recording, Session.poll_noting, interrupts_recording]
      cases (h.call s ⟨tc.program, stdin⟩).1.poll h.interrupts with
      | mk stop polled =>
          cases stop with
          | true => rfl
          | false => simp only [keepOutput_noting]

/-- What the log says of a case does not depend on the noted calls. -/
theorem concluded_recording (h : Harness σ) (s : Session σ) (noted : List (Exchange σ))
    (tc : TestCase) (execution : Execution) (finding : Finding)
    : h.recording.concluded (s.noting noted) tc execution finding
      = (h.concluded s tc execution finding).noting noted := by
  unfold concluded
  have same : h.recording.config = h.config := rfl
  rw [same]
  cases finding.remark? h.config.timeout tc execution <;> rfl

/-- A case notes its calls. -/
theorem runCase_recording (h : Harness σ) (s : Session σ) (noted : List (Exchange σ))
    (tc : TestCase)
    : h.recording.runCase (s.noting noted) tc
      = ((h.runCase s tc).1.noting (noted ++ h.callsFor s tc), (h.runCase s tc).2) := by
  have executed : h.recording.execute (h.recording.announced (s.noting noted) tc) tc
      = ((h.execute (h.announced s tc) tc).1.noting (noted ++ h.callsFor s tc),
        (h.execute (h.announced s tc) tc).2) :=
    execute_recording h (h.announced s tc) noted tc
  rw [runCase_eq, runCase_eq, executed]
  cases h.execute (h.announced s tc) tc with
  | mk after outcome =>
      cases outcome with
      | none => rfl
      | some ended =>
          simp only [Session.poll_noting, interrupts_recording]
          cases after.poll h.interrupts with
          | mk stop polled =>
              cases stop with
              | true => rfl
              | false => simp only [concluded_recording]; rfl

/-- Printing a result does not look at the noted calls. -/
theorem reported_recording (h : Harness σ) (out : Session σ × Option CaseResult)
    (noted : List (Exchange σ))
    : h.recording.reported (out.1.noting noted, out.2)
      = ((h.reported out).1.noting noted, (h.reported out).2) := by
  cases out with
  | mk after outcome => cases outcome <;> rfl

/-- The calls of a step: those of its case, unless the run is asked to stop before it. -/
def stepCalls (h : Harness σ) (s : Session σ) (tc : TestCase) : List (Exchange σ) :=
  if (s.poll h.interrupts).1 then [] else h.callsFor s tc

/-- A step notes its calls. -/
theorem step_recording (h : Harness σ) (s : Session σ) (noted : List (Exchange σ))
    (tc : TestCase)
    : h.recording.step (s.noting noted) tc
      = ((h.step s tc).1.noting (noted ++ h.stepCalls s tc), (h.step s tc).2) := by
  simp only [step, stepCalls, Session.poll_noting, interrupts_recording, reporter_recording]
  cases asked : s.poll h.interrupts with
  | mk stop polled =>
      cases stop with
      | true => simp
      | false =>
          obtain ⟨_, rfl⟩ := Session.of_poll_false asked
          let started := Session.print { s with polls := s.polls + 1 } (h.reporter.starting tc)
          have ran : h.recording.runCase (started.noting noted) tc
              = ((h.runCase started tc).1.noting (noted ++ h.callsFor s tc),
                (h.runCase started tc).2) :=
            runCase_recording h started noted tc
          exact (congrArg h.recording.reported ran).trans (reported_recording h _ _)

/-- A step that records a result has made the calls of its case. -/
theorem stepCalls_of_step_some {h : Harness σ} {s final : Session σ} {tc : TestCase}
    {result : CaseResult} (recorded : h.step s tc = (final, some result))
    : h.stepCalls s tc = h.callsFor s tc := by
  unfold step at recorded
  split at recorded
  · cases recorded
  · rename_i polled passed
    rw [stepCalls, passed]
    rfl

-----------------------------------------------------------------------------------------
-- The calls of a run
-----------------------------------------------------------------------------------------

/-- The calls that belong to one of the cases of a run, by its number: those that it makes in the
session after the cases before it.
-/
def callsAt (h : Harness σ) (s : Session σ) (cases : List TestCase) (index : Nat)
    : List (Exchange σ) :=
  match cases[index]? with
  | some tc => h.callsFor (h.sessionAfter s (cases.take index)) tc
  | none => []

/-- After a step that records a result, calls are numbered from the next case on. -/
theorem callsAt_succ {h : Harness σ} {s after : Session σ} {tc : TestCase} {result : CaseResult}
    (first : h.step s tc = (after, some result)) (rest : List TestCase) (index : Nat)
    : h.callsAt s (tc :: rest) (index + 1) = h.callsAt after rest index := by
  simp only [callsAt, List.getElem?_cons_succ, List.take_succ_cons, sessionAfter_cons first]

/-- The calls of some cases are those of the first one, and after the step that records its result
those of the others.
-/
theorem flatMap_callsAt_succ {h : Harness σ} {s after : Session σ} {tc : TestCase}
    {result : CaseResult} (first : h.step s tc = (after, some result)) (rest : List TestCase)
    (count : Nat)
    : (List.range (count + 1)).flatMap (h.callsAt s (tc :: rest))
      = h.callsFor s tc ++ (List.range count).flatMap (h.callsAt after rest) := by
  rw [List.range_succ_eq_map, List.flatMap_cons, List.flatMap_map]
  simp only [callsAt_succ first]
  rfl

/-- The calls that belong to a case do not depend on the cases at the end of the list. -/
theorem callsAt_append (h : Harness σ) (s : Session σ) {cases : List TestCase} {index : Nat}
    (within : index < cases.length) (rest : List TestCase)
    : h.callsAt s (cases ++ rest) index = h.callsAt s cases index := by
  rw [callsAt, callsAt, List.getElem?_append_left within,
    List.take_append_of_le_length (Nat.le_of_lt within)]

/-- Steps note the calls of their cases in order, by induction over the steps. -/
theorem Steps.recording {h : Harness σ} {s final : Session σ} {ran : List TestCase}
    {results : List CaseResult} (steps : h.Steps s ran results final)
    (noted : List (Exchange σ)) (rest : List TestCase)
    : h.recording.Steps (s.noting noted) ran results
        (final.noting
          (noted ++ (List.range ran.length).flatMap (h.callsAt s (ran ++ rest)))) := by
  induction steps generalizing noted with
  | done s => simpa using Steps.done (h := h.recording) (s.noting noted)
  | @next s after final tc result cases results first _ ih =>
      have noting : h.recording.step (s.noting noted) tc
          = (after.noting (noted ++ h.callsFor s tc), some result) := by
        rw [step_recording, first, stepCalls_of_step_some first]
      have later := ih (noted ++ h.callsFor s tc)
      rw [List.length_cons, List.cons_append, flatMap_callsAt_succ first, ← List.append_assoc]
      exact .next noting later

/-- The calls of the case in which a run is stopped; none if it comes to its end. -/
def callsInFlight (h : Harness σ) (reached : Session σ) : List TestCase → List (Exchange σ)
  | [] => []
  | tc :: _ => h.stepCalls reached tc

/-- A finish notes the calls of the case in flight. -/
theorem Finish.recording {h : Harness σ} {reached : Session σ} {tally : Tally}
    {rest : List TestCase} {out : Session σ × Tally × Bool}
    (finish : h.Finish reached tally rest out) (noted : List (Exchange σ))
    : h.recording.runCases (reached.noting noted) tally rest
      = (out.1.noting (noted ++ h.callsInFlight reached rest), out.2) := by
  cases finish with
  | complete => simp [callsInFlight, runCases]
  | @stopped tc rest none =>
      rw [runCases_cons, step_recording, none]
      rfl

/-- The ending with the calls that have been noted. -/
def Ending.noting (ending : Ending σ) (noted : List (Exchange σ))
    : Ending (σ × List (Exchange σ)) where
  session := ending.session.noting noted
  tally := ending.tally
  fault := ending.fault

/-- The closing line of the log does not depend on the noted calls. -/
theorem ending_recording (h : Harness σ) (out : Session σ × Tally × Bool)
    (noted : List (Exchange σ))
    : h.recording.ending (out.1.noting noted, out.2) = (h.ending out).noting noted := by
  obtain ⟨after, tally, cut⟩ := out
  cases cut <;> rfl

/-- A run that comes to its cases notes the calls of the cases it records, in order, and then
those of the case in flight.
-/
theorem run_recording_of_steps {h : Harness σ} {s reached : Session σ} {tree : FileTree}
    {ran rest : List TestCase} {results : List CaseResult}
    (reset : Scratch.reset s.tree h.config.layout.scratch = (tree, none))
    (found : Discovery.discover tree h.config.layout h.selects = .ok (ran ++ rest))
    (steps : h.Steps (h.opening s tree (ran ++ rest)) ran results reached)
    (finish
      : h.Finish reached (Tally.empty.recordAll results) rest
          (h.runCases (h.opening s tree (ran ++ rest)) .empty (ran ++ rest)))
    : h.recording.run (s.noting [])
      = (h.run s).noting
          ((List.range ran.length).flatMap
              (h.callsAt (h.opening s tree (ran ++ rest)) (ran ++ rest))
            ++ h.callsInFlight reached rest) := by
  have noting := (steps.recording [] rest).runCases_append .empty rest
  rw [finish.recording, List.nil_append] at noting
  rw [run_eq_ending reset found, ← ending_recording, ← noting]
  exact run_eq_ending (h := h.recording) (s := s.noting []) reset found

/-- A run that notes its calls ends as the run itself does. Witness: the steps, the finish and the
lines of the log are the same, and before the cases nothing is called.
-/
theorem run_recording (h : Harness σ) (s : Session σ)
    : h.recording.run (s.noting []) = (h.run s).noting (h.calls s) := by
  have transparent : ∃ noted, h.recording.run (s.noting []) = (h.run s).noting noted := by
    cases reset : Scratch.reset s.tree h.config.layout.scratch with
    | mk tree failure =>
        cases failure with
        | some fault => exact ⟨[], by simp only [run, recording, Session.tree_noting, reset]; rfl⟩
        | none =>
            cases found : Discovery.discover tree h.config.layout h.selects with
            | error fault =>
                exact ⟨[], by simp only [run, recording, Session.tree_noting, reset, found]; rfl⟩
            | ok cases =>
                obtain ⟨ran, rest, results, reached, rfl, steps, finish⟩ :=
                  h.runCases_steps (h.opening s tree cases) .empty cases
                exact ⟨_, run_recording_of_steps reset found steps finish⟩
  obtain ⟨noted, same⟩ := transparent
  have listed : h.calls s = noted := by
    rw [calls, same]
    rfl
  rw [listed, same]

/-- The calls of a run that comes to its cases. -/
theorem calls_of_steps {h : Harness σ} {s reached : Session σ} {tree : FileTree}
    {ran rest : List TestCase} {results : List CaseResult}
    (reset : Scratch.reset s.tree h.config.layout.scratch = (tree, none))
    (found : Discovery.discover tree h.config.layout h.selects = .ok (ran ++ rest))
    (steps : h.Steps (h.opening s tree (ran ++ rest)) ran results reached)
    (finish
      : h.Finish reached (Tally.empty.recordAll results) rest
          (h.runCases (h.opening s tree (ran ++ rest)) .empty (ran ++ rest)))
    : h.calls s
      = (List.range ran.length).flatMap
          (h.callsAt (h.opening s tree (ran ++ rest)) (ran ++ rest))
        ++ h.callsInFlight reached rest := by
  rw [calls, run_recording_of_steps reset found steps finish]
  rfl

end Harness

end GoldenSuite

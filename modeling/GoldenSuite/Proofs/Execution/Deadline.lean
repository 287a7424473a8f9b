import GoldenSuite.Proofs.Execution.Classification
import GoldenSuite.Proofs.FileTree.Straight

/-! What is reported when the time of a program is up before it has ended. Once its process has been
started, this is a timeout and nothing else. If the time is up before that, the process is not
started, and the report cannot be told from that of a program that cannot be launched.
-/

namespace GoldenSuite

-----------------------------------------------------------------------------------------
-- Attempts whose time is up
-----------------------------------------------------------------------------------------

/-- The time of an attempt is up before its process has ended, the caller has not asked for
anything, and nothing but the time has kept the process from being started.
-/
structure Attempt.Overdue (attempt : Attempt) : Prop where
  late : attempt.halted = some .deadlineExceeded
  unasked : attempt.asked = none
  startable : ∀ cause, attempt.process = .error cause → cause = .mark .deadlineExceeded

namespace Attempt.Overdue

variable {attempt : Attempt} {timeout : Duration}

/-- An overdue process is reported as one that timed out, with what it has printed. -/
theorem ofAttempt_of_started {remains : Remains} (overdue : attempt.Overdue)
    (limited : 0 < timeout.ns) (started : attempt.process = .ok remains) (machine : String)
    : Execution.ofAttempt machine timeout attempt
      = ({ Execution.ofRemains remains with timedOut := true }, none) := by
  simp [Execution.ofAttempt, started, limited, overdue.late, overdue.unasked]

/-- A process that was overdue before its start is reported as not launched. -/
theorem ofAttempt_of_refused {cause : Fault} (overdue : attempt.Overdue)
    (refused : attempt.process = .error cause) (machine : String) (timeout : Duration)
    : Execution.ofAttempt machine timeout attempt
      = (.notStarted, some (.launch machine (.mark .deadlineExceeded))) := by
  obtain rfl := overdue.startable cause refused
  simp [Execution.ofAttempt, refused]

end Attempt.Overdue

-----------------------------------------------------------------------------------------
-- The executor of processes
-----------------------------------------------------------------------------------------

namespace Host

/-- A command that could be started is refused for the reason not to start anything. -/
theorem start_of_late {tree : FileTree} {command argument : String} {image : Image}
    (startable : start tree none command argument = .ok image) (mark : Mark)
    : start tree (some mark) command argument = .error (.mark mark) := by
  unfold start at startable ⊢
  split at startable
  · cases startable
  · rename_i none
    cases none
  · rename_i resolved _
    simp only [resolved]

/-- A process has been ended by its time limit: it would have gone on, and did not ask its caller to
stop.
-/
def Aftermath.EndsLate (after : Aftermath) : Prop :=
  after.isEndless = true ∧ after.world.raised.isEmpty = true

/-- A startable command whose time is up before its process can be started, or before the process
has ended, is answered with the report of an overdue attempt. There is a process exactly in the
second case.
-/
theorem exists_overdue {machine : String} {timeout : Duration} {invocation : Invocation}
    {tree : FileTree} {image : Image}
    (startable : start tree none machine invocation.program = .ok image)
    (late
      : isLateAtStart timeout = true
        ∨ (aftermath timeout .patient invocation.stdin tree image).EndsLate)
    : ∃ attempt : Attempt,
        attempt.Overdue
        ∧ ((executor machine timeout invocation tree false .patient).execution,
            (executor machine timeout invocation tree false .patient).fault)
          = Execution.ofAttempt machine timeout attempt
        ∧ ((∃ remains, attempt.process = .ok remains) ↔ isLateAtStart timeout = false) := by
  cases early : isLateAtStart timeout with
  | true =>
      have reason : lateness timeout false = some .deadlineExceeded := by simp [lateness, early]
      have refused := start_of_late startable .deadlineExceeded
      rw [← reason] at refused
      refine ⟨_, ⟨reason, rfl, ?_⟩, (executor_of_refused refused .patient).1, ?_⟩
      · intro cause same
        exact (Except.error.inj same).symm
      · simp [refusedAttempt]
  | false =>
      have reason : lateness timeout false = none := by simp [lateness, early]
      rw [← reason] at startable
      obtain ⟨endless, quiet⟩ := late.resolve_left (by simp [early])
      have timeUp
          : (aftermath timeout .patient invocation.stdin tree image).isTimeUp timeout .patient
            = true := by
        have never : earlier (deadline? timeout) Caller.patient.stopsAfter = deadline? timeout := by
          cases deadline? timeout <;> rfl
        simp [Aftermath.isTimeUp, endless, quiet, never]
      have unasked
          : (aftermath timeout .patient invocation.stdin tree image).isAsked timeout .patient
            = false := by
        simp [Aftermath.isAsked, quiet, timeUp]
      refine ⟨_, ⟨?_, ?_, ?_⟩, (executor_of_started startable .patient).1, ?_⟩
      · simp [Aftermath.attempt, timeUp]
      · simp [Aftermath.attempt, unasked]
      · intro cause refused
        cases refused
      · simp [Aftermath.attempt]

end Host

-----------------------------------------------------------------------------------------
-- Cases whose time is up
-----------------------------------------------------------------------------------------

namespace Harness

variable {σ : Type} {h : Harness σ} {s : Session σ} {tc : TestCase} {machine : String}
  {timeout : Duration}

/-- A case whose process was not started is a failure of the launch. -/
theorem Tries.runCase_of_refused {attempt : Attempt} {call : Exchange σ} {tree : FileTree}
    {cause : Fault} (tries : h.Tries s tc machine timeout attempt call)
    (refused : attempt.process = .error cause) (unasked : h.Unasked s tc)
    (wrote : call.reply.tree.writeFile tc.actual call.reply.execution.stdout = .ok tree)
    : ∃ after result,
        h.runCase s tc = (after, some result)
        ∧ after.tree = tree
        ∧ result.kind = .launchFailure := by
  obtain ⟨after, result, ran, left, kind, _⟩ := tries.runCase unasked wrote
  refine ⟨after, result, ran, left, ?_⟩
  rw [kind]
  simp [Execution.ofAttempt, refused, FailureKind.priority, FailureKind.firstOf, Fault.has]

/-- A case whose time is up is recorded as a timeout exactly if its process was started. The report
of an attempt that was overdue after the start says that the time was up, names no signal and no
fault, and keeps what was printed; the case is of the kind timeout if its output can be written and
nothing asks the run to stop. If the time was up before the start, the report is that of a program
that cannot be launched, and so is the kind of the case. The executor of processes answers with the
report of an overdue attempt whenever the time of a command that can be started is up, and there is a
process unless that was before the start.
-/
theorem runCase_overdue (limited : 0 < timeout.ns)
    : (∀ attempt call tree,
        attempt.Overdue
        → h.Tries s tc machine timeout attempt call
        → (∀ remains,
            attempt.process = .ok remains
            → call.reply.execution.timedOut = true
              ∧ call.reply.execution.signal = none
              ∧ call.reply.execution.stdout = remains.stdout
              ∧ call.reply.fault = none
              ∧ (h.Unasked s tc
                → call.reply.tree.writeFile tc.actual call.reply.execution.stdout = .ok tree
                → ∃ after result,
                    h.runCase s tc = (after, some result) ∧ result.kind = .timeout))
          ∧ ∀ cause,
              attempt.process = .error cause
              → call.reply.execution = .notStarted
                ∧ call.reply.fault = some (.launch machine (.mark .deadlineExceeded))
                ∧ (h.Unasked s tc
                  → call.reply.tree.writeFile tc.actual call.reply.execution.stdout = .ok tree
                  → ∃ after result,
                      h.runCase s tc = (after, some result) ∧ result.kind = .launchFailure))
      ∧ ∀ (invocation : Invocation) (tree : FileTree) (image : Host.Image),
          Host.start tree none machine invocation.program = .ok image
          → (Host.isLateAtStart timeout = true
            ∨ (Host.aftermath timeout .patient invocation.stdin tree image).EndsLate)
          → ∃ attempt : Attempt,
              attempt.Overdue
              ∧ ((Host.executor machine timeout invocation tree false .patient).execution,
                  (Host.executor machine timeout invocation tree false .patient).fault)
                = Execution.ofAttempt machine timeout attempt
              ∧ ((∃ remains, attempt.process = .ok remains)
                ↔ Host.isLateAtStart timeout = false) := by
  refine ⟨?_, fun _ _ _ => Host.exists_overdue⟩
  intro attempt call tree overdue tries
  refine ⟨?_, ?_⟩
  · intro remains started
    have report := overdue.ofAttempt_of_started limited started machine
    obtain ⟨execution, fault⟩ := Prod.mk.inj (tries.reported.trans report)
    refine ⟨by rw [execution], by rw [execution]; rfl, by rw [execution]; rfl, fault, ?_⟩
    intro unasked wrote
    obtain ⟨after, result, ran, _, kind, _⟩ := tries.runCase unasked wrote
    refine ⟨after, result, ran, ?_⟩
    rw [kind, report]
    simp [FailureKind.priority, FailureKind.firstOf]
  · intro cause refused
    have report := overdue.ofAttempt_of_refused refused machine timeout
    obtain ⟨execution, fault⟩ := Prod.mk.inj (tries.reported.trans report)
    refine ⟨execution, fault, ?_⟩
    intro unasked wrote
    obtain ⟨after, result, ran, _, kind⟩ := tries.runCase_of_refused refused unasked wrote
    exact ⟨after, result, ran, kind⟩

/-- A process that was killed at its time limit once it had printed the letter A. -/
def slowAttempt : Attempt where
  process := .ok ⟨[65], .killed ⟨9⟩, ⟨1⟩, some (.ended (.killed ⟨9⟩))⟩
  halted := some .deadlineExceeded
  asked := none

/-- A harness under which every program is as slow as that. -/
def stalling : Harness Unit :=
  answering (fun _ _ => Execution.ofAttempt "m" ⟨1⟩ slowAttempt) true fun _ => false

/-- A program that is killed at its time limit is recorded as a timeout, though it has printed its
reference.
-/
theorem runCase_overdue_slowAttempt
    : (0 : Int64) < 1
      ∧ slowAttempt.Overdue
      ∧ stalling.Unasked (.start soloSuiteReset () false) (soloCase "o/a.txt")
      ∧ soloSuiteReset.writeFile "s/a.txt" [65] = .ok soloSuiteWritten
      ∧ ∃ after result,
          stalling.runCase (.start soloSuiteReset () false) (soloCase "o/a.txt")
            = (after, some result)
          ∧ result.kind = .timeout := by
  have overdue : slowAttempt.Overdue := ⟨rfl, rfl, fun cause refused => by cases refused⟩
  have unasked : stalling.Unasked (.start soloSuiteReset () false) (soloCase "o/a.txt") :=
    (answering_undisturbed _ _).unasked rfl _
  have tries
      : stalling.Tries (.start soloSuiteReset () false) (soloCase "o/a.txt") "m" ⟨1⟩ slowAttempt
          (stalling.exchange (.start soloSuiteReset () false) ⟨"v/a.v", none⟩) :=
    ⟨rfl, rfl⟩
  have wrote := soloSuite_written.2.1
  obtain ⟨_, _, _, _, recorded⟩ := ((runCase_overdue (by decide)).1 _ _ _ overdue tries).1 _ rfl
  exact ⟨by decide, overdue, unasked, wrote, recorded unasked wrote⟩

-----------------------------------------------------------------------------------------
-- A time limit that is over before the start
-----------------------------------------------------------------------------------------

/-- A suite on a system with a shell. -/
def shellSuite : FileTree where
  nodes := (["bin"], .directory) :: (["bin", "sh"], .program "sh") :: soloSuiteReset.nodes
  home := []

/-- A harness that runs programs in the shell and gives them one nanosecond. -/
def impatient : Harness Host.Caller where
  config := { Config.default with layout := Discovery.shortLayout, timeout := ⟨1⟩ }
  logger := { threshold := .warn, colors := false, clock := "" }
  selects := fun _ => true
  executor := Host.executor "/bin/sh" ⟨1⟩
  reporter := ⟨false, false⟩
  interrupts := fun _ => false

/-- The shell of the suite can be started on its program. -/
theorem shellSuite_startable
    : ∃ image, Host.start shellSuite none "/bin/sh" "v/a.v" = .ok image := by
  have accepted : FileTree.IsAccepted "/bin/sh" :=
    ⟨by decide, by decide, by decide, by decide⟩
  have steps : FileTree.stepsOf "/bin/sh" = ["bin", "sh"] := by decide
  have root : FileTree.startOf shellSuite.home "/bin/sh" = [] := by decide
  have located : shellSuite.locate true "/bin/sh" = .ok ["bin", "sh"] := by
    rw [accepted.locate_eq, steps, root]
    cbv
  have found : shellSuite.look true "/bin/sh" = .ok (["bin", "sh"], .program "sh") :=
    FileTree.look_eq_ok_iff.mpr ⟨located, by decide⟩
  have resolved : Host.resolveCommand shellSuite "/bin/sh" = .ok "/bin/sh" := by decide
  simp [Host.start, resolved, Host.load, Host.interpreterDepth, found]

/-- A program that could be started, but whose time is up before that, is not reported as timed out:
the report is that of a failure of the launch, and so is the kind of the case, though the output is
written and nothing asks the run to stop.
-/
theorem runCase_overdue_before_start
    : (∃ image, Host.start shellSuite none "/bin/sh" "v/a.v" = .ok image)
      ∧ impatient.Unasked (.start shellSuite .patient false) (soloCase "o/a.txt")
      ∧ (Host.executor "/bin/sh" ⟨1⟩ ⟨"v/a.v", none⟩ shellSuite false .patient).execution.timedOut
        = false
      ∧ (Host.executor "/bin/sh" ⟨1⟩ ⟨"v/a.v", none⟩ shellSuite false .patient).fault
        = some (.launch "/bin/sh" (.mark .deadlineExceeded))
      ∧ ∃ after result,
          impatient.runCase (.start shellSuite .patient false) (soloCase "o/a.txt")
            = (after, some result)
          ∧ shellSuite.writeFile "s/a.txt" [] = .ok after.tree
          ∧ result.kind = .launchFailure := by
  obtain ⟨image, startable⟩ := shellSuite_startable
  have refused
      : Host.start shellSuite (Host.lateness ⟨1⟩ false) "/bin/sh"
          (Invocation.program ⟨"v/a.v", none⟩)
        = .error (.mark .deadlineExceeded) :=
    Host.start_of_late startable .deadlineExceeded
  obtain ⟨reported, unchanged, quiet⟩ := Host.executor_of_refused refused .patient
  obtain ⟨execution, fault⟩ := Prod.mk.inj reported
  have unasked : impatient.Unasked (.start shellSuite .patient false) (soloCase "o/a.txt") := by
    refine ⟨rfl, fun _ => rfl, ?_⟩
    intro call member
    obtain rfl := List.mem_singleton.mp member
    exact quiet
  have tries
      : impatient.Tries (.start shellSuite .patient false) (soloCase "o/a.txt") "/bin/sh" ⟨1⟩
          (Host.refusedAttempt ⟨1⟩ false (.mark .deadlineExceeded))
          (impatient.exchange (.start shellSuite .patient false) ⟨"v/a.v", none⟩) :=
    ⟨rfl, reported⟩
  have wrote
      : shellSuite.writeFile "s/a.txt" []
        = .ok (shellSuite.put ["s", "a.txt"] (.file [] FileTree.plainMode)) := by
    have led : shellSuite.locate true "s/a.txt" = .ok ["s", "a.txt"] :=
      (locate_soloPaths shellSuite).2.2.trans (by cbv)
    have missing : shellSuite.find? ["s", "a.txt"] = none := by decide
    simp only [FileTree.writeFile, led, missing]
  have kept
      : (Host.executor "/bin/sh" ⟨1⟩ ⟨"v/a.v", none⟩ shellSuite false .patient).tree.writeFile
            "s/a.txt"
            (Host.executor "/bin/sh" ⟨1⟩ ⟨"v/a.v", none⟩ shellSuite false
              .patient).execution.stdout
        = .ok (shellSuite.put ["s", "a.txt"] (.file [] FileTree.plainMode)) := by
    rw [unchanged, execution]
    exact wrote
  obtain ⟨after, result, ran, left, kind⟩ := tries.runCase_of_refused rfl unasked kept
  refine ⟨⟨image, startable⟩, unasked, by rw [execution]; rfl, fault, after, result, ran, ?_, kind⟩
  rw [left, wrote]

end Harness

end GoldenSuite

import GoldenSuite.Host.Executor
import GoldenSuite.Proofs.Run.Priority

/-! How an attempt to run a process is reported, and what becomes of the report. Whatever the start,
the wait, the clock and the caller came to, the report shows exactly one of six fates, and the
fate decides the kind of failure that a case is recorded with.
-/

namespace GoldenSuite

-----------------------------------------------------------------------------------------
-- Faults from outside
-----------------------------------------------------------------------------------------

/-- The marks that only a run itself puts on faults. -/
def Mark.isOwn : Mark → Bool
  | .missingReference | .launch | .filesystem => true
  | .canceled | .deadlineExceeded | .notExist | .outputHeld => false

/-- A fault that carries none of the run's own marks. -/
def Fault.Foreign (fault : Fault) : Prop :=
  ∀ mark : Mark, mark.isOwn = true → fault.has mark = false

/-- An attempt whose faults of starting and waiting come from outside. -/
structure Attempt.Foreign (attempt : Attempt) : Prop where
  start : ∀ cause, attempt.process = .error cause → cause.Foreign
  wait
    : ∀ remains cause,
        attempt.process = .ok remains → remains.fault = some cause → cause.Foreign

-----------------------------------------------------------------------------------------
-- Fates of an attempt
-----------------------------------------------------------------------------------------

/-- What can become of an attempt to run a process. -/
inductive Fate where
  | notStarted (cause : Fault)
  | timedOut
  /-- The caller asked to stop. -/
  | stopped (mark : Mark)
  /-- Waiting failed for more than how the process ended. -/
  | unawaited (cause : Fault)
  | killed (signal : Signal)
  | exited (code : Nat)
deriving DecidableEq

namespace Fate

/-- The time limit of an attempt is over. -/
def IsLate (timeout : Duration) (attempt : Attempt) : Prop :=
  0 < timeout.ns ∧ attempt.halted = some .deadlineExceeded

/-- When an attempt meets a fate. -/
inductive Befalls (timeout : Duration) (attempt : Attempt) : Fate → Prop
  | notStarted {cause : Fault} (refused : attempt.process = .error cause)
    : Befalls timeout attempt (.notStarted cause)
  | timedOut {remains : Remains} (started : attempt.process = .ok remains)
    (unasked : attempt.asked = none) (late : IsLate timeout attempt)
    : Befalls timeout attempt .timedOut
  | stopped {remains : Remains} {mark : Mark} (started : attempt.process = .ok remains)
    (asked : attempt.asked = some mark)
    : Befalls timeout attempt (.stopped mark)
  | unawaited {remains : Remains} {cause : Fault} (started : attempt.process = .ok remains)
    (unasked : attempt.asked = none) (inTime : ¬IsLate timeout attempt)
    (failed : remains.fault = some cause) (serious : Execution.isOrdinary cause = false)
    : Befalls timeout attempt (.unawaited cause)
  | killed {remains : Remains} {signal : Signal} (started : attempt.process = .ok remains)
    (unasked : attempt.asked = none) (inTime : ¬IsLate timeout attempt)
    (ordinary : remains.fault.all Execution.isOrdinary = true)
    (status : remains.status = .killed signal)
    : Befalls timeout attempt (.killed signal)
  | exited {remains : Remains} {code : Nat} (started : attempt.process = .ok remains)
    (unasked : attempt.asked = none) (inTime : ¬IsLate timeout attempt)
    (ordinary : remains.fault.all Execution.isOrdinary = true)
    (status : remains.status = .exited code)
    : Befalls timeout attempt (.exited code)

/-- What a report shows of a fate. A process that was not started leaves nothing behind but the
cause inside a fault of the launch, and a fault of waiting is never one of the launch; only a
process that timed out says so, and only one that was killed otherwise names its signal.
-/
def Shows (machine : String) (execution : Execution) (fault : Option Fault) : Fate → Prop
  | .notStarted cause =>
      fault = some (.launch machine cause)
      ∧ execution.exitCode = -1
      ∧ execution.stdout = []
      ∧ execution.timedOut = false
      ∧ execution.signal = none
  | .timedOut => fault = none ∧ execution.timedOut = true ∧ execution.signal = none
  | .stopped mark =>
      fault = some (.mark mark) ∧ execution.timedOut = false ∧ execution.signal = none
  | .unawaited cause =>
      fault = some (.context ("waiting for " ++ machine ++ ": ") cause)
      ∧ cause.has .launch = false
      ∧ execution.timedOut = false
      ∧ execution.signal = none
  | .killed signal =>
      fault = none
      ∧ execution.signal = some signal
      ∧ execution.exitCode = -1
      ∧ execution.timedOut = false
  | .exited code =>
      fault = none
      ∧ execution.exitCode = code
      ∧ execution.signal = none
      ∧ execution.timedOut = false

/-- The fate that a report can be read as: faults are told apart by what they are made of. -/
def told? (execution : Execution) : Option Fault → Option Fate
  | some (.launch _ cause) => some (.notStarted cause)
  | some (.mark mark) => some (.stopped mark)
  | some (.context _ cause) => some (.unawaited cause)
  | some _ => none
  | none =>
      if execution.timedOut then some .timedOut
      else
        match execution.signal with
        | some signal => some (.killed signal)
        | none => some (.exited execution.exitCode.toNat)

/-- A report is read as the fate that it shows. -/
theorem Shows.told?_eq {machine : String} {execution : Execution} {fault : Option Fault}
    {fate : Fate} (shown : fate.Shows machine execution fault)
    : told? execution fault = some fate := by
  cases fate with
  | notStarted cause => simp [shown.1, told?]
  | timedOut => simp [shown.1, shown.2.1, told?]
  | stopped mark => simp [shown.1, told?]
  | unawaited cause => simp [shown.1, told?]
  | killed signal => simp [shown.1, shown.2.1, shown.2.2.2, told?]
  | exited code => simp [shown.1, shown.2.1, shown.2.2.1, shown.2.2.2, told?]

section Attempts

variable {timeout : Duration} {attempt : Attempt}

/-- Every attempt meets some fate: the start, the caller's request, the time limit, the wait
and the status are asked in turn.
-/
theorem exists_befalls (timeout : Duration) (attempt : Attempt)
    : ∃ fate, Befalls timeout attempt fate := by
  cases started : attempt.process with
  | error cause => exact ⟨_, .notStarted started⟩
  | ok remains =>
      cases asked : attempt.asked with
      | some mark => exact ⟨_, .stopped started asked⟩
      | none =>
          by_cases late : IsLate timeout attempt
          · exact ⟨_, .timedOut started asked late⟩
          · by_cases ordinary : remains.fault.all Execution.isOrdinary = true
            · cases status : remains.status with
              | exited code => exact ⟨_, .exited started asked late ordinary status⟩
              | killed signal => exact ⟨_, .killed started asked late ordinary status⟩
            · cases failed : remains.fault with
              | none => simp [failed] at ordinary
              | some cause =>
                  have serious : Execution.isOrdinary cause = false := by
                    simpa [failed] using ordinary
                  exact ⟨_, .unawaited started asked late failed serious⟩

/-- A report of a process that ended in time, of its own or by a signal, names no fault. -/
theorem ofAttempt_of_ordinary {machine : String} {remains : Remains}
    (started : attempt.process = .ok remains) (unasked : attempt.asked = none)
    (inTime : ¬IsLate timeout attempt)
    (ordinary : remains.fault.all Execution.isOrdinary = true)
    : Execution.ofAttempt machine timeout attempt
      = ({ Execution.ofRemains remains with signal := remains.status.signal? }, none) := by
  have early : (0 < timeout.ns && attempt.halted = some .deadlineExceeded) = false := by
    simpa [IsLate] using inTime
  cases failed : remains.fault with
  | none => simp [Execution.ofAttempt, started, early, unasked, failed]
  | some cause =>
      have kept : Execution.isOrdinary cause = true := by simpa [failed] using ordinary
      simp [Execution.ofAttempt, started, early, unasked, failed, kept]

/-- The report of an attempt shows the fate that it has met. -/
theorem Befalls.ofAttempt_shows {fate : Fate} (befalls : Befalls timeout attempt fate)
    (foreign : attempt.Foreign) (machine : String)
    : fate.Shows machine (Execution.ofAttempt machine timeout attempt).1
        (Execution.ofAttempt machine timeout attempt).2 := by
  cases befalls with
  | notStarted refused => simp [Execution.ofAttempt, refused, Shows, Execution.notStarted]
  | timedOut started unasked late =>
      simp [Execution.ofAttempt, started, unasked, late.1, late.2, Shows, Execution.ofRemains]
  | stopped started asked =>
      simp [Execution.ofAttempt, started, asked, Shows, Execution.ofRemains]
  | @unawaited remains cause started unasked inTime failed serious =>
      have early : (0 < timeout.ns && attempt.halted = some .deadlineExceeded) = false := by
        simpa [IsLate] using inTime
      have unlaunched : cause.has .launch = false := foreign.wait remains cause started failed _ rfl
      simp [Execution.ofAttempt, started, unasked, early, failed, serious, Shows,
        Execution.ofRemains, unlaunched]
  | killed started unasked inTime ordinary status =>
      rw [ofAttempt_of_ordinary started unasked inTime ordinary]
      simp [Shows, Execution.ofRemains, status, WaitStatus.signal?, WaitStatus.exitCode]
  | exited started unasked inTime ordinary status =>
      rw [ofAttempt_of_ordinary started unasked inTime ordinary]
      simp [Shows, Execution.ofRemains, status, WaitStatus.signal?, WaitStatus.exitCode]

end Attempts

end Fate

-----------------------------------------------------------------------------------------
-- Fates and kinds of failure
-----------------------------------------------------------------------------------------

/-- What comparing an output with what was read of its reference comes to. -/
def FailureKind.compared (reference : Except Fault Bytes) (output : Bytes) : FailureKind :=
  match reference with
  | .error cause => if cause.has .notExist then .missingReference else .filesystemFailure
  | .ok expected => if output = expected then .none else .outputMismatch

/-- The kind of failure that a fate is recorded with, if its output compares so with the
reference. A process that was killed has no exit status to accept.
-/
def Fate.kind (strictExit : Bool) (compared : FailureKind) : Fate → FailureKind
  | .notStarted _ => .launchFailure
  | .timedOut => .timeout
  | .stopped _ => .launchFailure
  | .unawaited _ => .launchFailure
  | .killed _ => if strictExit && compared = .none then .nonZeroExit else compared
  | .exited code =>
      if strictExit && compared = .none && code ≠ 0 then .nonZeroExit else compared

/-- Without a fault and in time, a process is judged by its output, and then by its exit status. -/
theorem FailureKind.firstOf_priority_of_ended {execution : Execution}
    (inTime : execution.timedOut = false) (strictExit : Bool) (reference : Except Fault Bytes)
    (output : Bytes)
    : firstOf (priority strictExit execution Option.none reference output)
      = if strictExit && compared reference output = .none && execution.exitCode ≠ 0 then
          .nonZeroExit
        else compared reference output := by
  cases reference with
  | error cause =>
      by_cases missing : cause.has .notExist = true
      · simp [firstOf, priority, inTime, unread, compared, missing]
      · simp [firstOf, priority, inTime, unread, compared, missing]
  | ok expected =>
      by_cases same : output = expected
      · subst same
        have equal : output.differ output = false := Bytes.differ_eq_false_iff.mpr rfl
        simp [firstOf, priority, inTime, unread, unequal, compared, equal]
      · have unlike : output.differ expected = true := by
          rw [← Bool.not_eq_false, Bytes.differ_eq_false_iff]
          exact same
        simp [firstOf, priority, inTime, unread, unequal, compared, same, unlike]

/-- The fate of an attempt decides the kind of failure of its report. -/
theorem Fate.Befalls.firstOf_priority {timeout : Duration} {attempt : Attempt}
    {fate : Fate} (befalls : Befalls timeout attempt fate) (foreign : attempt.Foreign)
    (unasked : attempt.asked = none) (machine : String) (strictExit : Bool)
    (reference : Except Fault Bytes) (output : Bytes)
    : FailureKind.firstOf
        (FailureKind.priority strictExit (Execution.ofAttempt machine timeout attempt).1
          (Execution.ofAttempt machine timeout attempt).2 reference output)
      = fate.kind strictExit (.compared reference output) := by
  have shown := befalls.ofAttempt_shows foreign machine
  generalize (Execution.ofAttempt machine timeout attempt).1 = execution at shown ⊢
  generalize (Execution.ofAttempt machine timeout attempt).2 = fault at shown ⊢
  cases befalls with
  | notStarted refused =>
      obtain ⟨rfl, _⟩ := shown
      simp [FailureKind.priority, FailureKind.firstOf, Fault.has, Fate.kind]
  | timedOut started _ late =>
      obtain ⟨rfl, timedOut, _⟩ := shown
      simp [FailureKind.priority, FailureKind.firstOf, timedOut, Fate.kind]
  | stopped started asked =>
      rw [unasked] at asked
      cases asked
  | @unawaited remains cause started _ inTime failed serious =>
      obtain ⟨rfl, unlaunched, _⟩ := shown
      have unmarked : cause.has .filesystem = false := foreign.wait remains cause started failed _ rfl
      simp [FailureKind.priority, FailureKind.firstOf, Fault.has, unlaunched, unmarked,
        Fate.kind]
  | killed started _ inTime ordinary status =>
      obtain ⟨rfl, _, exitCode, timely⟩ := shown
      rw [FailureKind.firstOf_priority_of_ended timely]
      simp [exitCode, Fate.kind]
  | exited started _ inTime ordinary status =>
      obtain ⟨rfl, exitCode, _, timely⟩ := shown
      rw [FailureKind.firstOf_priority_of_ended timely]
      simp [exitCode, Fate.kind]

-----------------------------------------------------------------------------------------
-- Cases that are answered with the report of an attempt
-----------------------------------------------------------------------------------------

namespace Harness

variable {σ : Type} {h : Harness σ} {s : Session σ} {tc : TestCase}

/-- The one call of a case is answered with the report of an attempt. -/
structure Tries (h : Harness σ) (s : Session σ) (tc : TestCase) (machine : String)
    (timeout : Duration) (attempt : Attempt) (call : Exchange σ)
    : Prop where
  called : h.callsFor s tc = [call]
  reported
    : (call.reply.execution, call.reply.fault) = Execution.ofAttempt machine timeout attempt

/-- A case whose output is written comes to what its call was answered with. -/
theorem Executed.of_written {tree left : FileTree} {execution : Execution} {fault : Option Fault}
    {call : Exchange σ} (executed : h.Executed s tc left execution fault)
    (called : h.callsFor s tc = [call])
    (wrote : call.reply.tree.writeFile tc.actual call.reply.execution.stdout = .ok tree)
    : left = tree ∧ execution = call.reply.execution ∧ fault = call.reply.fault := by
  cases executed with
  | unopened refused =>
      rw [callsFor_eq_openInput, refused] at called
      cases called
  | written again wrote' =>
      obtain rfl := List.singleton_inj.mp (again.symm.trans called)
      exact ⟨Except.ok.inj (wrote'.symm.trans wrote), rfl, rfl⟩
  | unwritten again refused =>
      obtain rfl := List.singleton_inj.mp (again.symm.trans called)
      exact absurd (refused.symm.trans wrote) (by simp)

/-- A case that is answered with the report of an attempt is recorded with the first kind that
applies to the report.
-/
theorem Tries.runCase {machine : String} {timeout : Duration} {attempt : Attempt}
    {call : Exchange σ} {tree : FileTree} (tries : h.Tries s tc machine timeout attempt call)
    (unasked : h.Unasked s tc)
    (wrote : call.reply.tree.writeFile tc.actual call.reply.execution.stdout = .ok tree)
    : ∃ after result,
        h.runCase s tc = (after, some result)
        ∧ after.tree = tree
        ∧ result.kind
          = .firstOf
              (FailureKind.priority h.config.strictExit
                (Execution.ofAttempt machine timeout attempt).1
                (Execution.ofAttempt machine timeout attempt).2 (tree.readFile tc.reference)
                (tree.kept tc.actual call.reply.execution.stdout))
        ∧ (result.verdict = .pass ↔ result.kind = .none)
        ∧ result.exitCode = call.reply.execution.exitCode
        ∧ result.signal = call.reply.execution.signal := by
  obtain ⟨after, result, ran, _⟩ := unasked.runCase
  obtain ⟨execution, fault, executed, rfl⟩ := executed_of_runCase_some ran
  have kind := executed.kind_eq_firstOf h.config.strictExit
  obtain ⟨rfl, rfl, rfl⟩ := executed.of_written tries.called wrote
  rw [← tries.reported]
  exact ⟨after, _, ran, rfl, kind, Finding.verdict_eq_pass_iff _, rfl, rfl⟩

end Harness

-----------------------------------------------------------------------------------------
-- The executor of processes
-----------------------------------------------------------------------------------------

namespace Host

/-- A command that leads nowhere is a fault without any mark. -/
theorem foreign_of_resolveCommand {tree : FileTree} {command : String} {cause : Fault}
    (refused : resolveCommand tree command = .error cause)
    : cause.Foreign := by
  intro mark _
  unfold resolveCommand at refused
  repeat' split at refused
  all_goals cases refused
  all_goals rfl

/-- What keeps a command from being started comes from outside. -/
theorem foreign_of_start {tree : FileTree} {late : Option Mark} {command argument : String}
    {cause : Fault} (reason : ∀ mark, late = some mark → mark.isOwn = false)
    (refused : start tree late command argument = .error cause)
    : cause.Foreign := by
  have request (path : String) (refusal : Refusal)
      : (Fault.refused "fork/exec" path refusal).Foreign := by
    intro mark own
    refine Fault.IsRefusal.has_eq_false ⟨_, _, _, rfl⟩ ?_
    rintro rfl
    cases own
  unfold start at refused
  split at refused
  · rename_i unresolved
    cases refused
    exact foreign_of_resolveCommand unresolved
  · rename_i mark _
    cases refused
    intro sought own
    refine decide_eq_false ?_
    rintro rfl
    rw [reason mark rfl] at own
    cases own
  · dsimp only at refused
    split at refused
    · cases refused
      exact request _ _
    · split at refused
      · cases refused
      · cases refused
        exact request _ _

/-- What waiting for a process ends in comes from outside, unless its input brings it along. -/
theorem foreign_of_waitFault {status : WaitStatus} {stdin : Option Stdin} {unread : Nat}
    {cause : Fault} (foreign : ∀ fault, inputFault stdin = some fault → fault.Foreign)
    (failed : waitFault status stdin unread = some cause)
    : cause.Foreign := by
  unfold waitFault at failed
  split at failed
  · cases failed
    exact fun _ _ => rfl
  · split at failed
    · cases failed
    · exact foreign cause failed

/-- A reason not to start anything comes from the caller or from the clock. -/
theorem isOwn_of_lateness {timeout : Duration} {cancelled : Bool} {mark : Mark}
    (late : lateness timeout cancelled = some mark)
    : mark.isOwn = false := by
  unfold lateness at late
  split at late
  · cases late
    rfl
  · split at late
    · cases late
      rfl
    · cases late

section Executor

variable {machine : String} {timeout : Duration} {invocation : Invocation} {tree : FileTree}
  {cancelled : Bool}

/-- A command that cannot be started is answered with the report of an attempt without a process,
changes nothing and asks for nothing.
-/
theorem executor_of_refused {fault : Fault}
    (refused
      : start tree (lateness timeout cancelled) machine invocation.program = .error fault)
    (caller : Caller)
    : ((executor machine timeout invocation tree cancelled caller).execution,
        (executor machine timeout invocation tree cancelled caller).fault)
      = Execution.ofAttempt machine timeout (refusedAttempt timeout cancelled fault)
      ∧ (executor machine timeout invocation tree cancelled caller).tree = tree
      ∧ (executor machine timeout invocation tree cancelled caller).cancels = false := by
  simp only [executor, refused, and_self]

/-- A command that is started is answered with the report of what its process came to. -/
theorem executor_of_started {image : Image}
    (started
      : start tree (lateness timeout cancelled) machine invocation.program = .ok image)
    (caller : Caller)
    : ((executor machine timeout invocation tree cancelled caller).execution,
        (executor machine timeout invocation tree cancelled caller).fault)
      = Execution.ofAttempt machine timeout
          ((aftermath timeout caller invocation.stdin tree image).attempt timeout caller
            invocation.stdin)
      ∧ (executor machine timeout invocation tree cancelled caller).cancels
        = (aftermath timeout caller invocation.stdin tree image).isAsked timeout caller := by
  simp only [executor, started, and_self]

/-- Every answer of the executor of processes is the report of an attempt, and the caller has asked
to stop only if the executor was told so or says so.
-/
theorem exists_attempt
    (foreign : ∀ fault, inputFault invocation.stdin = some fault → fault.Foreign)
    (caller : Caller)
    : ∃ attempt : Attempt,
        attempt.Foreign
        ∧ ((executor machine timeout invocation tree cancelled caller).execution,
            (executor machine timeout invocation tree cancelled caller).fault)
          = Execution.ofAttempt machine timeout attempt
        ∧ (cancelled = false
          → (executor machine timeout invocation tree cancelled caller).cancels = false
          → attempt.asked = none) := by
  cases begun : start tree (lateness timeout cancelled) machine invocation.program with
  | error fault =>
      refine ⟨_, ⟨?_, ?_⟩, (executor_of_refused begun caller).1, ?_⟩
      · intro cause same
        cases same
        exact foreign_of_start (fun mark late => isOwn_of_lateness late) begun
      · intro remains cause started
        cases started
      · intro running _
        simp [refusedAttempt, running]
  | ok image =>
      obtain ⟨reported, cancels⟩ := executor_of_started begun caller
      refine ⟨_, ⟨?_, ?_⟩, reported, ?_⟩
      · intro cause refused
        cases refused
      · intro remains cause same failed
        cases same
        exact foreign_of_waitFault foreign failed
      · intro _ uncancelled
        simp [Aftermath.attempt, ← cancels, uncancelled]

end Executor

end Host

-----------------------------------------------------------------------------------------
-- From the attempt to the verdict
-----------------------------------------------------------------------------------------

namespace Harness

/-- An attempt meets one fate, and the fate survives to the verdict. Whatever came of the start and
of the wait, however the process ended, and whatever the clock and the caller had to say, the report
of the attempt shows one fate and no other. If nothing asks the run to stop and the output can be
written, a case that is answered with the report is recorded with the kind of that fate: a process
that was not started or not waited for is a failure of the launch, one that timed out a timeout, and
the others are judged by their output, and by their exit status if it is asked for, which a process
that was killed has not. The executor of processes answers with nothing but such reports.
-/
theorem attempt_fate (machine : String) (timeout : Duration)
    : (∀ attempt : Attempt,
        attempt.Foreign
        → ∃ fate : Fate,
            fate.Befalls timeout attempt
            ∧ fate.Shows machine (Execution.ofAttempt machine timeout attempt).1
                (Execution.ofAttempt machine timeout attempt).2
            ∧ (∀ other : Fate,
                other.Shows machine (Execution.ofAttempt machine timeout attempt).1
                  (Execution.ofAttempt machine timeout attempt).2
                → other = fate)
            ∧ ∀ (σ : Type) (h : Harness σ) (s : Session σ) (tc : TestCase) (call : Exchange σ)
                (tree : FileTree),
                h.Tries s tc machine timeout attempt call
                → h.Unasked s tc
                → attempt.asked = none
                → call.reply.tree.writeFile tc.actual call.reply.execution.stdout = .ok tree
                → ∃ after result,
                    h.runCase s tc = (after, some result)
                    ∧ after.tree = tree
                    ∧ result.kind
                      = fate.kind h.config.strictExit
                          (.compared (tree.readFile tc.reference)
                            (tree.kept tc.actual call.reply.execution.stdout))
                    ∧ (result.verdict = .pass ↔ result.kind = .none)
                    ∧ result.exitCode = call.reply.execution.exitCode
                    ∧ result.signal = call.reply.execution.signal)
      ∧ ∀ (invocation : Invocation) (tree : FileTree) (cancelled : Bool) (caller : Host.Caller),
          (∀ fault, Host.inputFault invocation.stdin = some fault → fault.Foreign)
          → ∃ attempt : Attempt,
              attempt.Foreign
              ∧ ((Host.executor machine timeout invocation tree cancelled caller).execution,
                  (Host.executor machine timeout invocation tree cancelled caller).fault)
                = Execution.ofAttempt machine timeout attempt
              ∧ (cancelled = false
                → (Host.executor machine timeout invocation tree cancelled caller).cancels = false
                → attempt.asked = none) := by
  refine ⟨?_, fun _ _ _ caller foreign => Host.exists_attempt foreign caller⟩
  intro attempt foreign
  obtain ⟨fate, befalls⟩ := Fate.exists_befalls timeout attempt
  have shown := befalls.ofAttempt_shows foreign machine
  refine ⟨fate, befalls, shown, ?_, ?_⟩
  · intro other shown'
    exact Option.some.inj (shown'.told?_eq.symm.trans shown.told?_eq)
  · intro σ h s tc call tree tries unasked uncalled wrote
    obtain ⟨after, result, ran, same, kind, rest⟩ := tries.runCase unasked wrote
    refine ⟨after, result, ran, same, ?_, rest⟩
    rw [kind]
    exact befalls.firstOf_priority foreign uncalled machine _ _ _

/-- A process that was killed once it had printed the letter A. -/
def crashedAttempt : Attempt where
  process := .ok ⟨[65], .killed ⟨11⟩, .zero, some (.ended (.killed ⟨11⟩))⟩
  halted := none
  asked := none

/-- A harness under which every program crashes so. -/
def segfaulting (strictExit : Bool) : Harness Unit :=
  answering (fun _ _ => Execution.ofAttempt "m" ⟨1⟩ crashedAttempt) strictExit fun _ => false

/-- A program that is killed after it has printed its reference passes, and with strict exit
checking it fails for its exit status; the signal is kept either way.
-/
theorem attempt_fate_crashedAttempt
    : crashedAttempt.Foreign
      ∧ ∀ strictExit,
          (segfaulting strictExit).Unasked (.start soloSuiteReset () false) (soloCase "o/a.txt")
          ∧ ∃ after result,
              (segfaulting strictExit).runCase (.start soloSuiteReset () false)
                  (soloCase "o/a.txt")
                = (after, some result)
              ∧ result.kind = (if strictExit then .nonZeroExit else .none)
              ∧ result.signal = some ⟨11⟩
              ∧ result.exitCode = -1 := by
  have foreign : crashedAttempt.Foreign := by
    refine ⟨?_, ?_⟩
    · intro cause refused
      cases refused
    · intro remains cause started failed
      cases started
      cases failed
      exact fun _ _ => rfl
  refine ⟨foreign, fun strictExit => ?_⟩
  have unasked
      : (segfaulting strictExit).Unasked (.start soloSuiteReset () false) (soloCase "o/a.txt") :=
    (answering_undisturbed _ _).unasked rfl _
  refine ⟨unasked, ?_⟩
  obtain ⟨_, _, _, _, _, toReference, toOutput⟩ := locate_soloSuite
  have reference : soloSuiteWritten.readFile "o/a.txt" = .ok [65] :=
    FileTree.readFile_eq_ok_iff.mpr ⟨_, toReference, by decide⟩
  have kept : soloSuiteWritten.kept "s/a.txt" [65] = [65] := by
    refine FileTree.NoDevice.kept_eq ?_ _
    intro place located
    obtain rfl := Except.ok.inj (toOutput.symm.trans located)
    decide
  obtain ⟨fate, _, _, unique, recorded⟩ := (attempt_fate "m" ⟨1⟩).1 crashedAttempt foreign
  obtain rfl : Fate.killed ⟨11⟩ = fate := unique _ ⟨rfl, rfl, rfl, rfl⟩
  obtain ⟨after, result, ran, _, kind, _, exitCode, signal⟩ :=
    recorded Unit (segfaulting strictExit) (.start soloSuiteReset () false) (soloCase "o/a.txt")
      _ soloSuiteWritten ⟨rfl, rfl⟩ unasked rfl soloSuite_written.2.1
  refine ⟨after, result, ran, ?_, signal, exitCode⟩
  calc result.kind
    _ = Fate.kind strictExit
          (.compared (soloSuiteWritten.readFile "o/a.txt") (soloSuiteWritten.kept "s/a.txt" [65]))
          (.killed ⟨11⟩) := kind
    _ = if strictExit then .nonZeroExit else .none := by
      rw [reference, kept]
      cases strictExit <;> rfl

end Harness

end GoldenSuite

import GoldenSuite.Execution.Basic

/-! From processes to executions: which of the things that can happen to a process is
reported. -/

namespace GoldenSuite

/-- What is left of a process that was started and waited for. -/
structure Remains where
  stdout : Bytes
  status : WaitStatus
  duration : Duration
  /-- What waiting for the process ended in. -/
  fault : Option Fault
deriving DecidableEq

/-- An attempt to run a process, and what the clock and the caller had to say by its end. -/
structure Attempt where
  /-- The process, or why it could not be started. -/
  process : Except Fault Remains
  /-- Why the process was not to go on: its time was up, or the caller asked to stop. -/
  halted : Option Mark
  /-- The caller's own request to stop. -/
  asked : Option Mark

namespace Execution

/-- The execution that a process leaves behind. -/
def ofRemains (remains : Remains) : Execution where
  stdout := remains.stdout
  exitCode := remains.status.exitCode
  timedOut := false
  signal := none
  duration := remains.duration

/-- Whether a fault of waiting says no more than how the process ended. -/
def isOrdinary (fault : Fault) : Bool :=
  fault.isEnding || fault.has .outputHeld

/-- What is reported of an attempt. A process that was not started comes first, then the time
limit, then the caller's request to stop, then a fault of waiting that is about more than how the
process ended. -/
def ofAttempt (machine : String) (timeout : Duration) (attempt : Attempt)
    : Execution × Option Fault :=
  match attempt.process with
  | .error cause => (notStarted, some (.launch machine cause))
  | .ok remains =>
      let execution := ofRemains remains
      let finished := ({ execution with signal := remains.status.signal? }, none)
      if 0 < timeout.ns && attempt.halted = some .deadlineExceeded && attempt.asked.isNone then
        ({ execution with timedOut := true }, none)
      else
        match attempt.asked, remains.fault with
        | some mark, _ => (execution, some (.mark mark))
        | none, some fault =>
            if isOrdinary fault then finished
            else (execution, some (.context ("waiting for " ++ machine ++ ": ") fault))
        | none, none => finished

end Execution

end GoldenSuite

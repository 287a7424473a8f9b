import GoldenSuite.Execution.Outcome
import GoldenSuite.Host.Launch
import GoldenSuite.Shell.Evaluation

/-! Running the program under test as a process, with a time limit. -/

namespace GoldenSuite.Host

/-- What the caller of an execution does meanwhile. -/
structure Caller where
  /-- The time, in nanoseconds, after which it asks to stop. -/
  stopsAfter : Option Nat
deriving DecidableEq

namespace Caller

/-- A caller that just waits. -/
def patient : Caller := ⟨none⟩

end Caller

/-- The nanoseconds that pass before a process can be started: a shorter time limit is over by
then. -/
def startUpTime : Nat := 1000

/-- How much of its input a process need not have read for all of it to be handed over. -/
def pipeCapacity : Nat := 65536

/-- The variables that every process starts with. -/
def environment : List (String × ByteText) :=
  [("PATH", ByteText.ofString (String.intercalate ":" searchPath))]

/-- The bytes of an input, and where its descriptor leads. -/
def inputOf : Option Stdin → Bytes × Descriptor
  | none => ([], .nothing)
  | some (.file _ (.contents data)) => (data, .source 0)
  | some (.file _ .directory) => ([], .directory)
  | some (.stream data _) => (data, .source 0)

/-- What ends the input of a process other than its end. -/
def inputFault : Option Stdin → Option Fault
  | some (.stream _ fault) => fault
  | _ => none

/-- The world before a process starts. -/
def worldBefore (tree : FileTree) (limit : Option Nat) (input : Bytes) : World where
  tree := tree
  clock := 0
  limit := limit
  raised := []
  sources := #[input]
  sinks := #[[], []]

/-- Runs a program up to its end. -/
def runImage (image : Image) (input : Descriptor) (world : World)
    : Except Halt Nat × World :=
  let streams : Streams := ⟨input, .sink 0, .sink 1⟩
  let first := Shell.State.first (Shell.topProcess + 1) Shell.topProcess environment streams
  let running : Shell.Running :=
    { shell := { first with final := true }, world := world, rounds := Shell.roundLimit }
  let (result, after) :=
    (ExceptT.run (Shell.Eval.execute Shell.depthLimit image)).run running
  match result with
  | .error (.halt cause) => (.error cause, after.world)
  | _ => (.ok after.shell.status, after.world)

/-- How a process ended. One that would go on for too long is killed. -/
def statusOf : Except Halt Nat → WaitStatus
  | .ok status => .exited status
  | .error (.signal signal) => .killed signal
  | .error .endless => .killed ⟨9⟩

/-- What waiting for a process ends in: how it ended comes before what went wrong with its
input. -/
def waitFault (status : WaitStatus) (stdin : Option Stdin) (unread : Nat) : Option Fault :=
  if status ≠ .exited 0 then some (.ended status)
  else if pipeCapacity < unread then none
  else inputFault stdin

/-- The earlier of two times, either of which may never come. -/
def earlier : Option Nat → Option Nat → Option Nat
  | some a, some b => some (a.min b)
  | some a, none => some a
  | none, b => b

/-- The time limit in nanoseconds, if there is one. -/
def deadline? (timeout : Duration) : Option Nat :=
  if 0 < timeout.ns then some timeout.ns.toInt.toNat else none

/-- Whether the time of a program is up before its process can be started. -/
def isLateAtStart (timeout : Duration) : Bool :=
  (deadline? timeout).any (· ≤ startUpTime)

/-- Why nothing is to be started any more: the caller has asked to stop, or the time is up. -/
def lateness (timeout : Duration) (cancelled : Bool) : Option Mark :=
  if cancelled then some .canceled
  else if isLateAtStart timeout then some .deadlineExceeded
  else none

/-- An attempt that came to no process. -/
def refusedAttempt (timeout : Duration) (cancelled : Bool) (fault : Fault) : Attempt where
  process := .error fault
  halted := lateness timeout cancelled
  asked := if cancelled then some .canceled else none

/-- How the run of an image ended, and the world after it. -/
structure Aftermath where
  result : Except Halt Nat
  world : World

/-- Runs an image until it ends, or until the time limit or the caller ends it. -/
def aftermath (timeout : Duration) (caller : Caller) (stdin : Option Stdin) (tree : FileTree)
    (image : Image)
    : Aftermath :=
  let (data, input) := inputOf stdin
  let limit := earlier (deadline? timeout) caller.stopsAfter
  let (result, world) := runImage image input (worldBefore tree limit data)
  { result, world }

namespace Aftermath

/-- Whether the process would have gone on. -/
def isEndless (after : Aftermath) : Bool :=
  match after.result with
  | .error .endless => true
  | _ => false

/-- Whether it was the time limit that ended the process. -/
def isTimeUp (after : Aftermath) (timeout : Duration) (caller : Caller) : Bool :=
  after.isEndless && after.world.raised.isEmpty
    && deadline? timeout = earlier (deadline? timeout) caller.stopsAfter

/-- Whether the caller was asked to stop, or asked by itself. -/
def isAsked (after : Aftermath) (timeout : Duration) (caller : Caller) : Bool :=
  !after.world.raised.isEmpty || after.isEndless && !after.isTimeUp timeout caller

/-- All that was written to one of the two outputs. -/
def output (after : Aftermath) (index : Nat) : Bytes :=
  (after.world.sinks.getD index []).reverse.flatten

/-- What is left of the process. -/
def remains (after : Aftermath) (stdin : Option Stdin) : Remains where
  stdout := after.output 0
  status := statusOf after.result
  duration := ⟨Int64.ofNat after.world.clock⟩
  fault := waitFault (statusOf after.result) stdin (after.world.sources.getD 0 []).length

/-- The attempt that has come to this. -/
def attempt (after : Aftermath) (timeout : Duration) (caller : Caller) (stdin : Option Stdin)
    : Attempt :=
  let asked := if after.isAsked timeout caller then some Mark.canceled else none
  { process := .ok (after.remains stdin)
    halted := if after.isTimeUp timeout caller then some .deadlineExceeded else asked
    asked }

end Aftermath

/-- Runs the program under test on a file. -/
def executor (machine : String) (timeout : Duration) : Executor Caller :=
  fun invocation tree cancelled caller =>
    match start tree (lateness timeout cancelled) machine invocation.program with
    | .error fault =>
        let (execution, fault) :=
          Execution.ofAttempt machine timeout (refusedAttempt timeout cancelled fault)
        { execution, fault, tree, host := caller, stderr := [], cancels := false }
    | .ok image =>
        let after := aftermath timeout caller invocation.stdin tree image
        let (execution, fault) :=
          Execution.ofAttempt machine timeout (after.attempt timeout caller invocation.stdin)
        { execution
          fault
          tree := { after.world.tree with home := tree.home }
          host := caller
          stderr := after.output 1
          cancels := after.isAsked timeout caller }

end GoldenSuite.Host

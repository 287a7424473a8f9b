import GoldenSuite.Duration
import GoldenSuite.FileTree.Access
import GoldenSuite.Signal

/-! Executions of the program under test, as a run sees them. -/

namespace GoldenSuite

/-- What a program reads from. -/
inductive Stdin where
  /-- A file that is handed over as it is opened. -/
  | file (path : String) (opened : FileTree.Opened)
  /-- Bytes that are passed on, and a fault that may come after them. -/
  | stream (data : Bytes) (fault : Option Fault)

/-- All that can be read, and the fault that ends it. -/
def Stdin.readAll : Stdin → Bytes × Option Fault
  | .file _ (.contents data) => (data, none)
  | .file path .directory => ([], some (.refused "read" path .isDirectory))
  | .stream data fault => (data, fault)

/-- One run of the program under test. -/
structure Invocation where
  /-- The path of the program file, its sole argument. -/
  program : String
  stdin : Option Stdin

/-- What a finished process has left behind. -/
structure Execution where
  stdout : Bytes
  /-- Is -1 if the process was killed or never started. -/
  exitCode : Int
  timedOut : Bool
  /-- The signal that ended the process, if it was not the kill after a timeout. -/
  signal : Option Signal
  duration : Duration
deriving DecidableEq, Inhabited

namespace Execution

/-- An execution that never started. -/
def notStarted : Execution where
  stdout := []
  exitCode := -1
  timedOut := false
  signal := none
  duration := .zero

end Execution

/-- What comes back from one call of an executor. -/
structure Reply (σ : Type) where
  execution : Execution
  fault : Option Fault
  /-- The file tree after the call. -/
  tree : FileTree
  /-- The executor's own state after the call. -/
  host : σ
  /-- What the program wrote to the diagnostic stream. -/
  stderr : Bytes
  /-- Whether the run was asked to stop during the call. -/
  cancels : Bool

/-- A way to run the program under test, with a state of its own. It is told whether the run has
been asked to stop. -/
def Executor (σ : Type) : Type :=
  Invocation → FileTree → Bool → σ → Reply σ

end GoldenSuite

import GoldenSuite.Execution.Basic

/-! An executor that gives prepared answers, and keeps a record of its calls. -/

namespace GoldenSuite.Scripted

/-- One call: the program, whether there was something to read, and what was read. -/
structure Call where
  program : String
  hasStdin : Bool
  read : Bytes
deriving DecidableEq

/-- A prepared answer. -/
structure Answer where
  execution : Execution
  fault : Option Fault
  cancels : Bool

/-- The answers that are left for each program, by file name, and the calls so far. -/
structure State where
  answers : List (String × List Answer)
  calls : List Call

/-- The next answer for a program, and the answers after it. The last answer is given again and
again. -/
def nextAnswer? (answers : List (String × List Answer)) (name : String)
    : Option (Answer × List (String × List Answer)) :=
  match answers.lookup name with
  | some (answer :: next :: rest) =>
      some (answer, (name, next :: rest) :: answers.filter (fun entry => entry.1 ≠ name))
  | some [answer] => some (answer, answers)
  | _ => none

def plainExecution (stdout : Bytes) (exitCode : Int) : Execution where
  stdout := stdout
  exitCode := exitCode
  timedOut := false
  signal := none
  duration := .zero

/-- Answers a call. Without a prepared answer the program prints its own text and then what it
reads. -/
def executor : Executor State := fun invocation tree _ state =>
  let (read, readFault) :=
    match invocation.stdin with
    | some stdin => stdin.readAll
    | none => ([], none)
  let call : Call := ⟨invocation.program, invocation.stdin.isSome, read⟩
  let calls := state.calls ++ [call]
  let reply (execution : Execution) (fault : Option Fault) : Reply State :=
    { execution, fault, tree, host := { state with calls }, stderr := [], cancels := false }
  match nextAnswer? state.answers (Path.base invocation.program) with
  | some (answer, answers) =>
      { execution := answer.execution
        fault := answer.fault
        tree := tree
        host := { answers, calls }
        stderr := []
        cancels := answer.cancels }
  | none =>
      match readFault, tree.readFile invocation.program with
      | some fault, _ => reply (plainExecution [] 0) (some fault)
      | none, .ok source => reply (plainExecution (source ++ read) 0) none
      | none, .error _ => reply (plainExecution [] 1) none

end GoldenSuite.Scripted

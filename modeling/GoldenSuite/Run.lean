import GoldenSuite.Config
import GoldenSuite.Discovery
import GoldenSuite.Execution.Basic
import GoldenSuite.Log
import GoldenSuite.Pattern.Reader
import GoldenSuite.Report
import GoldenSuite.Scratch

/-! A run: clear the scratch directory, find the cases, then execute and compare them one at a
time. A failure of a case is recorded and never ends the run; only a request to stop does. -/

namespace GoldenSuite

/-- The state that a run passes on from step to step. -/
structure Session (σ : Type) where
  tree : FileTree
  /-- The executor's own state. -/
  host : σ
  /-- Whether the run has been asked to stop; once asked, it stays so. -/
  cancelled : Bool
  /-- How often the run has looked whether it should stop. -/
  polls : Nat
  output : String
  /-- Log lines and what programs wrote to the diagnostic stream. -/
  diagnostics : Bytes

namespace Session

variable {σ : Type}

/-- A session before its run. -/
def start (tree : FileTree) (host : σ) (cancelled : Bool) : Session σ where
  tree := tree
  host := host
  cancelled := cancelled
  polls := 0
  output := ""
  diagnostics := []

def print (s : Session σ) (text : String) : Session σ :=
  { s with output := s.output ++ text }

/-- Writes a log record; the columns that the logger keeps are those of this record alone. -/
def log (s : Session σ) (logger : Log.Logger) (record : Log.Record) : Session σ :=
  { s with diagnostics := s.diagnostics ++ Bytes.ofString (logger.write record).1 }

/-- Looks whether the run should stop. `interrupts n` says whether the request has come by the
`n`-th look. -/
def poll (s : Session σ) (interrupts : Nat → Bool) : Bool × Session σ :=
  let stop := s.cancelled || interrupts s.polls
  (stop, { s with cancelled := stop, polls := s.polls + 1 })

end Session

/-- How a case came out. -/
inductive Finding where
  | notLaunched (fault : Fault)
  | filesystem (fault : Fault)
  | failedToRun (fault : Fault)
  | timedOut
  | noReference
  | notCompared (fault : Fault)
  | mismatch
  | badExit
  | passed
deriving DecidableEq

namespace Finding

def kind : Finding → FailureKind
  | .notLaunched _ => .launchFailure
  | .filesystem _ => .filesystemFailure
  | .failedToRun _ => .launchFailure
  | .timedOut => .timeout
  | .noReference => .missingReference
  | .notCompared _ => .filesystemFailure
  | .mismatch => .outputMismatch
  | .badExit => .nonZeroExit
  | .passed => .none

def verdict : Finding → Verdict
  | .passed => .pass
  | _ => .fail

def fault? : Finding → Option Fault
  | .notLaunched fault => some fault
  | .filesystem fault => some fault
  | .failedToRun fault => some fault
  | .notCompared fault => some fault
  | _ => none

/-- The outcome of a finished execution: faults first, then the timeout, then the comparison with
the reference, then the exit status if it is asked for. -/
def of (strictExit : Bool) (tree : FileTree) (tc : TestCase) (execution : Execution)
    (fault : Option Fault)
    : Finding :=
  match fault with
  | some fault =>
      if fault.has .launch then .notLaunched fault
      else if fault.has .filesystem then .filesystem fault
      else .failedToRun fault
  | none =>
      if execution.timedOut then .timedOut
      else
        match Verdict.ofFiles tree tc.actual tc.reference with
        | .error fault =>
            if fault.has .missingReference then .noReference else .notCompared fault
        | .ok .fail => .mismatch
        | .ok .pass => if strictExit && execution.exitCode ≠ 0 then .badExit else .passed

/-- What the log says about an outcome. -/
def remark? (timeout : Duration) (tc : TestCase) (execution : Execution)
    : Finding → Option Log.Record
  | .notLaunched fault =>
      some ⟨.warn, "Could not launch program under test", [⟨"err", .text fault.message⟩]⟩
  | .filesystem fault => some ⟨.warn, "Filesystem failure", [⟨"err", .text fault.message⟩]⟩
  | .failedToRun fault =>
      some ⟨.warn, "Program under test failed to run", [⟨"err", .text fault.message⟩]⟩
  | .timedOut =>
      some ⟨.warn, "Program under test timed out", [⟨"timeout", .duration timeout⟩]⟩
  | .noReference =>
      some ⟨.debug, "Reference output missing", [⟨"reference", .text tc.reference⟩]⟩
  | .notCompared fault =>
      some ⟨.warn, "Could not compare outputs", [⟨"err", .text fault.message⟩]⟩
  | .mismatch => none
  | .badExit => none
  | .passed =>
      some ⟨.debug, "Case passed",
        [⟨"duration", .duration execution.duration⟩, ⟨"exit", .int execution.exitCode⟩]⟩

def result (finding : Finding) (tc : TestCase) (execution : Execution) : CaseResult where
  tc := tc
  verdict := finding.verdict
  kind := finding.kind
  exitCode := execution.exitCode
  signal := execution.signal
  duration := execution.duration
  fault := finding.fault?

end Finding

/-- All that stays the same during a run. -/
structure Harness (σ : Type) where
  config : Config
  logger : Log.Logger
  /-- Which cases to run, by name. -/
  selects : String → Bool
  executor : Executor σ
  reporter : Reporter
  /-- When the request to stop comes. -/
  interrupts : Nat → Bool

namespace Harness

variable {σ : Type}

/-- The cases that a pattern selects. The empty pattern selects all. -/
def selector (pattern : String) : Except Fault (String → Bool) :=
  if pattern = "" then .ok fun _ => true
  else
    match Pattern.read pattern with
    | .ok compiled => .ok compiled.matchesIn
    | .error e => .error (.context "invalid run filter: " (.plain e.message))

/-- A harness for a configuration. -/
def create (config : Config) (logger : Log.Logger) (executor : Option (Executor σ))
    (colors : Bool) (interrupts : Nat → Bool)
    : Except Fault (Harness σ) :=
  match executor with
  | none => .error (.plain "executor cannot be nil")
  | some executor =>
      match selector config.run with
      | .error fault => .error fault
      | .ok selects =>
          .ok
            { config, logger, selects, executor, interrupts
              reporter := { colors, showDiff := config.showDiff } }

-------------------------------------------------------------------------------
-- One case
-------------------------------------------------------------------------------

/-- What a case reads from. -/
def openInput (tree : FileTree) (tc : TestCase) : Except Fault (Option Stdin) :=
  if tc.hasInput then
    match tree.openPath tc.input with
    | .ok opened => .ok (some (.file tc.input opened))
    | .error fault => .error (.filesystem "opening input" fault)
  else .ok none

/-- Keeps what an execution printed, whatever else came of it. -/
def keepOutput (s : Session σ) (tc : TestCase) (stdout : Bytes) (fault : Option Fault)
    : Session σ × Option Fault :=
  match s.tree.writeFile tc.actual stdout with
  | .ok tree => ({ s with tree }, fault)
  | .error cause => (s, some (Fault.joinedTo fault (.filesystem "writing output" cause)))

/-- Calls the executor. -/
def call (h : Harness σ) (s : Session σ) (invocation : Invocation)
    : Session σ × Execution × Option Fault :=
  let reply := h.executor invocation s.tree s.cancelled s.host
  ({ s with
      tree := reply.tree
      host := reply.host
      cancelled := s.cancelled || reply.cancels
      diagnostics := s.diagnostics ++ reply.stderr },
    reply.execution, reply.fault)

/-- Executes a case and keeps its output. Nothing comes back if the run was asked to stop
meanwhile. -/
def execute (h : Harness σ) (s : Session σ) (tc : TestCase)
    : Session σ × Option (Execution × Option Fault) :=
  match openInput s.tree tc with
  | .error fault => (s, some (.notStarted, some fault))
  | .ok stdin =>
      let (s, execution, fault) := h.call s ⟨tc.program, stdin⟩
      match s.poll h.interrupts with
      | (true, s) => (s, none)
      | (false, s) =>
          let (s, fault) := keepOutput s tc execution.stdout fault
          (s, some (execution, fault))

/-- Runs one case. Nothing comes back if the run was asked to stop meanwhile. -/
def runCase (h : Harness σ) (s : Session σ) (tc : TestCase) : Session σ × Option CaseResult :=
  let logger := h.logger.extend "case" (.text tc.name)
  let s := s.log logger
    ⟨.debug, "Running case", [⟨"program", .text tc.program⟩, ⟨"input", .text tc.input⟩]⟩
  match h.execute s tc with
  | (s, none) => (s, none)
  | (s, some (execution, fault)) =>
      match s.poll h.interrupts with
      | (true, s) => (s, none)
      | (false, s) =>
          let finding := Finding.of h.config.strictExit s.tree tc execution fault
          let s :=
            match finding.remark? h.config.timeout tc execution with
            | some record => s.log logger record
            | none => s
          (s, some (finding.result tc execution))

-------------------------------------------------------------------------------
-- All cases
-------------------------------------------------------------------------------

/-- Runs cases one after the other. The flag says whether the run was cut short. -/
def runCases (h : Harness σ) : Session σ → Tally → List TestCase → Session σ × Tally × Bool
  | s, tally, [] => (s, tally, false)
  | s, tally, tc :: rest =>
      match s.poll h.interrupts with
      | (true, s) => (s, tally, true)
      | (false, s) =>
          match h.runCase (s.print (h.reporter.starting tc)) tc with
          | (s, none) => (s, tally, true)
          | (s, some result) =>
              runCases h (s.print (h.reporter.finished s.tree result)) (tally.record result) rest

/-- What a run ends with: a tally unless it could not begin, and the fault that cut it short. -/
structure Ending (σ : Type) where
  session : Session σ
  tally : Option Tally
  fault : Option Fault

/-- Runs every case that is found. -/
def run (h : Harness σ) (s : Session σ) : Ending σ :=
  let layout := h.config.layout
  match Scratch.reset s.tree layout.scratch with
  | (tree, some fault) => ⟨{ s with tree }, none, some (.runtime fault)⟩
  | (tree, none) =>
      let s := { s with tree }
      match Discovery.discover tree layout h.selects with
      | .error fault => ⟨s, none, some (.runtime fault)⟩
      | .ok cases =>
          let s := s.log h.logger
            ⟨.info, "Discovered test cases",
              [⟨"count", .int cases.length⟩, ⟨"programs", .text layout.programs⟩]⟩
          match h.runCases s .empty cases with
          | (s, tally, true) => ⟨s, some tally, some (.mark .canceled)⟩
          | (s, tally, false) =>
              let s := s.log h.logger
                ⟨.info, "Run finished",
                  [⟨"passed", .int tally.passed⟩, ⟨"failed", .int tally.failed⟩]⟩
              ⟨s, some tally, none⟩

end Harness

end GoldenSuite

import GoldenSuite.Duration
import GoldenSuite.Fault
import GoldenSuite.Signal
import GoldenSuite.TestCase
import GoldenSuite.Verdict

/-! Results of cases, and the count that is kept of them. -/

namespace GoldenSuite

/-- Why a case failed. -/
inductive FailureKind where
  | none
  | outputMismatch
  | missingReference
  | launchFailure
  | timeout
  | nonZeroExit
  | filesystemFailure
  /-- A number that stands for no kind. -/
  | unknown (code : Int)
deriving DecidableEq, Inhabited

namespace FailureKind

def text : FailureKind → String
  | .none => "none"
  | .outputMismatch => "output mismatch"
  | .missingReference => "missing reference"
  | .launchFailure => "launch failure"
  | .timeout => "timeout"
  | .nonZeroExit => "non-zero exit"
  | .filesystemFailure => "filesystem failure"
  | .unknown code => "FailureKind(" ++ toString code ++ ")"

/-- The kinds by number. -/
def ofCode (code : Int) : FailureKind :=
  let kinds : List FailureKind :=
    [.none, .outputMismatch, .missingReference, .launchFailure, .timeout, .nonZeroExit,
      .filesystemFailure]
  if code < 0 then .unknown code else kinds.getD code.toNat (.unknown code)

end FailureKind

/-- The recorded outcome of one case. -/
structure CaseResult where
  tc : TestCase
  verdict : Verdict
  kind : FailureKind
  exitCode : Int
  signal : Option Signal
  duration : Duration
  /-- More about a launch or file system failure. -/
  fault : Option Fault
deriving DecidableEq, Inhabited

/-- Results in the order of recording, with running counts of verdicts. -/
structure Tally where
  results : List CaseResult
  passed : Nat
  failed : Nat
deriving DecidableEq, Inhabited

namespace Tally

def empty : Tally := ⟨[], 0, 0⟩

def record (tally : Tally) (result : CaseResult) : Tally :=
  let results := tally.results ++ [result]
  match result.verdict with
  | .pass => { tally with results, passed := tally.passed + 1 }
  | .fail => { tally with results, failed := tally.failed + 1 }

def total (tally : Tally) : Nat :=
  tally.passed + tally.failed

/-- The line that closes a run. -/
def summary (tally : Tally) : String :=
  toString tally.passed ++ " correct out of " ++ toString tally.total

/-- Whether a run with these results has failed. -/
def shouldFail (tally : Tally) : Bool :=
  0 < tally.failed

end Tally

-------------------------------------------------------------------------------
-- Exit codes
-------------------------------------------------------------------------------

/-- The exit code of a run: every case passed, some case failed, or the run could not be carried
out. -/
inductive ExitCode where
  | success
  | testFailure
  | runtimeFailure
deriving DecidableEq, Inhabited

def ExitCode.toNat : ExitCode → Nat
  | .success => 0
  | .testFailure => 1
  | .runtimeFailure => 2

def Tally.exitCode (tally : Tally) : ExitCode :=
  if tally.shouldFail then .testFailure else .success

end GoldenSuite

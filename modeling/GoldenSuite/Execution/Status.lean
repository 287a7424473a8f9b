import GoldenSuite.Signal

/-! How processes end. -/

namespace GoldenSuite

/-- How a process that was waited for came to its end. -/
inductive WaitStatus where
  | exited (code : Nat)
  | killed (signal : Signal)
deriving DecidableEq, Inhabited

namespace WaitStatus

/-- The exit code: -1 if there was none. -/
def exitCode : WaitStatus → Int
  | .exited code => code
  | .killed _ => -1

/-- The signal that ended the process. -/
def signal? : WaitStatus → Option Signal
  | .exited _ => none
  | .killed signal => some signal

def message : WaitStatus → String
  | .exited code => "exit status " ++ toString code
  | .killed signal => "signal: " ++ signal.describe

end WaitStatus

end GoldenSuite

import GoldenSuite.Execution.Status

/-! Faults: trees of causes. Every fault has one message, and is classified by the marks that
occur anywhere in it. -/

namespace GoldenSuite

/-- What the operating system answers to a request that it refuses. -/
inductive Refusal where
  | noEntry
  | notDirectory
  | isDirectory
  | tooManyLinks
  | nameTooLong
  | alreadyExists
  | notEmpty
  | permissionDenied
  | execFormat
  | invalidArgument
deriving DecidableEq, Inhabited

namespace Refusal

def message : Refusal → String
  | .noEntry => "no such file or directory"
  | .notDirectory => "not a directory"
  | .isDirectory => "is a directory"
  | .tooManyLinks => "too many levels of symbolic links"
  | .nameTooLong => "file name too long"
  | .alreadyExists => "file exists"
  | .notEmpty => "directory not empty"
  | .permissionDenied => "permission denied"
  | .execFormat => "exec format error"
  | .invalidArgument => "invalid argument"

end Refusal

/-- The marks by which faults are told apart. -/
inductive Mark where
  | missingReference
  | launch
  | filesystem
  | canceled
  | deadlineExceeded
  | notExist
  /-- Output that was still held open when waiting for it ended. -/
  | outputHeld
deriving DecidableEq, Inhabited

namespace Mark

def message : Mark → String
  | .missingReference => "missing reference output"
  | .launch => "failed to launch program under test"
  | .filesystem => "filesystem failure"
  | .canceled => "context canceled"
  | .deadlineExceeded => "context deadline exceeded"
  | .notExist => "file does not exist"
  | .outputHeld => "output held open"

end Mark

/-- A fault: a plain text, a mark, a refused request, the end of a process, or a fault around
other faults. -/
inductive Fault where
  | plain (text : String)
  | mark (mark : Mark)
  | refused (request path : String) (cause : Refusal)
  /-- A process that ended otherwise than with the exit code 0. -/
  | ended (status : WaitStatus)
  | runtime (inner : Fault)
  | launch (program : String) (inner : Fault)
  | context (before : String) (inner : Fault)
  | pair (first : Fault) (between : String) (second : Fault)
  | joined (first second : Fault)
deriving DecidableEq, Inhabited

namespace Fault

/-- The text of a fault. -/
def message : Fault → String
  | .plain text => text
  | .mark m => m.message
  | .refused request path cause => request ++ " " ++ path ++ ": " ++ cause.message
  | .ended status => status.message
  | .runtime inner => "runtime error: " ++ inner.message
  | .launch program inner => "launching " ++ program ++ ": " ++ inner.message
  | .context before inner => before ++ inner.message
  | .pair first between second => first.message ++ between ++ second.message
  | .joined first second => first.message ++ "\n" ++ second.message

/-- Whether a fault carries a mark. A launch fault carries the launch mark by itself, a refusal
for want of an entry the mark of what does not exist. -/
def has (sought : Mark) : Fault → Bool
  | .plain _ => false
  | .mark m => m = sought
  | .refused _ _ cause => sought = .notExist && cause = .noEntry
  | .ended _ => false
  | .runtime inner => inner.has sought
  | .launch _ inner => sought = .launch || inner.has sought
  | .context _ inner => inner.has sought
  | .pair first _ second => first.has sought || second.has sought
  | .joined first second => first.has sought || second.has sought

/-- Whether a fault is, or stands around, one that aborts a whole run. -/
def isRuntime : Fault → Bool
  | .plain _ => false
  | .mark _ => false
  | .refused _ _ _ => false
  | .ended _ => false
  | .runtime _ => true
  | .launch _ inner => inner.isRuntime
  | .context _ inner => inner.isRuntime
  | .pair first _ second => first.isRuntime || second.isRuntime
  | .joined first second => first.isRuntime || second.isRuntime

/-- Whether a fault is, or stands around, the end of a process. -/
def isEnding : Fault → Bool
  | .plain _ => false
  | .mark _ => false
  | .refused _ _ _ => false
  | .ended _ => true
  | .runtime inner => inner.isEnding
  | .launch _ inner => inner.isEnding
  | .context _ inner => inner.isEnding
  | .pair first _ second => first.isEnding || second.isEnding
  | .joined first second => first.isEnding || second.isEnding

/-- A failure of the file system while doing something. -/
def filesystem (doing : String) (cause : Fault) : Fault :=
  .pair (.mark .filesystem) (": " ++ doing ++ ": ") cause

/-- Adds a fault to one that may be there already. -/
def joinedTo (earlier : Option Fault) (later : Fault) : Fault :=
  match earlier with
  | some fault => .joined fault later
  | none => later

end Fault

end GoldenSuite

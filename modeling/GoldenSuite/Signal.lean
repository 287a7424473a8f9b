/-! Signals that end a process, and their names. -/

namespace GoldenSuite

/-- A signal by its number. -/
structure Signal where
  number : Int
deriving DecidableEq, Inhabited

namespace Signal

/-- The signals from the first on: how a shell calls them, if it has a name for them, and how
they are reported. -/
def table : List (String × String) :=
  [ ("HUP", "hangup"), ("INT", "interrupt"), ("QUIT", "quit"), ("ILL", "illegal instruction"),
    ("TRAP", "trace/breakpoint trap"), ("ABRT", "aborted"), ("BUS", "bus error"),
    ("FPE", "floating point exception"), ("KILL", "killed"), ("USR1", "user defined signal 1"),
    ("SEGV", "segmentation fault"), ("USR2", "user defined signal 2"), ("PIPE", "broken pipe"),
    ("ALRM", "alarm clock"), ("TERM", "terminated"), ("", "stack fault"),
    ("CHLD", "child exited"), ("CONT", "continued"), ("STOP", "stopped (signal)"),
    ("TSTP", "stopped"), ("TTIN", "stopped (tty input)"), ("TTOU", "stopped (tty output)"),
    ("URG", "urgent I/O condition"), ("XCPU", "CPU time limit exceeded"),
    ("XFSZ", "file size limit exceeded"), ("VTALRM", "virtual timer expired"),
    ("PROF", "profiling timer expired"), ("WINCH", "window changed"), ("IO", "I/O possible"),
    ("PWR", "power failure"), ("SYS", "bad system call") ]

/-- How a signal is reported: by its name if it has one, else by its number. -/
def describe (signal : Signal) : String :=
  match signal.number with
  | .ofNat (n + 1) =>
      match table[n]? with
      | some entry => entry.2
      | none => "signal " ++ toString (n + 1)
  | number => "signal " ++ toString number

/-- The signal that a shell calls by this name. -/
def ofName? (name : String) : Option Signal :=
  if name = "" then none else
  (table.findIdx? (fun entry => entry.1 = name)).map fun index => ⟨Int.ofNat (index + 1)⟩

/-- What a signal does to a process that makes no provision for it. -/
inductive Action where
  | terminate
  | ignore
  | stop
deriving DecidableEq

/-- Child, continue, urgent and window signals are ignored; the stop signals stop; all others
end the process. -/
def defaultAction (signal : Signal) : Action :=
  if signal.number ∈ [17, 18, 23, 28] then .ignore
  else if signal.number ∈ [19, 20, 21, 22] then .stop
  else .terminate

/-- Whether a process can make provision for a signal. -/
def canCatch (signal : Signal) : Bool :=
  signal.number ≠ 9 && signal.number ≠ 19

end Signal

end GoldenSuite

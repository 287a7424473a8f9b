import GoldenSuite.Host.Utility
import GoldenSuite.Shell.Source
import GoldenSuite.Shell.State

/-! Commands that the shell carries out by itself, those that run other commands apart. -/

namespace GoldenSuite.Shell.Builtin

open Host

/-- The commands after whose failure the shell does not go on. -/
def special : List String :=
  [".", ":", "break", "continue", "eval", "exec", "exit", "export", "readonly", "return", "set",
    "shift", "trap", "unset"]

/-- Complains in the name of a command. -/
def complain (name message : String) : Eval Unit :=
  Eval.complain (ByteText.ofString (name ++ ": " ++ message))

/-- Complains in the name of a command and ends the shell. -/
def abort {α : Type} (name message : String) : Eval α :=
  Eval.abort (ByteText.ofString (name ++ ": " ++ message))

/-- A number that is not negative, which an argument has to be. -/
def number (name : String) (word : ByteText) : Eval Nat :=
  match word.toInt? with
  | some (.ofNat n) => return n
  | _ => abort name ("Illegal number: " ++ word.toText)

-------------------------------------------------------------------------------
-- Printing and testing
-------------------------------------------------------------------------------

/-- Prints its arguments, escapes worked out. -/
def echo (arguments : List ByteText) : Eval Nat := do
  match arguments with
  | ['-', 'n'] :: rest => Eval.print (Escape.echo false rest)
  | _ => Eval.print (Escape.echo true arguments)
  return 0

def printf (arguments : List ByteText) : Eval Nat := do
  match if arguments.head? = some ['-', '-'] then arguments.drop 1 else arguments with
  | [] => abort "printf" "usage: printf format [arg ...]"
  | format :: rest =>
      let (text, complaints) := Format.print format rest
      Eval.print text
      complaints.foldlM
        (fun status word => do
          if word.head? = some '%' then
            complain "printf" (word.toText ++ ": invalid directive")
            return 2
          else
            complain "printf" (word.toText ++ ": expected numeric value")
            return status.max 1)
        0

/-- Tests a condition; a bracket has to be closed. -/
def test (name : String) (arguments : List ByteText) : Eval Nat := do
  if name = "[" && arguments.getLast? ≠ some [']'] then
    complain name "missing ]"
    return 2
  let words := if name = "[" then arguments.dropLast else arguments
  match Condition.holds (← get).world.tree words with
  | .ok value => return if value then 0 else 1
  | .error message =>
      complain name message
      return 2

-------------------------------------------------------------------------------
-- Variables and arguments
-------------------------------------------------------------------------------

/-- A name with the value behind it, if there is one. -/
def nameAndValue (word : ByteText) : String × Option ByteText :=
  let name := word.takeWhile (· ≠ '=')
  (String.ofList name, if word.contains '=' then some (word.drop (name.length + 1)) else none)

/-- Refuses what is no name. -/
def checkName (command : String) (name : String) : Eval Unit := do
  if !Reading.isName name.toList then abort command (name ++ ": bad variable name")

def assignAll (command : String) (words : List ByteText) (exports : Bool) : Eval Nat := do
  words.forM fun word => do
    let (name, value?) := nameAndValue word
    checkName command name
    value?.forM fun value => Eval.change (·.assign name value)
    if exports then Eval.change fun s => { s with exported := name :: s.exported }
  return 0

/-- Gives variables a value for the present function only. -/
def declareLocal (words : List ByteText) : Eval Nat := do
  words.forM fun word => do
    let (name, value?) := nameAndValue word
    checkName "local" name
    Eval.change fun s => { s with saved := (name, s.bindings.lookup name) :: s.saved }
    value?.forM fun value => Eval.change (·.assign name value)
  return 0

def unset (words : List ByteText) : Eval Nat := do
  words.forM fun word => do
    let name := word.toText
    if name = "-f" || name = "-v" then return
    Eval.change fun s =>
      { s.unset name with functions := s.functions.filter fun entry => entry.1 ≠ name }
  return 0

def shift (arguments : List ByteText) : Eval Nat := do
  let count ← match arguments with
    | [] => pure 1
    | word :: _ => number "shift" word
  if (← Eval.shell).arguments.length < count then abort "shift" "can't shift that many"
  Eval.change fun s => { s with arguments := s.arguments.drop count }
  return 0

/-- Sets options and arguments. -/
def setOptions : List ByteText → Eval Nat
  | [] => return 0
  | ['-', '-'] :: rest => do
      Eval.change fun s => { s with arguments := rest }
      return 0
  | (sign :: letters) :: rest => do
      if (sign = '-' || sign = '+') && !letters.isEmpty then
        let on := sign = '-'
        letters.forM fun letter =>
          match letter with
          | 'e' => Eval.change fun s => { s with strict := on }
          | 'u' => Eval.change fun s => { s with careful := on }
          | 'x' => Eval.change fun s => { s with traced := on }
          | _ => return
        setOptions rest
      else
        Eval.change fun s => { s with arguments := (sign :: letters) :: rest }
        return 0
  | words => do
      Eval.change fun s => { s with arguments := words }
      return 0

-------------------------------------------------------------------------------
-- Input
-------------------------------------------------------------------------------

/-- Whether a line ends in a backslash that guards the newline. -/
def isContinued (line : ByteText) : Bool :=
  (line.reverse.takeWhile (· = '\\')).length % 2 = 1

/-- Reads a line, and those it is continued by. -/
def readJoined (verbatim : Bool) (input : Descriptor) : Nat → Eval (ByteText × Bool)
  | 0 => return ([], false)
  | fuel + 1 => do
      let (data, complete) ← Eval.act (Act.readLine input)
      let line := (ByteText.ofBytes data).filter (· ≠ '\x00')
      if !verbatim && complete && isContinued line then
        let (more, complete) ← readJoined verbatim input fuel
        return (line.dropLast ++ more, complete)
      else return (line, complete)

/-- Reads a line into variables. -/
def read (arguments : List ByteText) : Eval Nat := do
  let verbatim := arguments.head? = some ['-', 'r']
  let names := if verbatim then arguments.drop 1 else arguments
  if names.isEmpty then abort "read" "arg count"
  let s ← Eval.shell
  let (line, complete) ← readJoined verbatim (s.descriptor 0) 100000
  let letters := if verbatim then line.map fun c => ⟨c, false⟩ else Field.guarded line
  let values := Field.share s.separators names.length letters
  (names.zip values).forM fun (name, value) => do
    checkName "read" name.toText
    Eval.change (·.assign name.toText value)
  return if complete then 0 else 1

-------------------------------------------------------------------------------
-- Signals and traps
-------------------------------------------------------------------------------

/-- The signal that a word names or numbers; 0 stands for none, or for the end of the shell. -/
def signal? (word : ByteText) : Option Nat :=
  if !word.isEmpty && word.all Char.isDigit then
    let number := ByteText.digitsValue 10 word
    if number ≤ 64 then some number else none
  else
    let name := String.ofList (word.map Char.toUpper)
    if name = "EXIT" then some 0
    else (Signal.ofName? name).map fun signal => signal.number.toNat

/-- Says what to do on signals. -/
def trap (arguments : List ByteText) : Eval Nat := do
  let reset (words : List ByteText) (action : Option ByteText) : Eval Nat := do
    words.foldlM
      (fun status word => do
        match signal? word with
        | some number =>
            Eval.change fun s =>
              let others := s.traps.filter fun entry => entry.1 ≠ number
              { s with traps := match action with
                  | some command => (number, command) :: others
                  | none => others }
            return status
        | none =>
            let errors := (← Eval.shell).descriptor 2
            Eval.act (Act.writeText errors ("trap: " ++ word.toText ++ ": bad trap\n"))
            return 1)
      0
  let arguments := if arguments.head? = some ['-', '-'] then arguments.drop 1 else arguments
  match arguments with
  | [] => return 0
  | [word] => reset [word] none
  | action :: words =>
      if action = ['-'] then reset words none
      else if (signal? action).isSome && action.all Char.isDigit then reset (action :: words) none
      else reset words (some action)

/-- What arrives at a shell that sends a signal to itself: nothing, a command to run, or its
end. -/
def deliver (number : Nat) : Eval (Option ByteText) := do
  let signal : Signal := ⟨number⟩
  let kill : Eval (Option ByteText) :=
    match signal.defaultAction with
    | .ignore => return none
    | .stop => Eval.act Act.forever
    | .terminate => throw (.halt (.signal signal))
  if !signal.canCatch then kill
  else
    match (← Eval.shell).traps.lookup number with
    | some [] => return none
    | some command => return some command
    | none => kill

/-- The signal that a call asks for, and the processes it goes to. -/
def killTarget (arguments : List ByteText) : Option Nat × List ByteText :=
  match arguments with
  | ['-', 's'] :: name :: rest => (signal? name, rest)
  | ('-' :: name) :: rest => (signal? name, rest)
  | rest => (some 15, rest)

def killUsage : String :=
  "Usage: kill [-s sigspec | -signum | -sigspec] [pid | job]... or\nkill -l [exitstatus]"

/-- Sends a signal to the shell itself or to the process above it. The commands to run because of
it come back. -/
def kill (top : Nat) (arguments : List ByteText) : Eval (Nat × List ByteText) := do
  match killTarget arguments with
  | (none, _) =>
      complain "kill" ("Illegal option " ++ ByteText.toText ((arguments.headD []).take 2))
      return (2, [])
  | (some _, []) =>
      complain "kill" killUsage
      return (2, [])
  | (some number, targets) =>
      targets.foldlM
        (fun (status, commands) target => do
          let s ← Eval.shell
          if number = 0 then return (status, commands)
          else if target = .ofInt s.process then
            return (status, commands ++ (← deliver number).toList)
          else if target = .ofInt top then
            Eval.act (Act.raise ⟨number⟩)
            return (status, commands)
          else
            complain "kill" "No such process\n"
            return (1, commands))
        (0, [])

-------------------------------------------------------------------------------
-- The present directory
-------------------------------------------------------------------------------

def cd (arguments : List ByteText) : Eval Nat := do
  let running ← get
  let target := arguments.headD ['/']
  match running.world.tree.look true target.toText with
  | .ok (place, .directory) =>
      let tree := { running.world.tree with home := place }
      set { running with world := { running.world with tree } }
      return 0
  | _ =>
      complain "cd" ("can't cd to " ++ target.toText)
      return 2

def pwd : Eval Nat := do
  let home := (← get).world.tree.home
  Eval.print (ByteText.ofString (Path.render true home) ++ ['\n'])
  return 0

-------------------------------------------------------------------------------
-- Control
-------------------------------------------------------------------------------

/-- Ends the shell. -/
def exit (arguments : List ByteText) : Eval Nat := do
  match arguments with
  | [] => pure ()
  | word :: _ => Eval.setStatus ((← number "exit" word) % 256)
  throw .exit

/-- Ends a function. -/
def leaveFunction (arguments : List ByteText) : Eval Nat := do
  match arguments with
  | [] => pure ()
  | word :: _ => Eval.setStatus ((← number "return" word) % 256)
  throw .functionEnd

/-- Leaves as many loops as asked for, or all there are. Outside of loops nothing happens. -/
def leaveLoops (leave : Nat → Leave) (name : String) (arguments : List ByteText) : Eval Nat := do
  let asked ← match arguments with
    | [] => pure 1
    | word :: _ => number name word
  let loops := (← Eval.shell).loops
  if loops = 0 then return 0 else throw (leave (asked.min loops))

/-- Tells which permissions new files are denied. -/
def umask (arguments : List ByteText) : Eval Nat := do
  if arguments.isEmpty then Eval.print "0022\n".toList
  return 0

/-- Carries out a command by its name; none if the shell has no such command. -/
def run? (name : String) (arguments : List ByteText) : Option (Eval Nat) :=
  match name with
  | ":" => some (pure 0)
  | "true" => some (pure 0)
  | "false" => some (pure 1)
  | "echo" => some (echo arguments)
  | "printf" => some (printf arguments)
  | "test" => some (test name arguments)
  | "[" => some (test name arguments)
  | "export" => some (assignAll name (arguments.filter (· ≠ ['-', 'p'])) true)
  | "readonly" => some (assignAll name arguments false)
  | "local" => some (declareLocal arguments)
  | "unset" => some (unset arguments)
  | "shift" => some (shift arguments)
  | "set" => some (setOptions arguments)
  | "read" => some (read arguments)
  | "trap" => some (trap arguments)
  | "cd" => some (cd arguments)
  | "pwd" => some pwd
  | "exit" => some (exit arguments)
  | "return" => some (leaveFunction arguments)
  | "break" => some (leaveLoops .loopEnd name arguments)
  | "continue" => some (leaveLoops .nextRound name arguments)
  | "wait" => some (pure 0)
  | "umask" => some (umask arguments)
  | _ => none

end GoldenSuite.Shell.Builtin

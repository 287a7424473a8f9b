import GoldenSuite.Host.World
import GoldenSuite.Shell.Field
import GoldenSuite.Shell.Grammar

/-! The state of a shell, and what can be done with it without running commands. -/

namespace GoldenSuite.Shell

open Host

/-- What a shell knows. -/
structure State where
  /-- The number by which the shell is called as a process, and that of the process above. -/
  process : Nat
  parent : Nat
  /-- The name of the script. -/
  name : ByteText
  arguments : List ByteText
  bindings : List (String × ByteText)
  exported : List String
  functions : List (String × Command)
  /-- Texts that redirections refer to. -/
  documents : List (Nat × Word)
  descriptors : List (Nat × Descriptor)
  /-- The commands for signals; an empty one means that the signal is ignored. The end of the
  shell counts as the signal 0. -/
  traps : List (Nat × ByteText)
  /-- Variables of the present function, with the values to go back to. -/
  saved : List (String × Option ByteText)
  status : Nat
  line : Nat
  /-- How many loops of the present function are going on. -/
  loops : Nat
  /-- Whether a failing command ends the shell, and whether the present one may fail. -/
  strict : Bool
  excused : Bool
  /-- Whether a variable has to be set to be used. -/
  careful : Bool
  /-- Whether commands are shown before they are run. -/
  traced : Bool
  /-- Whether the next program takes the shell's own place. -/
  final : Bool

/-- A shell and the world around it. -/
structure Running where
  shell : State
  world : World
  /-- How many rounds of loops are left before the shell is taken to run for ever. -/
  rounds : Nat

/-- Why commands are not carried on with. -/
inductive Leave where
  /-- The shell ends with its present status. -/
  | exit
  | halt (cause : Halt)
  | loopEnd (levels : Nat)
  | nextRound (levels : Nat)
  | functionEnd

/-- Something a shell does. -/
abbrev Eval (α : Type) : Type :=
  ExceptT Leave (StateM Running) α

namespace State

/-- The characters at which words are split. -/
def separators (s : State) : ByteText :=
  (s.bindings.lookup "IFS").getD [' ', '\t', '\n']

def assign (s : State) (name : String) (value : ByteText) : State :=
  { s with bindings := (name, value) :: s.bindings.filter (fun entry => entry.1 ≠ name) }

def unset (s : State) (name : String) : State :=
  { s with bindings := s.bindings.filter fun entry => entry.1 ≠ name }

/-- Where a descriptor leads. -/
def descriptor (s : State) (number : Nat) : Descriptor :=
  (s.descriptors.lookup number).getD .nothing

def connect (s : State) (number : Nat) (target : Descriptor) : State :=
  { s with
    descriptors := (number, target) :: s.descriptors.filter (fun entry => entry.1 ≠ number) }

def streams (s : State) : Streams where
  input := s.descriptor 0
  output := s.descriptor 1
  errors := s.descriptor 2

/-- The value of a parameter, if it has one. Those that stand for all arguments are not among
them. -/
def value? (s : State) (name : String) : Option ByteText :=
  match name with
  | "#" => some (.ofInt s.arguments.length)
  | "?" => some (.ofInt s.status)
  | "$" => some (.ofInt s.process)
  | "!" => none
  | "-" => some (if s.strict then ['e'] else [])
  | "0" => some s.name
  | "PPID" => some (.ofInt s.parent)
  | _ =>
      match name.toNat? with
      | some (n + 1) => s.arguments[n]?
      | _ => s.bindings.lookup name

end State

namespace Eval

/-- Does something in the world. -/
def act {α : Type} (a : Act α) : Eval α := do
  let running ← get
  let (result, world) := a.run.run running.world
  set { running with world }
  match result with
  | .ok value => return value
  | .error cause => throw (.halt cause)

def shell : Eval State := do
  return (← get).shell

def change (f : State → State) : Eval Unit :=
  modify fun running => { running with shell := f running.shell }

def setStatus (status : Nat) : Eval Unit :=
  change fun s => { s with status }

/-- Prints to the standard output. -/
def print (text : ByteText) : Eval Unit := do
  act (Act.write ((← shell).descriptor 1) text.toBytes)

/-- Complains on the diagnostic stream, with the name of the script and the line. -/
def complain (message : ByteText) : Eval Unit := do
  let s ← shell
  let front := s.name ++ ": ".toList ++ .ofInt s.line ++ ": ".toList
  act (Act.write (s.descriptor 2) (front ++ message ++ ['\n']).toBytes)

/-- Shows a command before it is run, if that is asked for. -/
def trace (words : List ByteText) : Eval Unit := do
  let s ← shell
  if s.traced then
    let line : ByteText := '+' :: ' ' :: [' '].intercalate words ++ ['\n']
    act (Act.write (s.descriptor 2) line.toBytes)

/-- The status of a shell that cannot go on. -/
def failure : Nat := 2

/-- Complains and ends the shell. -/
def abort {α : Type} (message : ByteText) : Eval α := do
  complain message
  setStatus failure
  throw .exit

/-- Repeats a step while it asks for it. A loop that goes on for too long is taken to go on for
ever. -/
def iterate (step : Eval Bool) : Nat → Running → Except Leave Unit × Running
  | 0, running => (act Act.forever).run.run running
  | limit + 1, running =>
      match running.rounds with
      | 0 => (act Act.forever).run.run running
      | rounds + 1 =>
          match step.run.run { running with rounds } with
          | (.ok true, next) => iterate step limit next
          | (.ok false, next) => (.ok (), next)
          | (.error leave, next) => (.error leave, next)

/-- Repeats a step while it asks for it. -/
def repeating (step : Eval Bool) : Eval Unit := do
  let running ← get
  let (result, next) := iterate step running.rounds running
  set next
  match result with
  | .ok () => return
  | .error leave => throw leave

/-- Runs a loop. -/
def looping (body : Eval Unit) : Eval Unit := do
  let loops := (← shell).loops
  change fun s => { s with loops := loops + 1 }
  body
  change fun s => { s with loops }

/-- Runs the body of a loop once; tells whether the loop goes on. -/
def round (body : Eval Unit) : Eval Bool :=
  tryCatch (do body; return true) fun
    | .loopEnd levels =>
        if levels ≤ 1 then return false else throw (.loopEnd (levels - 1))
    | .nextRound levels =>
        if levels ≤ 1 then return true else throw (.nextRound (levels - 1))
    | leave => throw leave

/-- Runs something in a copy of the shell. Nothing but the status and the world comes back. -/
def inCopy (body : Eval Unit) : Eval Unit := do
  let running ← get
  let before := running.shell
  let home := running.world.tree.home
  change fun s => { s with traps := s.traps.filter fun entry => entry.2.isEmpty }
  tryCatch body fun
    | .halt cause => throw (.halt cause)
    | _ => return
  let after ← get
  set { after with
    shell := { before with status := after.shell.status }
    world := { after.world with tree := { after.world.tree with home } } }

/-- Runs something with the output going elsewhere. -/
def withDescriptors (connections : List (Nat × Descriptor)) (body : Eval Unit) : Eval Unit := do
  let before := (← shell).descriptors
  change fun s => connections.foldl (fun s (number, target) => s.connect number target) s
  let restore : Eval Unit := change fun s => { s with descriptors := before }
  tryCatch body fun leave => do
    restore
    throw leave
  restore

end Eval

end GoldenSuite.Shell

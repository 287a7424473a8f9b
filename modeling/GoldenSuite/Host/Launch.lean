import GoldenSuite.Host.ByteText
import GoldenSuite.Host.System
import GoldenSuite.Text.Quoted

/-! Starting programs: which program of the system a command leads to, and with which
arguments. -/

namespace GoldenSuite.Host

/-- A program of the system with its arguments, the name it was called by first. -/
structure Image where
  program : String
  arguments : List ByteText
deriving DecidableEq

/-- Whether anybody may execute a file with these permission bits. -/
def isExecutableMode (mode : Nat) : Bool :=
  mode &&& 0o111 ≠ 0

/-- Whether a byte is a blank inside a line. -/
def isBlankByte (byte : UInt8) : Bool :=
  byte = 32 || byte = 9

/-- The interpreter that the first line of a script asks for, and the argument it gets. -/
def interpreterLine? (data : Bytes) : Option (Bytes × Option Bytes) :=
  match data with
  | 35 :: 33 :: rest =>
      let line := (rest.takeWhile (· ≠ 10)).dropWhile isBlankByte
      let line := (line.reverse.dropWhile isBlankByte).reverse
      let name := line.takeWhile (fun byte => !isBlankByte byte)
      let argument := (line.dropWhile (fun byte => !isBlankByte byte)).dropWhile isBlankByte
      if name.isEmpty then none
      else some (name, if argument.isEmpty then none else some argument)
  | _ => none

/-- How many interpreters may stand behind each other. -/
def interpreterDepth : Nat := 5

/-- Loads the program at a path. A script leads on to its interpreter, which gets the script's
path in place of the name it was called by. -/
def load (tree : FileTree) : Nat → String → List ByteText → Except Refusal Image
  | 0, _, _ => .error .tooManyLinks
  | depth + 1, path, arguments =>
      match tree.look true path with
      | .error cause => .error cause
      | .ok (_, .program name) => .ok ⟨name, arguments⟩
      | .ok (_, .file data mode) =>
          if !isExecutableMode mode then .error .permissionDenied
          else
            match interpreterLine? data with
            | none => .error .execFormat
            | some (name, argument) =>
                load tree depth (Bytes.toStringLossy name)
                  (ByteText.ofBytes name :: (argument.map ByteText.ofBytes).toList
                    ++ ByteText.ofString path :: arguments.drop 1)
      | .ok _ => .error .permissionDenied

/-- Whether a path leads to something that can be executed. -/
def canExecute (tree : FileTree) (path : String) : Bool :=
  match tree.look true path with
  | .ok (_, .program _) => true
  | .ok (_, .file _ mode) => isExecutableMode mode
  | _ => false

/-- The first program of a name on the search path. -/
def search? (tree : FileTree) (name : String) : Option String :=
  (searchPath.map fun dir => Path.join dir name).find? (canExecute tree)

/-- What a name that cannot be looked up ends in. -/
def lookupFault (name why : String) : Fault :=
  .plain ("exec: " ++ Text.Quoted.ofString name ++ ": " ++ why)

/-- The path of the program that a command names. Bare names are looked for on the search
path. -/
def resolveCommand (tree : FileTree) (command : String) : Except Fault String :=
  if command = "" then .error (.plain "exec: no command")
  else if command = "/" then .error (lookupFault command Refusal.isDirectory.message)
  else if Path.base command = command then
    match search? tree command with
    | some path => .ok path
    | none => .error (lookupFault command "executable file not found in $PATH")
  else .ok command

/-- Starts a command with one argument. `halted` is the reason not to start anything any more;
it is looked at once the command has been found. -/
def start (tree : FileTree) (halted : Option Mark) (command argument : String)
    : Except Fault Image :=
  match resolveCommand tree command, halted with
  | .error fault, _ => .error fault
  | .ok _, some mark => .error (.mark mark)
  | .ok path, none =>
      let refuse (cause : Refusal) : Except Fault Image := .error (.refused "fork/exec" path cause)
      if argument.toList.contains '\x00' then refuse .invalidArgument
      else
        match load tree interpreterDepth path 
          [ByteText.ofString command, ByteText.ofString argument] with
        | .ok image => .ok image
        | .error cause => refuse cause

end GoldenSuite.Host

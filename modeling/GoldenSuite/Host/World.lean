import GoldenSuite.Execution.Status
import GoldenSuite.FileTree.Access

/-! What a process can do to the world outside: read, write, wait, send signals. Time passes only
while a process waits. -/

namespace GoldenSuite.Host

/-- Where a descriptor leads to. -/
inductive Descriptor where
  /-- Something to read from, which is used up. -/
  | source (index : Nat)
  /-- Something that collects what is written to it. -/
  | sink (index : Nat)
  /-- A file that is written at its end. -/
  | file (place : Place)
  /-- A directory, which can neither be read nor written. -/
  | directory
  /-- Nothing to read, and writes are lost. -/
  | nothing
deriving DecidableEq, Inhabited

/-- The three descriptors that every process has. -/
structure Streams where
  input : Descriptor
  output : Descriptor
  errors : Descriptor

/-- What processes share. -/
structure World where
  tree : FileTree
  /-- The time since the start, in nanoseconds. -/
  clock : Nat
  /-- The time at which everything is killed. -/
  limit : Option Nat
  /-- The signals that were sent to the process above the first one. -/
  raised : List Signal
  /-- What is left to read. -/
  sources : Array Bytes
  /-- What has been written, the last piece first. -/
  sinks : Array (List Bytes)

/-- Why a process cannot go on. -/
inductive Halt where
  /-- It was killed by a signal. -/
  | signal (signal : Signal)
  /-- It would go on for longer than it is allowed to. -/
  | endless
deriving DecidableEq

/-- Something a process does: it may end the process. -/
abbrev Act (α : Type) : Type :=
  ExceptT Halt (StateM World) α

namespace Act

-------------------------------------------------------------------------------
-- Reading and writing
-------------------------------------------------------------------------------

/-- Opens something to read. -/
def openSource (data : Bytes) : Act Descriptor := do
  let world ← get
  set { world with sources := world.sources.push data }
  return .source world.sources.size

/-- Opens something that collects what is written. -/
def openSink : Act Descriptor := do
  let world ← get
  set { world with sinks := world.sinks.push [] }
  return .sink world.sinks.size

/-- Reads all that is left; nothing comes back from what cannot be read. -/
def readAll : Descriptor → Act (Option Bytes)
  | .source index => do
      let world ← get
      set { world with sources := world.sources.setIfInBounds index [] }
      return some (world.sources.getD index [])
  | .directory => return none
  | _ => return some []

/-- Reads up to the next newline: the line, and whether the newline was there. -/
def readLine : Descriptor → Act (Bytes × Bool)
  | .source index => do
      let world ← get
      let data := world.sources.getD index []
      let line := data.takeWhile (· ≠ 10)
      let rest := data.dropWhile (· ≠ 10)
      set { world with sources := world.sources.setIfInBounds index (rest.drop 1) }
      return (line, !rest.isEmpty)
  | _ => return ([], false)

/-- Writes to a descriptor. -/
def write (target : Descriptor) (data : Bytes) : Act Unit := do
  match target with
  | .sink index =>
      modify fun world => { world with sinks := world.sinks.modify index (data :: ·) }
  | .file place =>
      modify fun world =>
        match world.tree.find? place with
        | some (.file before mode) =>
            { world with tree := world.tree.put place (.file (before ++ data) mode) }
        | _ => world
  | _ => return

def writeText (target : Descriptor) (text : String) : Act Unit :=
  write target (Bytes.ofString text)

/-- All that a descriptor has collected. -/
def collected (target : Descriptor) : Act Bytes := do
  match target with
  | .sink index => return ((← get).sinks.getD index []).reverse.flatten
  | _ => return []

-------------------------------------------------------------------------------
-- The file tree
-------------------------------------------------------------------------------

/-- Opens a file to read. -/
def openInput (path : String) : Act (Except Refusal Descriptor) := do
  match (← get).tree.look true path with
  | .error cause => return .error cause
  | .ok (_, .file data _) => return .ok (← openSource data)
  | .ok (_, .directory) => return .ok .directory
  | .ok _ => return .ok .nothing

/-- Opens a file to write, empty unless it is to be continued. -/
def openOutput (path : String) (continued : Bool) : Act (Except Refusal Descriptor) := do
  let world ← get
  match world.tree.locate true path with
  | .error cause => return .error cause
  | .ok place =>
      match world.tree.find? place with
      | none =>
          set { world with tree := world.tree.put place (.file [] FileTree.plainMode) }
          return .ok (.file place)
      | some (.file _ mode) =>
          if !continued then set { world with tree := world.tree.put place (.file [] mode) }
          return .ok (.file place)
      | some .directory => return .error .isDirectory
      | some .sink => return .ok .nothing
      | some _ => return .error .permissionDenied

-------------------------------------------------------------------------------
-- Time and signals
-------------------------------------------------------------------------------

/-- Never goes on: the process is there until it is killed. -/
def forever {α : Type} : Act α := do
  modify fun world => { world with clock := (world.limit.getD world.clock).max world.clock }
  throw .endless

/-- Waits for a number of nanoseconds. A process whose parent was asked to stop does not get to
the end of its wait. -/
def sleep (span : Nat) : Act Unit := do
  let world ← get
  let wake := world.clock + span
  if !world.raised.isEmpty || world.limit.any (· ≤ wake) then forever
  else set { world with clock := wake }

/-- Sends a signal to the process above. -/
def raise (signal : Signal) : Act Unit :=
  modify fun world => { world with raised := world.raised ++ [signal] }

end Act

end GoldenSuite.Host

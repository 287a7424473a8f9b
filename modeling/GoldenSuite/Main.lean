import GoldenSuite.Clock
import GoldenSuite.Command.Run
import GoldenSuite.Host.Executor
import GoldenSuite.RunId
import Std.Time.DateTime

/-! The command line. The working directory is read into a file tree, the call is carried out on
it, and what has changed is written back. Programs under test are run by the shell of this
library. -/

namespace GoldenSuite.CommandLine

/-- How deep below the working directory files are looked at. -/
def depthLimit : Nat := 32

/-- The permission bits that files are taken to have. -/
def assumedMode : Nat := 0o755

/-- Reads a directory, and what is below it, into a tree. -/
def readBelow : Nat → String → Place → FileTree → IO FileTree
  | 0, _, _, tree => return tree
  | depth + 1, path, place, tree => do
      let entries ← (System.mkFilePath [path]).readDir
      entries.foldlM
        (fun tree entry => do
          let below := path ++ "/" ++ entry.fileName
          let inner := place ++ [entry.fileName]
          match (← entry.path.symlinkMetadata).type with
          | .dir => readBelow depth below inner (tree.put inner .directory)
          | .symlink =>
              try
                return tree.put inner (.link (← IO.FS.realPath below).toString)
              catch _ => return tree.put inner (.link below)
          | .file =>
              try
                let data ← IO.FS.readBinFile below
                return tree.put inner (.file data.toList assumedMode)
              catch _ => return tree
          | .other => return tree)
        tree

/-- The path of a place below the working directory. -/
def pathBelow (home place : Place) : String :=
  String.intercalate "/" (place.drop home.length)

/-- Writes what a call has changed below the working directory. -/
def writeChanges (before after : FileTree) : IO Unit := do
  let home := before.home
  for (place, node) in before.nodes do
    if home.isPrefixOf place && after.find? place = none then
      match node with
      | .directory => IO.FS.removeDir (pathBelow home place)
      | _ => IO.FS.removeFile (pathBelow home place)
  for (place, node) in after.nodes.reverse do
    if home.isPrefixOf place && home ≠ place && before.find? place ≠ some node then
      match node with
      | .directory => IO.FS.createDirAll (pathBelow home place)
      | .file data _ => IO.FS.writeBinFile (pathBelow home place) ⟨data.toArray⟩
      | _ => pure ()

/-- The variables that a call looks at. -/
def variableNames : List String :=
  "NO_COLOR" :: Flag.all.map fun flag => flag.envName

/-- The values that the variables have. -/
def readEnvironment : IO (List (String × String)) :=
  variableNames.filterMapM fun name => do
    return (← IO.getEnv name).map fun value => (name, value)

def run (arguments : List String) : IO UInt32 := do
  let home : Place := Path.names (← IO.currentDir).toString
  let before ← readBelow depthLimit "." home (Host.freshSystem home)
  let environment ← readEnvironment
  let now ← Std.Time.Timestamp.now
  let randomness ← IO.getRandomBytes 16
  let output ← IO.getStdout
  let diagnostics ← IO.getStderr
  let around : Surroundings Host.Caller :=
    { environment := fun name => environment.lookup name
      executor := fun config => Host.executor config.machine config.timeout
      interrupts := fun _ => false
      runId := RunId.ofBytes randomness.toList
      clock := Clock.text now.toMillisecondsSinceUnixEpoch.val.toNat
      outputIsTerminal := ← output.isTty
      diagnosticsIsTerminal := ← diagnostics.isTty }
  let outcome := Command.run around arguments (.start before .patient false)
  writeChanges before outcome.session.tree
  output.putStr outcome.session.output
  diagnostics.write ⟨outcome.session.diagnostics.toArray⟩
  output.flush
  diagnostics.flush
  return outcome.code.toUInt32

end GoldenSuite.CommandLine

/-- Carries out one call. -/
def main (arguments : List String) : IO UInt32 :=
  GoldenSuite.CommandLine.run arguments

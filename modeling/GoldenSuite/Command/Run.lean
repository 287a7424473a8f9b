import GoldenSuite.Command.Help
import GoldenSuite.Run

/-! One call of the program, from its arguments to its exit code. -/

namespace GoldenSuite

/-- All that a call finds around it. -/
structure Surroundings (σ : Type) where
  environment : String → Option String
  /-- How programs under test are run. -/
  executor : Config → Executor σ
  /-- When the request to stop comes. -/
  interrupts : Nat → Bool
  /-- What tells this run from all others. -/
  runId : String
  /-- What stands for the time in log lines. -/
  clock : String
  outputIsTerminal : Bool
  diagnosticsIsTerminal : Bool

/-- What a call leaves behind. -/
structure Outcome (σ : Type) where
  code : Nat
  session : Session σ

namespace Command

variable {σ : Type}

/-- The exit code of a call for help on something unknown. -/
def unknownTopicCode : Nat := 3

/-- Ends a call with a line on the diagnostic stream. -/
def close (s : Session σ) (code : Nat) (line : String) : Outcome σ :=
  ⟨code, { s with diagnostics := s.diagnostics ++ Bytes.ofString (line ++ "\n") }⟩

/-- Ends a call that cannot be carried out. -/
def refuse (s : Session σ) (fault : Fault) : Outcome σ :=
  close s ExitCode.runtimeFailure.toNat (Fault.runtime fault).message

/-- Whether to use colours on a stream. -/
def colors (around : Surroundings σ) (config : Config) (isTerminal : Bool) : Bool :=
  Reporter.useColors config.noColors ((around.environment "NO_COLOR").getD "") isTerminal

/-- What the log says about a configuration. -/
def configRecord (config : Config) : Log.Record :=
  ⟨.debug, "Config",
    [⟨"machine", .text config.machine⟩, ⟨"layout", .text config.layout.describe⟩,
      ⟨"timeout", .duration config.timeout⟩]⟩

/-- Prints what comes after a complete run: the table if asked for, and the summary. -/
def conclude (around : Surroundings σ) (h : Harness σ) (s : Session σ) (tally : Tally)
    : Outcome σ :=
  let table := if h.config.showTable then h.reporter.table tally around.runId else ""
  ⟨tally.exitCode.toNat, s.print (table ++ Reporter.summary tally)⟩

/-- Ends a call after its run. -/
def finish (around : Surroundings σ) (h : Harness σ) (ending : Harness.Ending σ) : Outcome σ :=
  let s := ending.session
  match ending.fault, ending.tally with
  | some fault, _ =>
      if fault.isRuntime then
        let s := s.log h.logger ⟨.error, "Run aborted", [⟨"err", .text fault.message⟩]⟩
        close s ExitCode.runtimeFailure.toNat fault.message
      else close s ExitCode.runtimeFailure.toNat ("run interrupted: " ++ fault.message)
  | none, some tally => conclude around h s tally
  | none, none => ⟨ExitCode.success.toNat, s⟩

/-- Carries out a run with settings. -/
def runWith (around : Surroundings σ) (settings : Settings) (s : Session σ) : Outcome σ :=
  match settings.configure s.tree with
  | .error fault => refuse s fault
  | .ok config =>
      match Log.create settings.level (colors around config around.diagnosticsIsTerminal)
        around.clock with
      | .error fault => refuse s fault
      | .ok logger =>
          let logger := logger.extend "run" (.text around.runId)
          let s := s.log logger (configRecord config)
          match Harness.create config logger (some (around.executor config))
            (colors around config around.outputIsTerminal) around.interrupts with
          | .error fault => refuse s fault
          | .ok h => finish around h (h.run s)

/-- Carries out what a call asks for. -/
def perform (around : Surroundings σ) (request : Request) (s : Session σ) : Outcome σ :=
  match request with
  | .run settings _ => runWith around settings s
  | .help text => ⟨ExitCode.success.toNat, s.print text.text⟩
  | .version =>
      ⟨ExitCode.success.toNat,
        s.print (HelpText.programName ++ " version " ++ HelpText.version ++ "\n")⟩
  | .unknownTopic topic => close s unknownTopicCode ("No help topic for '" ++ topic ++ "'")
  | .misuse error text =>
      close (s.print ("Incorrect Usage: " ++ error.message ++ "\n\n" ++ text.text))
        ExitCode.runtimeFailure.toNat (HelpText.programName ++ ": " ++ error.message)

/-- One call of the program. -/
def run (around : Surroundings σ) (arguments : List String) (s : Session σ) : Outcome σ :=
  perform around (Request.of around.environment arguments) s

end Command

end GoldenSuite

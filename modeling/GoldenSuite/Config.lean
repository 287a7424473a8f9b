import GoldenSuite.Duration
import GoldenSuite.Layout

/-! Configurations of a run, their defaults, and which of them are accepted. -/

namespace GoldenSuite

/-- All that a run needs to know. -/
structure Config where
  /-- The program under test. -/
  machine : String
  layout : Layout
  /-- How long a case may take; zero is for ever. -/
  timeout : Duration
  /-- Whether a non-zero exit status fails a case. -/
  strictExit : Bool
  noColors : Bool
  /-- The pattern of the cases to run; empty for all. -/
  run : String
  showDiff : Bool
  showTable : Bool
deriving DecidableEq, Inhabited

namespace Config

def defaultMachine : String := "./machine"
def defaultTestsDir : String := "Tests"
def defaultTimeout : Duration := .ofSeconds 30

def default : Config where
  machine := defaultMachine
  layout := .under defaultTestsDir
  timeout := defaultTimeout
  strictExit := false
  noColors := false
  run := ""
  showDiff := false
  showTable := false

/-- Why a configuration is not accepted. -/
inductive Invalid where
  | emptyMachine
  | emptyDirectory
  | emptyExtension
  | negativeTimeout (timeout : Duration)
deriving DecidableEq

def Invalid.message : Invalid → String
  | .emptyMachine => "machine must not be empty"
  | .emptyDirectory => "layout directories must not be empty"
  | .emptyExtension => "layout program_ext must not be empty"
  | .negativeTimeout timeout => "timeout must not be negative, got " ++ timeout.toText

/-- The first thing that is wrong with a configuration. -/
def invalid? (config : Config) : Option Invalid :=
  if config.machine = "" then some .emptyMachine
  else if config.layout.programs = "" || config.layout.inputs = ""
      || config.layout.references = "" || config.layout.scratch = "" then some .emptyDirectory
  else if config.layout.programExt = "" then some .emptyExtension
  else if config.timeout.ns < 0 then some (.negativeTimeout config.timeout)
  else none

end Config

end GoldenSuite

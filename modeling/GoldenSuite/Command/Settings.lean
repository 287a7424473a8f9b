import GoldenSuite.Config.File

/-! What flags and variables set, and the configuration that comes of it: the defaults, a file on
top of them, and what is set on top of both. -/

namespace GoldenSuite

/-- What is set by flags or variables; what is not set stays as it is. -/
structure Settings where
  noColors : Option Bool := none
  machine : Option String := none
  testsDir : Option String := none
  config : Option String := none
  timeout : Option Duration := none
  strictExit : Option Bool := none
  run : Option String := none
  diff : Option Bool := none
  table : Option Bool := none
  logLevel : Option String := none
deriving DecidableEq, Inhabited

namespace Settings

def defaultLogLevel : String := "warn"

/-- The log level that is asked for. -/
def level (settings : Settings) : String :=
  settings.logLevel.getD defaultLogLevel

/-- The configuration below the settings: that of the file, if one is named. -/
def base (tree : FileTree) (settings : Settings) : Except Fault Config :=
  match settings.config with
  | none => .ok .default
  | some path => if path = "" then .ok .default else Config.load tree path

/-- A tests directory moves all directories of a layout and keeps its extension. -/
def layoutFrom (settings : Settings) (layout : Layout) : Layout :=
  match settings.testsDir with
  | none => layout
  | some dir => { Layout.under dir with programExt := layout.programExt }

/-- A configuration with everything that is set. -/
def applyTo (settings : Settings) (config : Config) : Config where
  machine := settings.machine.getD config.machine
  layout := settings.layoutFrom config.layout
  timeout := settings.timeout.getD config.timeout
  strictExit := settings.strictExit.getD config.strictExit
  noColors := settings.noColors.getD config.noColors
  run := settings.run.getD config.run
  showDiff := settings.diff.getD config.showDiff
  showTable := settings.table.getD config.showTable

/-- The configuration that settings ask for. -/
def configure (tree : FileTree) (settings : Settings) : Except Fault Config :=
  match settings.base tree with
  | .error fault => .error fault
  | .ok below =>
      let config := settings.applyTo below
      match config.invalid? with
      | some invalid => .error (.plain invalid.message)
      | none => .ok config

end Settings

end GoldenSuite

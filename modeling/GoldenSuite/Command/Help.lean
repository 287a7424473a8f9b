import GoldenSuite.Command.Request

/-! The texts about how to use the program. -/

namespace GoldenSuite.HelpText

/-- The name and the version of the program. -/
def programName : String := "gradescript"
def version : String := "v0.1.0"

/-- One line for each flag of a run. -/
def flagLines : String :=
  "   --no-colors        Disable colored output (default: false) [$GRADESCRIPT_NO_COLORS]
   --machine value    Program under test, invoked as '<machine> <program>' (default: \"./machine\") [$GRADESCRIPT_MACHINE]
   --tests-dir value  Directory holding the v/, input/, output/ and our/ directories (default: \"Tests\") [$GRADESCRIPT_TESTS_DIR]
   --config value     Path to a YAML config file; explicit flags take precedence [$GRADESCRIPT_CONFIG]
   --timeout value    Per-case timeout, 0 disables it (default: 30s) [$GRADESCRIPT_TIMEOUT]
   --strict-exit      Fail cases whose program exits with a non-zero status (default: false) [$GRADESCRIPT_STRICT_EXIT]
   --run value        Only run cases whose name matches this regexp [$GRADESCRIPT_RUN]
   --diff             Print a line diff for cases whose output does not match (default: false) [$GRADESCRIPT_DIFF]
   --table            Print a results table before the summary (default: false) [$GRADESCRIPT_TABLE]
   --log.level value  Diagnostic log level written to stderr (trace, debug, info, warn, error, crit) (default: \"warn\") [$GRADESCRIPT_LOG_LEVEL]
   --help, -h         show help
   --version, -v      print the version
"

/-- The help on the program. -/
def programText : String :=
  "NAME:
   " ++ programName ++ " - Run the program under test against golden output files

USAGE:
   " ++ programName ++ " [global options] command [command options]

VERSION:
   " ++ version ++ "

COMMANDS:
   help, h  Shows a list of commands or help for one command

GLOBAL OPTIONS:
" ++ flagLines

/-- The help on the help command, with a part before its options. -/
def commandText (middle : String) : String :=
  "NAME:
    help - Shows a list of commands or help for one command

USAGE:
    help [command options] [command]

" ++ middle ++ "OPTIONS:
   --help, -h  show help
"

/-- The commands of the help command. -/
def commandLines : String :=
  "COMMANDS:
   help, h  Shows a list of commands or help for one command

"

def text : HelpText → String
  | .program => programText
  | .command => commandText ""
  | .commandWithCommands => commandText commandLines

end GoldenSuite.HelpText

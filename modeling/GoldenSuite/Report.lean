import GoldenSuite.Diff.Text
import GoldenSuite.Table
import GoldenSuite.Tally

/-! What a run prints: a line when a case starts, a line when it is done, and at the end a table
and a summary. -/

namespace GoldenSuite

/-- How a run is reported. -/
structure Reporter where
  colors : Bool
  showDiff : Bool

namespace Reporter

/-- Whether to use colours: neither the configuration nor the environment asks for none, and the
output goes to a terminal. -/
def useColors (noColors : Bool) (noColorVariable : String) (isTerminal : Bool) : Bool :=
  !noColors && noColorVariable = "" && isTerminal

inductive Color where
  | red
  | green
  | yellow
  | blue

def Color.code : Color → String
  | .red => "31"
  | .green => "32"
  | .yellow => "33"
  | .blue => "34"

def paint (reporter : Reporter) (color : Color) (text : String) : String :=
  if reporter.colors then Table.paint color.code text else text

/-- The line before a case. -/
def starting (reporter : Reporter) (tc : TestCase) : String :=
  let label := if tc.hasInput then tc.name else tc.name ++ " (no input)"
  reporter.paint .blue ("Running test: " ++ label) ++ "\n"

/-- What there is to say about a result beyond a plain pass or mismatch. -/
def details (result : CaseResult) : String :=
  let kind :=
    match result.kind with
    | .none => []
    | .outputMismatch => []
    | kind => [kind.text]
  let ending :=
    match result.signal with
    | some signal => ["killed by signal: " ++ signal.describe]
    | none =>
        if 0 < result.exitCode then ["exit status " ++ toString result.exitCode] else []
  String.intercalate ", " (kind ++ ending)

/-- The differences between the reference and the actual output of a case. Nothing is printed if
one of them cannot be read. -/
def diff (reporter : Reporter) (tree : FileTree) (tc : TestCase) : String :=
  match tree.readFile tc.reference, tree.readFile tc.actual with
  | .ok want, .ok got =>
      match Diff.report want got with
      | [] => ""
      | lines =>
          reporter.paint .yellow "  (-reference +actual):" ++ "\n"
            ++ String.join (lines.map fun line => "  " ++ line ++ "\n")
  | _, _ => ""

/-- The line that says how a case ended. -/
def verdictLine (reporter : Reporter) (result : CaseResult) : String :=
  let head :=
    match result.verdict with
    | .pass => reporter.paint .green ("Test passed: " ++ result.tc.name)
    | .fail => reporter.paint .red ("Test failed: " ++ result.tc.name)
  let more := details result
  if more = "" then head ++ "\n"
  else head ++ " " ++ reporter.paint .yellow ("(" ++ more ++ ")") ++ "\n"

/-- What is printed after a case. -/
def finished (reporter : Reporter) (tree : FileTree) (result : CaseResult) : String :=
  let line := reporter.verdictLine result
  if reporter.showDiff && result.kind = .outputMismatch then line ++ reporter.diff tree result.tc
  else line

-------------------------------------------------------------------------------
-- The table of results
-------------------------------------------------------------------------------

def columns : List Table.Column :=
  [ { heading := "CASE", wrapAt := some 40 },
    { heading := "INPUT" },
    { heading := "RESULT" },
    { heading := "REASON" },
    { heading := "EXIT", align := .right, numeric := true },
    { heading := "DURATION", align := .right } ]

def resultText : Verdict → String
  | .pass => "PASS"
  | .fail => "FAIL"

def row (result : CaseResult) : List String :=
  [ result.tc.name,
    if result.tc.hasInput then result.tc.input else "-",
    resultText result.verdict,
    if result.kind = .none then "" else result.kind.text,
    toString result.exitCode,
    result.duration.display ]

def passPalette : Table.Palette where
  title := "92;100;1"
  header := "102;30"
  footer := "42;30"
  oddRow := "107;30"
  evenRow := "47;30"

def failPalette : Table.Palette where
  title := "91;100;1"
  header := "101;30"
  footer := "41;30"
  oddRow := "107;30"
  evenRow := "47;30"

def style (reporter : Reporter) (tally : Tally) : Table.Style :=
  if !reporter.colors then .lines
  else if tally.shouldFail then .colored failPalette
  else .colored passPalette

/-- The table of all results of a run. -/
def table (reporter : Reporter) (tally : Tally) (runId : String) : String :=
  Table.render (reporter.style tally)
    { title := "Results (run " ++ runId ++ ")"
      columns := columns
      rows := tally.results.map row
      footer :=
        ["TOTAL", "", toString tally.passed ++ "/" ++ toString tally.total, "", "", ""] }

/-- The closing lines of a run. -/
def summary (tally : Tally) : String :=
  "\n" ++ tally.summary ++ "\n"

end Reporter

end GoldenSuite

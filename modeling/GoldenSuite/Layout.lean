import GoldenSuite.Path

/-! The directories of a test suite. -/

namespace GoldenSuite

/-- Where the programs, inputs, reference outputs and actual outputs of a suite are, and how
program files end. -/
structure Layout where
  programs : String
  inputs : String
  references : String
  scratch : String
  programExt : String
deriving DecidableEq, Inhabited

namespace Layout

/-- The standard layout below a directory. -/
def under (dir : String) : Layout where
  programs := Path.join dir "v"
  inputs := Path.join dir "input"
  references := Path.join dir "output"
  scratch := Path.join dir "our"
  programExt := ".v"

/-- A layout on one line, each part with its label. -/
def describe (layout : Layout) : String :=
  "\x7bProgramDir:" ++ layout.programs ++ " InputDir:" ++ layout.inputs ++ " ReferenceDir:"
    ++ layout.references ++ " ScratchDir:" ++ layout.scratch ++ " ProgramExt:"
    ++ layout.programExt ++ "\x7d"

end Layout

end GoldenSuite

/-! Test cases, and which program an input belongs to. An input belongs to a program if its stem
is the program's name, alone or followed by a dash and anything. -/

namespace GoldenSuite

/-- The extension of input, reference and output files. -/
def textExt : String := ".txt"

/-- One run of the program under test. -/
structure TestCase where
  /-- The name of the program file without its extension. -/
  base : String
  program : String
  /-- Empty for the plain case, else a dash and more. -/
  suffix : String
  /-- The file that is fed to the program; empty if there is none. -/
  input : String
  actual : String
  reference : String
deriving DecidableEq, Inhabited

namespace TestCase

/-- The name that is printed and that output files are called by. -/
def name (tc : TestCase) : String :=
  tc.base ++ tc.suffix

def hasInput (tc : TestCase) : Bool :=
  tc.input ≠ ""

end TestCase

-------------------------------------------------------------------------------
-- Claiming inputs
-------------------------------------------------------------------------------

/-- What is left of `text` after `start`, if it begins so. -/
def afterStart? (start text : List Char) : Option (List Char) :=
  if start.isPrefixOf text then some (text.drop start.length) else none

/-- The variant that an input stem is of a program name: nothing if they are the same, else the
part from the dash on. -/
def variantOf? (stem base : String) : Option String :=
  if stem = base then some ""
  else
    (afterStart? (base.toList ++ ['-']) stem.toList).map fun rest =>
      String.ofList ('-' :: rest)

/-- An input that a program has claimed. -/
structure Claim where
  base : String
  suffix : String
deriving DecidableEq, Inhabited

/-- Lets one more program try for an input: it gets the input if the stem matches and its name is
longer than that of the program that has it so far. -/
def Claim.contend (stem : String) (held : Option Claim) (base : String) : Option Claim :=
  match variantOf? stem base with
  | none => held
  | some suffix =>
      match held with
      | some claim =>
          if base.utf8ByteSize ≤ claim.base.utf8ByteSize then held else some ⟨base, suffix⟩
      | none => some ⟨base, suffix⟩

/-- The program that an input belongs to: of those that match, the one with the longest name. -/
def claimOf? (stem : String) (bases : List String) : Option Claim :=
  bases.foldl (Claim.contend stem) none

end GoldenSuite

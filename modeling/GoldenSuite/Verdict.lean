import GoldenSuite.FileTree.Access

/-! Verdicts: whether what was printed is what was expected. -/

namespace GoldenSuite

inductive Verdict where
  | pass
  | fail
deriving DecidableEq, Inhabited

namespace Verdict

def text : Verdict → String
  | .pass => "pass"
  | .fail => "fail"

/-- Passes exactly when both outputs are the same bytes. -/
def ofBytes (actual reference : Bytes) : Verdict :=
  if actual = reference then .pass else .fail

/-- Compares two files. A reference that does not exist is a fault of its own; every other file
that cannot be read is a failure of the file system. -/
def ofFiles (tree : FileTree) (actual reference : String) : Except Fault Verdict :=
  match tree.readFile reference with
  | .error fault =>
      if fault.has .notExist then .error (.mark .missingReference)
      else .error (.filesystem "reading reference" fault)
  | .ok expected =>
      match tree.readFile actual with
      | .error fault => .error (.filesystem "reading output" fault)
      | .ok printed => .ok (ofBytes printed expected)

end Verdict

end GoldenSuite

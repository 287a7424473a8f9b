import GoldenSuite.FileTree.Access
import GoldenSuite.Layout
import GoldenSuite.TestCase

/-! Discovery: the test cases that a suite's directories describe. -/

namespace GoldenSuite.Discovery

/-- A file whose name ends as asked for: the name without the ending, and the path. -/
structure Stemmed where
  stem : String
  path : String
deriving DecidableEq, Inhabited

/-- The name without an ending, if it ends so and more is left. -/
def stemOf? (ext name : String) : Option String :=
  if ext.toList.isSuffixOf name.toList then
    let stem := name.toList.take (name.toList.length - ext.toList.length)
    if stem.isEmpty then none else some (String.ofList stem)
  else none

/-- The files among directory entries whose names end in `ext`. -/
def stemmed (dir ext : String) (entries : List FileTree.Entry) : List Stemmed :=
  entries.filterMap fun entry =>
    if entry.isDirectory then none
    else (stemOf? ext entry.name).map fun stem => ⟨stem, Path.join dir entry.name⟩

/-- The files of a directory that end in `ext`; a directory that is not there has none. -/
def filesWithExt (tree : FileTree) (dir ext : String) : Except Fault (List Stemmed) :=
  match tree.readDir dir with
  | .ok entries => .ok (stemmed dir ext entries)
  | .error fault =>
      if fault.has .notExist then .ok [] else .error (.context ("listing " ++ dir ++ ": ") fault)

/-- The case of a program with the given variant and input. -/
def caseOf (layout : Layout) (program : Stemmed) (suffix input : String) : TestCase :=
  let file := program.stem ++ suffix ++ textExt
  { base := program.stem
    program := program.path
    suffix := suffix
    input := input
    actual := Path.join layout.scratch file
    reference := Path.join layout.references file }

/-- The variants of a program among the inputs, each with the path of its input. -/
def variantsOf (bases : List String) (inputs : List Stemmed) (base : String)
    : List (String × String) :=
  inputs.filterMap fun input =>
    match claimOf? input.stem bases with
    | some claim => if claim.base = base then some (claim.suffix, input.path) else none
    | none => none

/-- The cases of one program: one for each input it has claimed, by variant, or one without
input if it has none. -/
def casesOf (layout : Layout) (bases : List String) (inputs : List Stemmed) (program : Stemmed)
    : List TestCase :=
  match variantsOf bases inputs program.stem with
  | [] => [caseOf layout program "" ""]
  | variants =>
      (variants.mergeSort fun a b => a.1 ≤ b.1).map fun variant =>
        caseOf layout program variant.1 variant.2

/-- All cases, by program name and then by variant. -/
def cases (layout : Layout) (programs inputs : List Stemmed) : List TestCase :=
  let sorted := programs.mergeSort fun a b => a.stem ≤ b.stem
  sorted.flatMap (casesOf layout (sorted.map (·.stem)) inputs)

/-- The cases that a file tree describes, of those the ones whose names are selected. -/
def discover (tree : FileTree) (layout : Layout) (selects : String → Bool)
    : Except Fault (List TestCase) := do
  let programs ← filesWithExt tree layout.programs layout.programExt
  let inputs ← filesWithExt tree layout.inputs textExt
  return (cases layout programs inputs).filter fun tc => selects tc.name

end GoldenSuite.Discovery

import GoldenSuite.FileTree.Access

/-! The scratch directory, where the outputs of the current run are kept. -/

namespace GoldenSuite.Scratch

/-- The file that a reset leaves in place, so that the directory can be kept in a repository. -/
def placeholder : String := ".keep"

/-- Whether a reset removes an entry: directories and the placeholder stay. -/
def isLeftover (entry : FileTree.Entry) : Bool :=
  !entry.isDirectory && entry.name ≠ placeholder

/-- Removes a file that may be gone already. -/
def discard (tree : FileTree) (path : String) : Except Fault FileTree :=
  match tree.remove path with
  | .ok rest => .ok rest
  | .error fault =>
      if fault.has .notExist then .ok tree
      else .error (.filesystem "clearing scratch directory" fault)

/-- Removes the leftovers among the entries of a directory one by one, up to the first that
cannot be removed. -/
def clear (dir : String) : FileTree → List FileTree.Entry → FileTree × Option Fault
  | tree, [] => (tree, none)
  | tree, entry :: rest =>
      if isLeftover entry then
        match discard tree (Path.join dir entry.name) with
        | .ok next => clear dir next rest
        | .error fault => (tree, some fault)
      else clear dir tree rest

/-- Makes the directory if need be and removes what earlier runs have left in it. -/
def reset (tree : FileTree) (dir : String) : FileTree × Option Fault :=
  match tree.mkdirAll dir with
  | (made, some fault) => (made, some (.filesystem "creating scratch directory" fault))
  | (made, none) =>
      match made.readDir dir with
      | .error fault => (made, some (.filesystem "listing scratch directory" fault))
      | .ok entries => clear dir made entries

end GoldenSuite.Scratch

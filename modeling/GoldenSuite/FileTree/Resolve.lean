import GoldenSuite.Fault
import GoldenSuite.FileTree.Basic
import GoldenSuite.Path

/-! From paths to places: walking down the tree, through `.`, `..` and symbolic links. -/

namespace GoldenSuite.FileTree

/-- The longest name of a directory entry, in bytes. -/
def nameLimit : Nat := 255

/-- The length from which on a path is refused, in bytes. -/
def pathLimit : Nat := 4096

/-- How many symbolic links one walk may go through. -/
def linkLimit : Nat := 40

/-- The names to walk along: a closing slash asks for a directory, which one more `.` does
too. -/
def stepsOf (path : String) : List String :=
  let steps := Path.names path
  if path.toList.getLast? = some '/' && !steps.isEmpty then steps ++ ["."] else steps

/-- Where a path or a link's target starts. -/
def startOf (dir : Place) (path : String) : Place :=
  if Path.isRooted path then [] else dir

/-- Walks from a directory along names. The last name need not exist; a link there is followed
only if asked for. At most `links` links are gone through. -/
def walk (tree : FileTree) (follow : Bool) (links : Nat) (dir : Place)
    : List String → Except Refusal Place
  | [] => .ok dir
  | name :: rest =>
      if name = "." then tree.walk follow links dir rest
      else if name = ".." then tree.walk follow links dir.dropLast rest
      else if nameLimit < name.utf8ByteSize then .error .nameTooLong
      else
        let place := dir ++ [name]
        match tree.find? place with
        | none => if rest.isEmpty then .ok place else .error .noEntry
        | some .directory => tree.walk follow links place rest
        | some (.link target) =>
            if rest.isEmpty && !follow then .ok place
            else
              match links with
              | 0 => .error .tooManyLinks
              | left + 1 =>
                  tree.walk follow left (startOf dir target) (stepsOf target ++ rest)
        | some _ => if rest.isEmpty then .ok place else .error .notDirectory
termination_by steps => (links, steps.length)

/-- The place that a path leads to, whether or not something stands there. -/
def locate (tree : FileTree) (follow : Bool) (path : String) : Except Refusal Place :=
  if path = "" then .error .noEntry
  else if path.toList.contains '\x00' then .error .invalidArgument
  else if pathLimit ≤ path.utf8ByteSize then .error .nameTooLong
  else tree.walk follow linkLimit (startOf tree.home path) (stepsOf path)

/-- The place and the node that a path leads to. -/
def look (tree : FileTree) (follow : Bool) (path : String) : Except Refusal (Place × Node) :=
  match tree.locate follow path with
  | .error cause => .error cause
  | .ok place =>
      match tree.find? place with
      | some node => .ok (place, node)
      | none => .error .noEntry

end GoldenSuite.FileTree

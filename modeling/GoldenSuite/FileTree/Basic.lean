import GoldenSuite.Text.Bytes

/-! File trees as values: which node stands at which place. A place is the list of names that
leads to it from the root; the root itself is always a directory. -/

namespace GoldenSuite

/-- What stands at a place of a file tree. -/
inductive Node where
  /-- A file, its contents and its permission bits. -/
  | file (data : Bytes) (mode : Nat)
  | directory
  /-- A symbolic link. -/
  | link (target : String)
  /-- A program that is part of the system. -/
  | program (name : String)
  /-- A device that takes every write and never has anything to read. -/
  | sink
deriving DecidableEq, Inhabited

/-- The names that lead to a node from the root. -/
abbrev Place := List String

/-- The nodes of a file system, and the directory where relative paths start. -/
structure FileTree where
  nodes : List (Place × Node)
  home : Place
deriving DecidableEq, Inhabited

namespace FileTree

/-- The node at a place. -/
def find? (tree : FileTree) (place : Place) : Option Node :=
  if place.isEmpty then some .directory else tree.nodes.lookup place

/-- Puts a node at a place, instead of the one that may stand there. -/
def put (tree : FileTree) (place : Place) (node : Node) : FileTree :=
  { tree with nodes := (place, node) :: tree.nodes.filter (fun entry => entry.1 ≠ place) }

/-- Takes away the node at a place. -/
def erase (tree : FileTree) (place : Place) : FileTree :=
  { tree with nodes := tree.nodes.filter (fun entry => entry.1 ≠ place) }

/-- Takes away the node at a place and all that is below it. -/
def eraseBelow (tree : FileTree) (place : Place) : FileTree :=
  { tree with nodes := tree.nodes.filter (fun entry => !place.isPrefixOf entry.1) }

/-- The nodes at and below a place, each with its names below it. -/
def below (tree : FileTree) (place : Place) : List (Place × Node) :=
  tree.nodes.filterMap fun entry =>
    if place.isPrefixOf entry.1 then some (entry.1.drop place.length, entry.2) else none

/-- The name of a place inside a directory, if it lies directly inside. -/
def childName? (dir place : Place) : Option String :=
  if place.dropLast = dir then place.getLast? else none

/-- The names and nodes directly inside a directory, in no particular order. -/
def children (tree : FileTree) (dir : Place) : List (String × Node) :=
  tree.nodes.filterMap fun entry => (childName? dir entry.1).map fun name => (name, entry.2)

end FileTree

end GoldenSuite

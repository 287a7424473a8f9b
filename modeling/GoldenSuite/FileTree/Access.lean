import GoldenSuite.FileTree.Resolve

/-! Requests to a file tree, with the faults they end in: reading, writing, listing, making and
removing. -/

namespace GoldenSuite.FileTree

-------------------------------------------------------------------------------
-- Reading
-------------------------------------------------------------------------------

/-- What an opened path gives when it is read. -/
inductive Opened where
  | contents (data : Bytes)
  | directory
deriving DecidableEq

/-- Opens a path for reading. Directories can be opened, too, but not read. -/
def openPath (tree : FileTree) (path : String) : Except Fault Opened :=
  match tree.look true path with
  | .error cause => .error (.refused "open" path cause)
  | .ok (_, .file data _) => .ok (.contents data)
  | .ok (_, .directory) => .ok .directory
  | .ok _ => .ok (.contents [])

/-- The contents of the file at a path. -/
def readFile (tree : FileTree) (path : String) : Except Fault Bytes :=
  match tree.openPath path with
  | .error fault => .error fault
  | .ok (.contents data) => .ok data
  | .ok .directory => .error (.refused "read" path .isDirectory)

-------------------------------------------------------------------------------
-- Listing
-------------------------------------------------------------------------------

/-- One entry of a directory. Links are no directories, whatever they lead to. -/
structure Entry where
  name : String
  isDirectory : Bool
deriving DecidableEq, Inhabited

/-- The entries of the directory at a place, by name. -/
def entriesAt (tree : FileTree) (place : Place) : List Entry :=
  ((tree.children place).map fun child => ⟨child.1, child.2 = .directory⟩).mergeSort
    (fun a b => a.name ≤ b.name)

/-- The entries of the directory at a path, by name. -/
def readDir (tree : FileTree) (path : String) : Except Fault (List Entry) :=
  match tree.look true path with
  | .error cause => .error (.refused "open" path cause)
  | .ok (place, .directory) => .ok (tree.entriesAt place)
  | .ok _ => .error (.refused "open" path .notDirectory)

-------------------------------------------------------------------------------
-- Changing
-------------------------------------------------------------------------------

/-- The permission bits of a new file. -/
def plainMode : Nat := 0o644

/-- Writes a file, over the contents it may have had. -/
def writeFile (tree : FileTree) (path : String) (data : Bytes) : Except Fault FileTree :=
  match tree.locate true path with
  | .error cause => .error (.refused "open" path cause)
  | .ok place =>
      match tree.find? place with
      | none => .ok (tree.put place (.file data plainMode))
      | some (.file _ mode) => .ok (tree.put place (.file data mode))
      | some .directory => .error (.refused "open" path .isDirectory)
      | some .sink => .ok tree
      | some _ => .error (.refused "open" path .permissionDenied)

/-- A path without its closing slashes. -/
def withoutClosingSlashes (path : String) : String :=
  let kept := (path.toList.reverse.dropWhile (· = '/')).reverse
  if kept.isEmpty then path else String.ofList kept

/-- Makes one directory. Its parent has to be there, and nothing may stand at the path. -/
def mkdir (tree : FileTree) (path : String) : Except Refusal FileTree :=
  match tree.locate false (withoutClosingSlashes path) with
  | .error cause => .error cause
  | .ok place =>
      match tree.find? place with
      | none => .ok (tree.put place .directory)
      | some _ => .error .alreadyExists

/-- Whether a path leads to a directory. -/
def isDirectoryAt (tree : FileTree) (follow : Bool) (path : String) : Bool :=
  match tree.look follow path with
  | .ok (_, .directory) => true
  | _ => false

/-- Makes a directory unless it is there. -/
def ensureDirectory (tree : FileTree) (path : String) : Except Fault FileTree :=
  match tree.look true path with
  | .ok (_, .directory) => .ok tree
  | .ok _ => .error (.refused "mkdir" path .notDirectory)
  | .error _ =>
      match tree.mkdir path with
      | .ok made => .ok made
      | .error cause =>
          if tree.isDirectoryAt false path then .ok tree
          else .error (.refused "mkdir" path cause)

/-- Makes directories one after the other, up to the first that cannot be made. -/
def ensureDirectories : FileTree → List String → FileTree × Option Fault
  | tree, [] => (tree, none)
  | tree, path :: rest =>
      match tree.ensureDirectory path with
      | .ok made => ensureDirectories made rest
      | .error fault => (tree, some fault)

/-- Makes a directory and all directories on the way to it. -/
def mkdirAll (tree : FileTree) (path : String) : FileTree × Option Fault :=
  ensureDirectories tree ((Path.stages path.toList).map String.ofList)

/-- Removes a file or a link, or a directory that is empty. -/
def remove (tree : FileTree) (path : String) : Except Fault FileTree :=
  match tree.look false path with
  | .error cause => .error (.refused "remove" path cause)
  | .ok (place, .directory) =>
      if (tree.children place).isEmpty then .ok (tree.erase place)
      else .error (.refused "remove" path .notEmpty)
  | .ok (place, _) => .ok (tree.erase place)

/-- Removes whatever stands at a path, with all that is below it. -/
def removeAll (tree : FileTree) (path : String) : FileTree :=
  match tree.look false path with
  | .ok (place, _) => tree.eraseBelow place
  | .error _ => tree

/-- Puts a node at a path, making the directories on the way. A path that cannot be reached is
left alone. -/
def plant (tree : FileTree) (path : String) (node : Node) : FileTree :=
  let parent := (Path.parentText? path.toList).map String.ofList
  let ready :=
    match parent with
    | some dir => (tree.mkdirAll dir).1
    | none => tree
  match ready.locate (node matches .file ..) path with
  | .ok place => ready.put place node
  | .error _ => ready

/-- Everything at or below a path, links not followed: the path of each node and the node. -/
def listing (tree : FileTree) (path : String) : List (String × Node) :=
  match tree.look false path with
  | .error _ => []
  | .ok (place, .directory) =>
      (path, .directory) :: ((tree.below place).filter (fun entry => !entry.1.isEmpty)).map
        (fun entry => (entry.1.foldl Path.join path, entry.2))
  | .ok (_, node) => [(path, node)]

end GoldenSuite.FileTree

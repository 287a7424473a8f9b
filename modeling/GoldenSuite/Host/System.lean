import GoldenSuite.FileTree.Access

/-! The part of the file system that is there before anything else: the programs of the system
and its devices. -/

namespace GoldenSuite.Host

/-- Where programs are looked for that are called by their bare names. -/
def searchPath : List String :=
  ["/usr/local/bin", "/usr/bin", "/bin"]

/-- The programs that every system has. -/
def programNames : List String :=
  ["[", "basename", "cat", "dash", "dirname", "echo", "env", "false", "head", "mkdir", "printf",
    "rm", "seq", "sh", "sleep", "sort", "tail", "test", "touch", "tr", "true", "uniq", "wc"]

/-- The directories and devices of a system, and its programs. -/
def systemNodes : List (Place × Node) :=
  [ (["bin"], .link "usr/bin"), (["dev"], .directory), (["dev", "null"], .sink),
    (["tmp"], .directory), (["usr"], .directory), (["usr", "bin"], .directory),
    (["usr", "local"], .directory), (["usr", "local", "bin"], .directory) ]
  ++ programNames.map fun name => (["usr", "bin", name], .program name)

/-- The nodes for the directories on the way to a place, and for the place itself. -/
def directoriesTo (place : Place) : List (Place × Node) :=
  (List.range place.length).map fun depth => (place.take (depth + 1), .directory)

/-- A system where nothing but an empty home directory has been added. -/
def freshSystem (home : Place) : FileTree where
  nodes := (directoriesTo home).foldl
    (fun nodes entry => if nodes.any (·.1 = entry.1) then nodes else nodes ++ [entry]) systemNodes
  home := home

end GoldenSuite.Host

/-! Paths as texts: cutting at slashes, the cleaned form, and joining. Nothing here looks at a
file tree. -/

namespace GoldenSuite.Path

/-- The pieces of a text between its slashes, empty ones included. -/
def segments : List Char → List (List Char)
  | [] => [[]]
  | c :: rest =>
      if c = '/' then [] :: segments rest
      else
        match segments rest with
        | [] => [[c]]
        | piece :: pieces => (c :: piece) :: pieces

/-- The names along a path, from the outermost inwards: the pieces that are not empty. -/
def names (path : String) : List String :=
  ((segments path.toList).filter (fun piece => !piece.isEmpty)).map String.ofList

/-- Whether a path starts at the root. -/
def isRooted (path : String) : Bool :=
  path.toList.head? = some '/'

/-- Adds one name to a stack of names (the innermost first): `.` stays, `..` takes back the last
name that can be taken back. -/
def pushName (rooted : Bool) (stack : List String) (name : String) : List String :=
  if name = "." then stack
  else if name = ".." then
    match stack with
    | [] => if rooted then [] else [".."]
    | top :: rest => if top = ".." then ".." :: stack else rest
  else name :: stack

/-- The names that are left of a path when `.` and `..` are worked out. -/
def cleanNames (path : String) : List String :=
  ((names path).foldl (pushName (isRooted path)) []).reverse

/-- Writes a path with the given names: the empty relative path is `.`. -/
def render (rooted : Bool) (parts : List String) : String :=
  if rooted then "/" ++ String.intercalate "/" parts
  else if parts.isEmpty then "."
  else String.intercalate "/" parts

/-- The shortest path that means the same, worked out from the text alone. -/
def clean (path : String) : String :=
  render (isRooted path) (cleanNames path)

/-- The cleaned path to a name below a directory. An empty directory adds nothing. -/
def join (dir name : String) : String :=
  if dir = "" then (if name = "" then "" else clean name)
  else clean (dir ++ "/" ++ name)

/-- The last name of a path. -/
def base (path : String) : String :=
  match (names path).getLast? with
  | some name => name
  | none => if path = "" then "." else "/"

/-- The text of a path up to its last element, without the slash between them; none if there is
nothing before it. -/
def parentText? (path : List Char) : Option (List Char) :=
  let inner := (path.reverse.dropWhile (· = '/')).dropWhile (· ≠ '/')
  if 1 < inner.length then some inner.tail.reverse else none

theorem length_parentText?_lt {path parent : List Char} (h : parentText? path = some parent)
    : parent.length < path.length := by
  simp only [parentText?] at h
  split at h
  · rename_i hlt
    cases h
    have h1 := (List.dropWhile_sublist (l := path.reverse) (fun c => decide (c = '/'))).length_le
    have h2 := (List.dropWhile_sublist (l := path.reverse.dropWhile (· = '/'))
      (fun c => decide (c ≠ '/'))).length_le
    simp only [List.length_reverse, List.length_tail] at *
    omega
  · cases h

/-- The directories that a path names on its way, the outermost first, and the path itself. -/
def stages (path : List Char) : List (List Char) :=
  match h : parentText? path with
  | some parent =>
      have := length_parentText?_lt h
      stages parent ++ [path]
  | none => [path]
termination_by path.length

end GoldenSuite.Path

import GoldenSuite.FileTree.Access
import GoldenSuite.Host.ByteText

/-! Patterns with wild cards, for texts and for the paths of a file tree. -/

namespace GoldenSuite.Shell

open Host (ByteText)

/-- A character, and whether it was quoted. -/
structure Letter where
  char : Char
  quoted : Bool
deriving DecidableEq

namespace Glob

/-- Quoted characters. -/
def literal (text : ByteText) : List Letter :=
  text.map fun c => ⟨c, true⟩

/-- The characters by themselves. -/
def text (pattern : List Letter) : ByteText :=
  pattern.map Letter.char

/-- What may stand between brackets: single characters and ranges. -/
def isInside (c : Char) : List Letter → Bool
  | a :: ⟨'-', false⟩ :: b :: rest => a.char ≤ c && c ≤ b.char || isInside c rest
  | a :: rest => a.char = c || isInside c rest
  | [] => false

/-- What stands between brackets, and what follows them. A bracket that closes at once stands
for itself. -/
def bracket? (pattern : List Letter) : Option (List Letter × List Letter) :=
  let closes (letter : Letter) : Bool := letter = ⟨']', false⟩
  match pattern with
  | [] => none
  | first :: rest =>
      let inside := first :: rest.takeWhile (fun letter => !closes letter)
      match rest.dropWhile (fun letter => !closes letter) with
      | [] => none
      | _ :: behind => some (inside, behind)

/-- Whether a pattern matches a whole text. -/
def fits : Nat → List Letter → ByteText → Bool
  | 0, _, _ => false
  | _, [], text => text.isEmpty
  | fuel + 1, letter :: pattern, text =>
      let plainly : Bool :=
        match text with
        | c :: rest => letter.char = c && fits fuel pattern rest
        | [] => false
      if letter.quoted then plainly
      else
        match letter.char, text with
        | '*', [] => fits fuel pattern []
        | '*', _ :: rest => fits fuel pattern text || fits fuel (letter :: pattern) rest
        | '?', _ :: rest => fits fuel pattern rest
        | '[', c :: rest =>
            let negated := pattern.head?.any fun m => m = ⟨'!', false⟩ || m = ⟨'^', false⟩
            match bracket? (if negated then pattern.drop 1 else pattern) with
            | some (inside, behind) => isInside c inside != negated && fits fuel behind rest
            | none => plainly
        | _, _ => plainly

def matchesText (pattern : List Letter) (text : ByteText) : Bool :=
  fits (pattern.length + text.length + 1) pattern text

/-- Whether a pattern has wild cards. -/
def isWild (pattern : List Letter) : Bool :=
  pattern.any fun letter => !letter.quoted && (letter.char = '*' || letter.char = '?' || letter.char = '[')

-------------------------------------------------------------------------------
-- Values without an end that matches
-------------------------------------------------------------------------------

/-- A text without the shortest or longest beginning that a pattern matches. -/
def withoutStart (longest : Bool) (pattern : List Letter) (text : ByteText) : ByteText :=
  let lengths := List.range (text.length + 1)
  let found := (if longest then lengths.reverse else lengths).find? fun length =>
    matchesText pattern (text.take length)
  text.drop (found.getD 0)

/-- A text without the shortest or longest end that a pattern matches. -/
def withoutEnd (longest : Bool) (pattern : List Letter) (text : ByteText) : ByteText :=
  let lengths := List.range (text.length + 1)
  let found := (if longest then lengths else lengths.reverse).find? fun length =>
    matchesText pattern (text.drop length)
  text.take (found.getD text.length)

-------------------------------------------------------------------------------
-- Paths
-------------------------------------------------------------------------------

/-- The names in a directory that a pattern matches. Names that start with a dot are matched only
by a dot. -/
def namesIn (tree : FileTree) (dir : ByteText) (pattern : List Letter) : List ByteText :=
  match tree.readDir (if dir.isEmpty then "." else dir.toText) with
  | .error _ => []
  | .ok entries =>
      (entries.map fun entry => ByteText.ofString entry.name).filter fun name =>
        (name.head? ≠ some '.' || pattern.head?.any (fun letter => letter.char = '.'))
        && matchesText pattern name

/-- The paths that match patterns, one for each name along the way, below a beginning. -/
def pathsFrom (tree : FileTree) : ByteText → List (List Letter) → List ByteText
  | dir, [] => if (tree.look false dir.toText) matches .ok _ then [dir] else []
  | dir, [last] =>
      if isWild last then (namesIn tree dir last).map (dir ++ ·)
      else pathsFrom tree (dir ++ text last) []
  | dir, first :: rest =>
      if isWild first then
        (namesIn tree dir first).flatMap fun name => pathsFrom tree (dir ++ name ++ ['/']) rest
      else pathsFrom tree (dir ++ text first ++ ['/']) rest

/-- The paths that a pattern matches, or the pattern itself if there are none. -/
def paths (tree : FileTree) (pattern : List Letter) : List ByteText :=
  if !isWild pattern then [text pattern]
  else
    match pathsFrom tree [] (pattern.splitOnP fun letter => letter.char = '/') with
    | [] => [text pattern]
    | found => found

end Glob

end GoldenSuite.Shell

import GoldenSuite.Diff.Script
import GoldenSuite.Text.Quoted

/-! How the difference between two lists of lines is shown: line by line, with a little context
around each change, and cut short when there are many changes. -/

namespace GoldenSuite.Diff

/-- An edit with the lines that it is about. -/
inductive Change where
  | same (line : Bytes)
  | removed (line : Bytes)
  | inserted (line : Bytes)
  | modified (before after : Bytes)
deriving DecidableEq

namespace Change

def isSame : Change → Bool
  | .same _ => true
  | _ => false

end Change

/-- The edits of a script with their lines. -/
def changes : List Edit → List Bytes → List Bytes → List Change
  | .same :: rest, line :: left, _ :: right => .same line :: changes rest left right
  | .removed :: rest, line :: left, right => .removed line :: changes rest left right
  | .inserted :: rest, left, line :: right => .inserted line :: changes rest left right
  | .modified :: rest, before :: left, after :: right =>
      .modified before after :: changes rest left right
  | _, _, _ => []

/-- How many changes there are of each kind. -/
structure Stats where
  identical : Nat := 0
  removed : Nat := 0
  inserted : Nat := 0
  modified : Nat := 0
deriving DecidableEq

namespace Stats

def add (stats : Stats) : Change → Stats
  | .same _ => { stats with identical := stats.identical + 1 }
  | .removed _ => { stats with removed := stats.removed + 1 }
  | .inserted _ => { stats with inserted := stats.inserted + 1 }
  | .modified _ _ => { stats with modified := stats.modified + 1 }

/-- The counts that are not zero, as an enumeration in words. -/
def text (stats : Stats) : String :=
  let counts :=
    [(stats.identical, "identical"), (stats.removed, "removed"), (stats.inserted, "inserted"),
      (stats.modified, "modified")]
  let parts := (counts.filter (fun c => c.1 ≠ 0)).map fun c => toString c.1 ++ " " ++ c.2
  let total := stats.identical + stats.removed + stats.inserted + stats.modified
  let noun := if total = 1 then "element" else "elements"
  match parts.reverse with
  | last :: before :: others@(_ :: _) =>
      String.intercalate ", " (before :: others).reverse ++ ", and " ++ last ++ " " ++ noun
  | _ => String.intercalate " and " parts ++ " " ++ noun

end Stats

-------------------------------------------------------------------------------
-- Lines of the report
-------------------------------------------------------------------------------

/-- The most bytes of an unchanged line that are shown. -/
def sameLimit : Nat := 64

/-- The most bytes of a changed line that are shown. -/
def changedLimit : Nat := 256

/-- A line in quotes; one that is much longer than the limit is cut. -/
def shown (limit : Nat) (line : Bytes) : String :=
  if limit + 3 < line.length then Text.Quoted.shortest (line.take limit) ++ "..."
  else Text.Quoted.shortest line

def recordLine (mark : String) (text : String) : String :=
  mark ++ "\t" ++ text

/-- The lines that show one change. -/
def Change.lines : Change → List String
  | .same line => [recordLine "  " (shown sameLimit line ++ ",")]
  | .removed line => [recordLine "- " (shown changedLimit line ++ ",")]
  | .inserted line => [recordLine "+ " (shown changedLimit line ++ ",")]
  | .modified before after =>
      [recordLine "- " (shown changedLimit before ++ ","),
        recordLine "+ " (shown changedLimit after ++ ",")]

def hiddenLine (stats : Stats) : String :=
  recordLine "  " ("... // " ++ stats.text)

/-- How many unchanged lines are shown on each side of a change. -/
def contextSize : Nat := 2

/-- After so many changed lines no further group is shown. -/
def changeLimit : Nat := 16

/-- Cuts the changes into groups of same lines and groups of other lines. -/
def groups : List Change → List (List Change)
  | [] => []
  | change :: rest =>
      match groups rest with
      | (next :: group) :: others =>
          if next.isSame = change.isSame then (change :: next :: group) :: others
          else [change] :: (next :: group) :: others
      | others => [change] :: others

/-- A group of same lines: context next to the groups around it, the rest hidden. One line alone
is never hidden. -/
def sameGroupLines (isFirst isLast : Bool) (group : List Change) : List String :=
  let count := group.length
  let low := if isFirst then 0 else min contextSize count
  let high := if isLast then 0 else min contextSize (count - low)
  let high := if count - (low + high) = 1 then high + 1 else high
  let hidden := count - (low + high)
  (group.take low).flatMap Change.lines
    ++ (if hidden = 0 then [] else [hiddenLine { identical := hidden }])
    ++ (group.drop (count - high)).flatMap Change.lines

/-- The lines of all groups, given how many changed lines were shown before. -/
def groupLines : Bool → Nat → List (List Change) → List String
  | _, _, [] => []
  | isFirst, seen, group :: rest =>
      if changeLimit ≤ seen then
        [hiddenLine ((group :: rest).flatten.foldl Stats.add {})]
      else if group.all Change.isSame then
        sameGroupLines isFirst rest.isEmpty group ++ groupLines false seen rest
      else group.flatMap Change.lines ++ groupLines false (seen + group.length) rest

/-- The report on two texts, line by line; empty if they are the same. -/
def report (reference actual : Bytes) : List String :=
  let left := Bytes.splitAfterNewline reference
  let right := Bytes.splitAfterNewline actual
  if left = right then []
  else
    let body := groupLines true 0 (groups (changes (script left right) left right))
    ["  []string\x7b"] ++ body ++ ["  \x7d"]

end GoldenSuite.Diff

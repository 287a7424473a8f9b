import GoldenSuite.Text.Bytes

/-! Edit scripts between two lists of lines. The search runs from both ends at once, along
diagonals, and gives up looking for matches when its budget is spent; what it has not matched by
then is paired off in order. -/

namespace GoldenSuite.Diff

/-- One step of an edit script. -/
inductive Edit where
  | same
  | removed
  | inserted
  | modified
deriving DecidableEq, Inhabited

/-- A position between the lines of both lists. -/
structure Point where
  x : Int
  y : Int
deriving DecidableEq, Inhabited

/-- Two lists of lines to compare. -/
structure Lines where
  left : Array Bytes
  right : Array Bytes

namespace Lines

/-- Whether line `x` on the left is there and is line `y` on the right. -/
def equalAt (lines : Lines) (x y : Int) : Bool :=
  match lines.left[x.toNat]?, lines.right[y.toNat]? with
  | some a, some b => a = b
  | _, _ => false

def leftSize (lines : Lines) : Int := Int.ofNat lines.left.size

def rightSize (lines : Lines) : Int := Int.ofNat lines.right.size

/-- A bound on the number of steps of any walk through the lines. -/
def steps (lines : Lines) : Nat := lines.left.size + lines.right.size

end Lines

/-- How far a search has come from both ends. Edits are kept with the innermost first. -/
structure Search where
  /-- How far the script from the start reaches. -/
  front : Point
  /-- How far the script from the end reaches. -/
  back : Point
  /-- Where the next match from the start is looked for. -/
  frontAim : Point
  backAim : Point
  budget : Nat
  fromFront : List Edit
  fromBack : List Edit

-------------------------------------------------------------------------------
-- Walking from the start
-------------------------------------------------------------------------------

/-- Pairs lines off from `here` up to a target; then takes what is left on either side. -/
def connectFront (lines : Lines) (target : Point) : Nat → Point → List Edit → List Edit
  | 0, _, edits => edits
  | fuel + 1, here, edits =>
      if here.x < target.x && here.y < target.y then
        let edit := if lines.equalAt here.x here.y then Edit.same else .modified
        connectFront lines target fuel ⟨here.x + 1, here.y + 1⟩ (edit :: edits)
      else if here.x < target.x then
        connectFront lines target fuel ⟨here.x + 1, here.y⟩ (.removed :: edits)
      else if here.y < target.y then
        connectFront lines target fuel ⟨here.x, here.y + 1⟩ (.inserted :: edits)
      else edits

/-- Goes on while the lines are the same, up to the given end. -/
def followFront (lines : Lines) (stop : Point) : Nat → Point → List Edit → Point × List Edit
  | 0, here, edits => (here, edits)
  | fuel + 1, here, edits =>
      if here.x < stop.x && here.y < stop.y && lines.equalAt here.x here.y then
        followFront lines stop fuel ⟨here.x + 1, here.y + 1⟩ (.same :: edits)
      else (here, edits)

/-- Pairs lines off backwards down to a target; then takes what is left on either side. -/
def connectBack (lines : Lines) (target : Point) : Nat → Point → List Edit → List Edit
  | 0, _, edits => edits
  | fuel + 1, here, edits =>
      if target.x < here.x && target.y < here.y then
        let edit := if lines.equalAt (here.x - 1) (here.y - 1) then Edit.same else .modified
        connectBack lines target fuel ⟨here.x - 1, here.y - 1⟩ (edit :: edits)
      else if target.x < here.x then
        connectBack lines target fuel ⟨here.x - 1, here.y⟩ (.removed :: edits)
      else if target.y < here.y then
        connectBack lines target fuel ⟨here.x, here.y - 1⟩ (.inserted :: edits)
      else edits

/-- Goes back while the lines are the same, down to the given end. -/
def followBack (lines : Lines) (stop : Point) : Nat → Point → List Edit → Point × List Edit
  | 0, here, edits => (here, edits)
  | fuel + 1, here, edits =>
      if stop.x < here.x && stop.y < here.y && lines.equalAt (here.x - 1) (here.y - 1) then
        followBack lines stop fuel ⟨here.x - 1, here.y - 1⟩ (.same :: edits)
      else (here, edits)

-------------------------------------------------------------------------------
-- Searching
-------------------------------------------------------------------------------

/-- The `i`-th offset along a diagonal: 0, -1, 1, -2, 2 and so on. -/
def zigzag (i : Nat) : Int :=
  if i % 2 = 0 then Int.ofNat (i / 2) else -(Int.ofNat (i / 2 + 1))

/-- Looks along the diagonal through the aim for a match from the start. `high` and `low` say
which end of the diagonal has been reached. -/
def scanFront (lines : Lines) : Nat → Nat → Bool → Bool → Search → Search
  | 0, _, _, _, s => s
  | fuel + 1, i, high, low, s =>
      if (high && low) || s.budget = 0 then s
      else
        let z := zigzag i
        let p : Point := ⟨s.frontAim.x + z, s.frontAim.y - z⟩
        if s.back.x ≤ p.x || p.y < s.front.y then scanFront lines fuel (i + 1) true low s
        else if s.back.y ≤ p.y || p.x < s.front.x then scanFront lines fuel (i + 1) high true s
        else if lines.equalAt p.x p.y then
          let edits := connectFront lines p (lines.steps + 1) s.front s.fromFront
          let (front, edits) :=
            followFront lines s.back (lines.steps + 1) ⟨p.x + 1, p.y + 1⟩ (.same :: edits)
          { s with front, frontAim := front, fromFront := edits }
        else scanFront lines fuel (i + 1) high low { s with budget := s.budget - 1 }

/-- Looks along the diagonal through the aim for a match from the end. -/
def scanBack (lines : Lines) : Nat → Nat → Bool → Bool → Search → Search
  | 0, _, _, _, s => s
  | fuel + 1, i, high, low, s =>
      if (high && low) || s.budget = 0 then s
      else
        let z := zigzag i
        let p : Point := ⟨s.backAim.x - z, s.backAim.y + z⟩
        if p.x ≤ s.front.x || s.back.y < p.y then scanBack lines fuel (i + 1) true low s
        else if p.y ≤ s.front.y || s.back.x < p.x then scanBack lines fuel (i + 1) high true s
        else if lines.equalAt (p.x - 1) (p.y - 1) then
          let edits := connectBack lines p (lines.steps + 1) s.back s.fromBack
          let (back, edits) :=
            followBack lines s.front (lines.steps + 1) ⟨p.x - 1, p.y - 1⟩ (.same :: edits)
          { s with back, backAim := back, fromBack := edits }
        else scanBack lines fuel (i + 1) high low { s with budget := s.budget - 1 }

/-- Moves the aim from the start one line on, along the side where more is left. -/
def advanceFront (s : Search) : Search :=
  if s.back.y - s.frontAim.y ≤ s.back.x - s.frontAim.x then
    { s with frontAim := ⟨s.frontAim.x + 1, s.frontAim.y⟩ }
  else { s with frontAim := ⟨s.frontAim.x, s.frontAim.y + 1⟩ }

/-- Moves the aim from the end one line back, along the side where more is left. -/
def advanceBack (s : Search) : Search :=
  if s.backAim.y - s.front.y ≤ s.backAim.x - s.front.x then
    { s with backAim := ⟨s.backAim.x - 1, s.backAim.y⟩ }
  else { s with backAim := ⟨s.backAim.x, s.backAim.y - 1⟩ }

/-- Whether the two aims have met, or nothing is left to search with. -/
def Search.isOver (s : Search) : Bool :=
  s.backAim.x ≤ s.frontAim.x || s.backAim.y ≤ s.frontAim.y || s.budget = 0

/-- Searches from the start and from the end in turn; `fuel` bounds the number of rounds. -/
def searchBoth (lines : Lines) : Nat → Search → Search
  | 0, s => s
  | fuel + 1, s =>
      if s.isOver then s
      else
        let width := 2 * lines.steps + 4
        let s := advanceFront (scanFront lines width 0 false false s)
        if s.isOver then s
        else searchBoth lines fuel (advanceBack (scanBack lines width 0 false false s))

/-- The edit script from the left lines to the right lines. -/
def script (left right : List Bytes) : List Edit :=
  let lines : Lines := ⟨left.toArray, right.toArray⟩
  let start : Point := ⟨0, 0⟩
  let stop : Point := ⟨lines.leftSize, lines.rightSize⟩
  let s := searchBoth lines (lines.steps + 1)
    { front := start, back := stop, frontAim := start, backAim := stop
      budget := 4 * lines.steps, fromFront := [], fromBack := [] }
  (connectFront lines s.back (lines.steps + 1) s.front s.fromFront).reverse ++ s.fromBack

end GoldenSuite.Diff

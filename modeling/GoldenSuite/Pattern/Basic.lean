import GoldenSuite.Pattern.CharSet

/-! Patterns on names, and which names hold a match of one. A pattern is read as a function from
positions to positions: from where a match starts to where it can end. -/

namespace GoldenSuite

/-- What a pattern can ask of a position without taking a character. -/
inductive Pattern.Anchor where
  | textStart
  | textEnd
  | lineStart
  | lineEnd
  | wordEdge
  | noWordEdge
deriving DecidableEq

inductive Pattern where
  | empty
  | char (set : Pattern.CharSet)
  | anchor (kind : Pattern.Anchor)
  | seq (first second : Pattern)
  | alt (first second : Pattern)
  /-- At least `least` times, and at most `most` times if there is a limit. -/
  | times (body : Pattern) (least : Nat) (most : Option Nat)

namespace Pattern

/-- Whether a position of a text is as an anchor asks. -/
def Anchor.holds (text : Array Char) (anchor : Anchor) (pos : Nat) : Bool :=
  let before? := if pos = 0 then none else text[pos - 1]?
  let after? := text[pos]?
  let atEdge := before?.any isWordChar != after?.any isWordChar
  match anchor with
  | .textStart => pos = 0
  | .textEnd => pos = text.size
  | .lineStart => pos = 0 || before? = some '\n'
  | .lineEnd => pos = text.size || after? = some '\n'
  | .wordEdge => atEdge
  | .noWordEdge => !atEdge

/-- The positions of both lists, each once. -/
def union (first second : List Nat) : List Nat :=
  first ++ second.filter (fun pos => !first.contains pos)

/-- The positions that up to `n` more rounds can reach, besides those that are given. -/
def reach (round : List Nat → List Nat) : Nat → List Nat → List Nat
  | 0, starts => starts
  | n + 1, starts =>
      let next := union starts (round starts)
      if next.length = starts.length then starts else reach round n next

/-- The positions after exactly `n` rounds. -/
def rounds (round : List Nat → List Nat) : Nat → List Nat → List Nat
  | 0, starts => starts
  | n + 1, starts => rounds round n (round starts)

/-- Where matches that start at one of the given positions can end. -/
def ends (text : Array Char) : Pattern → List Nat → List Nat
  | .empty, starts => starts
  | .char set, starts =>
      (starts.filter fun pos => text[pos]?.any set.contains).map (· + 1)
  | .anchor kind, starts => starts.filter (kind.holds text)
  | .seq first second, starts => second.ends text (first.ends text starts)
  | .alt first second, starts => union (first.ends text starts) (second.ends text starts)
  | .times body least most, starts =>
      let forced := rounds (body.ends text) least starts
      let extra :=
        match most with
        | some n => n - least
        | none => text.size + 1
      reach (body.ends text) extra forced

/-- Whether a text holds a match anywhere. -/
def matchesIn (pattern : Pattern) (text : String) : Bool :=
  let chars := text.toList.toArray
  !(pattern.ends chars (List.range (chars.size + 1))).isEmpty

end Pattern

end GoldenSuite

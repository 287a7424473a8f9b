import GoldenSuite.Host.ByteText

/-! Shell commands as data. -/

namespace GoldenSuite.Shell

open Host (ByteText)

/-- What is done to a parameter's value with the word behind it. -/
inductive Adjustment where
  /-- The word instead of a missing value. -/
  | orElse
  /-- The word instead of a missing value, which is kept. -/
  | orAssign
  /-- The word as the complaint about a missing value. -/
  | orFail
  /-- The word instead of a value that is not missing. -/
  | ifSet
  /-- The value without a beginning that the word matches. -/
  | withoutStart (longest : Bool)
  /-- The value without an end that the word matches. -/
  | withoutEnd (longest : Bool)
deriving DecidableEq

/-- A piece of a word. What is quoted is neither split nor taken for a pattern. -/
inductive Piece where
  | text (quoted : Bool) (text : ByteText)
  | parameter (quoted : Bool) (name : String)
  /-- The length of a parameter's value. -/
  | length (name : String)
  /-- A parameter with an adjustment; `orEmpty` takes an empty value for a missing one. -/
  | adjusted (quoted : Bool) (name : String) (how : Adjustment) (orEmpty : Bool)
      (word : List Piece)
  /-- The output of commands, which are read when they are needed. -/
  | substitution (quoted : Bool) (source : ByteText)
  | arithmetic (quoted : Bool) (body : List Piece)
deriving Inhabited

abbrev Word := List Piece

/-- Where a redirection leads. -/
inductive Direction where
  | input
  | output
  | continued
  /-- To where another descriptor leads. -/
  | duplicate
  /-- To a text that is given in the script, by its number. -/
  | document (index : Nat)
deriving DecidableEq

structure Redirection where
  descriptor : Nat
  direction : Direction
  target : Word

/-- A command. -/
inductive Command where
  | simple (line : Nat) (assignments : List (String × Word)) (words : List Word)
      (redirections : List Redirection)
  | sequence (commands : List Command)
  | pipeline (stages : List Command)
  | negated (command : Command)
  /-- The second one only if the first has the status 0. -/
  | both (first second : Command)
  /-- The second one only if the first has another status. -/
  | either (first second : Command)
  | choice (condition positive negative : Command)
  /-- Goes on while the condition's status is 0, or until it is. -/
  | loop (untilTrue : Bool) (condition body : Command)
  /-- Once for each word, or for each argument if no words are given. -/
  | each (line : Nat) (name : String) (words : Option (List Word)) (body : Command)
  | selection (line : Nat) (word : Word) (arms : List (List Word × Command))
  /-- In a copy of the shell. -/
  | apart (body : Command)
  /-- In a copy of the shell that nobody waits for. -/
  | background (body : Command)
  | define (name : String) (body : Command)
  | redirected (body : Command) (redirections : List Redirection)
deriving Inhabited

namespace Word

/-- The text of a word that has nothing to work out and no quotes. -/
def plain? : Word → Option ByteText
  | [.text false text] => some text
  | _ => none

/-- The text of a word without anything to work out, and whether there were quotes in it. -/
def literal (word : Word) : ByteText × Bool :=
  (word.flatMap fun
    | .text _ text => text
    | _ => [],
    word.any fun
    | .text quoted _ => quoted
    | _ => false)

/-- Puts a piece in front, text of one kind in one piece. -/
def push : Piece → Word → Word
  | .text q a, .text r b :: rest =>
      if q = r then .text q (a ++ b) :: rest else .text q a :: .text r b :: rest
  | piece, rest => piece :: rest

end Word

end GoldenSuite.Shell

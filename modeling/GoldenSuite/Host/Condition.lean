import GoldenSuite.Host.ByteText
import GoldenSuite.Host.Launch

/-! Conditions on texts, numbers and files, as a list of words. -/

namespace GoldenSuite.Host.Condition

/-- The reading of a condition: a value or a complaint, and the words left. -/
abbrev Reading := Except String (Bool × List ByteText)

/-- The operand of a comparison of numbers. -/
def operand (word : ByteText) : Except String Int :=
  match word.toInt? with
  | some n => .ok n
  | none => .error ("Illegal number: " ++ word.toText)

def comparison? (symbol : String) : Option (Int → Int → Bool) :=
  [ ("-eq", fun a b => decide (a = b)), ("-ne", fun a b => decide (a ≠ b)),
    ("-lt", fun a b => decide (a < b)), ("-le", fun a b => decide (a ≤ b)),
    ("-gt", fun a b => decide (a > b)), ("-ge", fun a b => decide (a ≥ b)) ].lookup symbol

def isBinary (word : ByteText) : Bool :=
  ["=", "!=", "<", ">"].contains word.toText || (comparison? word.toText).isSome

/-- Compares two words. -/
def compare (left symbol right : ByteText) : Except String Bool :=
  match comparison? symbol.toText with
  | some holds => do return holds (← operand left) (← operand right)
  | none =>
      match symbol with
      | ['!', '='] => .ok (left ≠ right)
      | ['<'] => .ok (left.map Char.toNat < right.map Char.toNat)
      | ['>'] => .ok (left.map Char.toNat > right.map Char.toNat)
      | _ => .ok (left = right)

/-- Whether a node holds something. -/
def isFilled : Node → Bool
  | .file data _ => !data.isEmpty
  | .sink => false
  | _ => true

def isRegular : Node → Bool
  | .file _ _ => true
  | .program _ => true
  | _ => false

def isLink : Node → Bool
  | .link _ => true
  | _ => false

/-- The conditions on one word. -/
def unary? (tree : FileTree) (symbol : String) : Option (ByteText → Bool) :=
  let meets (follow : Bool) (condition : Node → Bool) (word : ByteText) : Bool :=
    match tree.look follow word.toText with
    | .ok (_, node) => condition node
    | .error _ => false
  [ ("-n", fun word => !word.isEmpty), ("-z", List.isEmpty),
    ("-e", meets true fun _ => true), ("-r", meets true fun _ => true),
    ("-w", meets true fun _ => true), ("-f", meets true isRegular),
    ("-d", meets true (· = .directory)), ("-s", meets true isFilled),
    ("-x", fun word =>
      canExecute tree (ByteText.toText word) || meets true (· = .directory) word),
    ("-L", meets false isLink), ("-h", meets false isLink), ("-t", fun _ => false) ].lookup symbol

/-- A condition without any connective. -/
def primary (tree : FileTree) (words : List ByteText) : Reading :=
  match words with
  | [] => .error "argument expected"
  | left :: symbol :: right :: rest =>
      if isBinary symbol then do return (← compare left symbol right, rest)
      else
        match unary? tree left.toText with
        | some holds => .ok (holds symbol, right :: rest)
        | none => .ok (!left.isEmpty, symbol :: right :: rest)
  | [first, second] =>
      match unary? tree first.toText with
      | some holds => .ok (holds second, [])
      | none =>
          if isBinary second then .error (second.toText ++ ": argument expected")
          else .ok (!first.isEmpty, [second])
  | [word] => .ok (!word.isEmpty, [])

/-- How strongly a connective binds. -/
inductive Tier where
  | disjunction
  | conjunction
  | negation

/-- Reads a condition from a tier on. -/
def read (tree : FileTree) : Nat → Tier → List ByteText → Reading
  | 0, _, _ => .error "too complex"
  | fuel + 1, .disjunction, words => do
      match ← read tree fuel .conjunction words with
      | (value, ['-', 'o'] :: rest) =>
          let (other, rest) ← read tree fuel .disjunction rest
          return (value || other, rest)
      | reading => return reading
  | fuel + 1, .conjunction, words => do
      match ← read tree fuel .negation words with
      | (value, ['-', 'a'] :: rest) =>
          let (other, rest) ← read tree fuel .conjunction rest
          return (value && other, rest)
      | reading => return reading
  | fuel + 1, .negation, words =>
      match words with
      | ['!'] :: second :: rest =>
          match rest with
          | [_] => if isBinary second then primary tree words else negated fuel (second :: rest)
          | _ => negated fuel (second :: rest)
      | ['('] :: rest =>
          if rest.isEmpty || rest.length = 2 && (rest.head?.any isBinary) then primary tree words
          else do
            match ← read tree fuel .disjunction rest with
            | (value, [')'] :: rest) => return (value, rest)
            | _ => .error "closing paren expected"
      | _ => primary tree words
where
  negated (fuel : Nat) (words : List ByteText) : Reading := do
    let (value, rest) ← read tree fuel .negation words
    return (!value, rest)

/-- Whether a list of words holds as a condition; no words do not. -/
def holds (tree : FileTree) (words : List ByteText) : Except String Bool :=
  if words.isEmpty then .ok false
  else
    match read tree (4 * words.length + 4) .disjunction words with
    | .error message => .error message
    | .ok (value, []) => .ok value
    | .ok (_, rest) =>
        let last := (words.take (words.length - rest.length)).getLast?.getD []
        .error (last.toText ++ ": unexpected operator")

end GoldenSuite.Host.Condition

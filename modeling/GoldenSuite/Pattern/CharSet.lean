import GoldenSuite.Text.CaseMap
import GoldenSuite.Text.Category
import GoldenSuite.Text.Script

/-! Sets of characters as patterns describe them. -/

namespace GoldenSuite.Pattern

open Text (RangeTable CaseMap.forms Category.named? Script.named?)

/-- Part of a character set: the members of some tables, or all other characters. With `fold`,
a character counts if one of its case forms is a member. -/
structure CharGroup where
  tables : List RangeTable
  negated : Bool
  fold : Bool

namespace CharGroup

def contains (group : CharGroup) (c : Char) : Bool :=
  let isMember (x : Char) : Bool := group.tables.any (·.contains x.toNat)
  (if group.fold then (CaseMap.forms c).any isMember || isMember c else isMember c)
    != group.negated

/-- A stretch of code points. -/
def range (fold : Bool) (lo hi : Nat) : CharGroup :=
  ⟨[⟨#[(lo, hi)]⟩], false, fold⟩

def single (fold : Bool) (code : Nat) : CharGroup :=
  range fold code code

end CharGroup

/-- A set of characters: those of any of its groups, or all others. -/
structure CharSet where
  groups : List CharGroup
  negated : Bool

namespace CharSet

def contains (set : CharSet) (c : Char) : Bool :=
  set.groups.any (·.contains c) != set.negated

def ofGroup (group : CharGroup) : CharSet :=
  ⟨[group], false⟩

/-- Every character. -/
def any : CharSet := ⟨[], true⟩

/-- Every character but the newline. -/
def anyButNewline : CharSet := ⟨[.single false 10], true⟩

end CharSet

-------------------------------------------------------------------------------
-- Named sets
-------------------------------------------------------------------------------

def digits : RangeTable := ⟨#[(48, 57)]⟩
def blanks : RangeTable := ⟨#[(9, 10), (12, 13), (32, 32)]⟩
def wordChars : RangeTable := ⟨#[(48, 57), (65, 90), (95, 95), (97, 122)]⟩

/-- Whether a character is part of a word: a letter or digit of ASCII, or an underscore. -/
def isWordChar (c : Char) : Bool :=
  wordChars.contains c.toNat

/-- The sets with a one letter escape. The upper case letters stand for the complements. -/
def escapeClass? (fold : Bool) (letter : Char) : Option CharGroup :=
  match letter with
  | 'd' => some ⟨[digits], false, fold⟩
  | 'D' => some ⟨[digits], true, fold⟩
  | 's' => some ⟨[blanks], false, fold⟩
  | 'S' => some ⟨[blanks], true, fold⟩
  | 'w' => some ⟨[wordChars], false, fold⟩
  | 'W' => some ⟨[wordChars], true, fold⟩
  | _ => none

/-- The sets with a name in brackets and colons, all of ASCII. -/
def bracketNames : List (String × RangeTable) :=
  [ ("alnum", ⟨#[(48, 57), (65, 90), (97, 122)]⟩),
    ("alpha", ⟨#[(65, 90), (97, 122)]⟩),
    ("ascii", ⟨#[(0, 127)]⟩),
    ("blank", ⟨#[(9, 9), (32, 32)]⟩),
    ("cntrl", ⟨#[(0, 31), (127, 127)]⟩),
    ("digit", digits),
    ("graph", ⟨#[(33, 126)]⟩),
    ("lower", ⟨#[(97, 122)]⟩),
    ("print", ⟨#[(32, 126)]⟩),
    ("punct", ⟨#[(33, 47), (58, 64), (91, 96), (123, 126)]⟩),
    ("space", ⟨#[(9, 13), (32, 32)]⟩),
    ("upper", ⟨#[(65, 90)]⟩),
    ("word", wordChars),
    ("xdigit", ⟨#[(48, 57), (65, 70), (97, 102)]⟩) ]

/-- A bracket set by its name; a caret in front stands for the complement. -/
def bracketClass? (fold : Bool) (name : List Char) : Option CharGroup :=
  match name with
  | '^' :: rest => (bracketNames.lookup (String.ofList rest)).map fun table => ⟨[table], true, fold⟩
  | _ => (bracketNames.lookup (String.ofList name)).map fun table => ⟨[table], false, fold⟩

/-- The characters of a general category or a script. -/
def property? (name : String) : Option (List RangeTable) :=
  if name = "Any" then some [⟨#[(0, 0x10FFFF)]⟩]
  else
    match Category.named? name with
    | some tables => some tables
    | none => (Script.named? name).map fun table => [table]

end GoldenSuite.Pattern

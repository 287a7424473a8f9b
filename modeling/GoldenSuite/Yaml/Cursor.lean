import GoldenSuite.Yaml.Token

/-! A place in the characters of a stream, and the steps that move it on. -/

namespace GoldenSuite.Yaml

/-- The characters that are left, and where they begin. -/
structure Cursor where
  rest : List Char
  /-- How many characters have been passed. -/
  index : Nat
  line : Nat
  column : Nat
  /-- The line breaks since the last character that was no blank. -/
  breaks : Nat
  /-- Why there are no more characters than these, if it is not the end of the stream. -/
  fault : Option Undecodable
deriving Inhabited

namespace Cursor

/-- The beginning of a stream. -/
def start (source : Source) : Cursor where
  rest := source.text
  index := 0
  line := 0
  column := 0
  breaks := 0
  fault := source.fault

-------------------------------------------------------------------------------
-- Classes of characters
-------------------------------------------------------------------------------

def isBlank (c : Char) : Bool :=
  c = ' ' || c = '\t'

/-- Line feed, carriage return, next line, and the line and paragraph separators. -/
def isBreak (c : Char) : Bool :=
  c = '\n' || c = '\r' || c = '\u0085' || c = '\u2028' || c = '\u2029'

/-- Letters and digits of names. -/
def isWord (c : Char) : Bool :=
  c.isAlphanum || c = '_' || c = '-'

def isHex (c : Char) : Bool :=
  c.isDigit || ('a' ≤ c && c ≤ 'f') || ('A' ≤ c && c ≤ 'F')

def hexValue (c : Char) : Nat :=
  if c.isDigit then c.toNat - 48
  else if 'a' ≤ c then c.toNat - 87
  else c.toNat - 55

/-- Whether a class holds the character, where the end of the stream counts as in it. -/
def orEnd (p : Char → Bool) (c : Option Char) : Bool :=
  match c with
  | some c => p c
  | none => true

/-- A blank, a line break or the end. -/
def isGap (c : Option Char) : Bool :=
  orEnd (fun c => isBlank c || isBreak c) c

-------------------------------------------------------------------------------
-- Looking ahead
-------------------------------------------------------------------------------

/-- The character so many places ahead. -/
def ahead? (cursor : Cursor) (distance : Nat) : Option Char :=
  cursor.rest[distance]?

/-- Whether the character so many places ahead is the given one. -/
def hasAhead (cursor : Cursor) (distance : Nat) (c : Char) : Bool :=
  cursor.ahead? distance == some c

/-- Whether a document marker, three times the same sign, stands at the head of this line. -/
def atMarker (cursor : Cursor) (sign : Char) : Bool :=
  cursor.column = 0 && cursor.hasAhead 0 sign && cursor.hasAhead 1 sign && cursor.hasAhead 2 sign
    && isGap (cursor.ahead? 3)

-------------------------------------------------------------------------------
-- Moving
-------------------------------------------------------------------------------

/-- Passes one character that is no line break. -/
def pass (cursor : Cursor) : Cursor :=
  match cursor.rest with
  | [] => cursor
  | c :: rest =>
      { cursor with
        rest := rest
        index := cursor.index + 1
        column := cursor.column + 1
        breaks := if isBlank c then cursor.breaks else 0 }

/-- Passes one line break; gives it back as it counts in texts. A carriage return and a line feed
together are one break. -/
def passBreak (cursor : Cursor) : List Char × Cursor :=
  let moved (rest : List Char) (width : Nat) : Cursor :=
    { cursor with
      rest := rest
      index := cursor.index + width
      line := cursor.line + 1
      column := 0
      breaks := cursor.breaks + 1 }
  match cursor.rest with
  | '\r' :: '\n' :: rest => (['\n'], moved rest 2)
  | c :: rest =>
      if c = '\n' || c = '\r' || c = '\u0085' then (['\n'], moved rest 1)
      else if isBreak c then ([c], moved rest 1)
      else ([], { cursor with breaks := cursor.breaks + 1 })
  | [] => ([], { cursor with breaks := cursor.breaks + 1 })

end Cursor

/-- A step that reads characters and may fail. -/
abbrev Reading := StateT Cursor (Except Problem)

namespace Reading

/-- Fails if so many characters have to be there, and a block that cannot be decoded is in the
way. -/
def need (count : Nat) : Reading Unit := do
  let cursor ← get
  match cursor.fault with
  | none => pure ()
  | some cause =>
      if (cursor.rest.drop (count - 1)).isEmpty then throw (.undecodable cause) else pure ()

/-- Fails because of something that began on the line `context`. -/
def fail {α : Type} (cause : Malformed) (context : Nat) : Reading α := do
  throw (.malformed cause context (← get).line)

/-- The next character. -/
def next? : Reading (Option Char) := do
  need 1
  return (← get).ahead? 0

/-- Passes one character. -/
def pass : Reading Unit :=
  modify Cursor.pass

/-- Passes so many characters. -/
def passMany : Nat → Reading Unit
  | 0 => pure ()
  | count + 1 => do
      pass
      passMany count

/-- Passes one line break, and gives it back. -/
def lineBreak : Reading (List Char) := do
  need 2
  let (text, cursor) := (← get).passBreak
  set cursor
  return text

/-- Passes the characters of a class as far as they go, and gives them back. -/
def takeWhile (p : Char → Bool) : Reading (List Char) := do
  let taken := (← get).rest.takeWhile p
  set (taken.foldl (fun cursor _ => cursor.pass) (← get))
  need 1
  return taken

/-- Passes blanks. -/
def blanks : Reading Unit := do
  let _ ← takeWhile Cursor.isBlank
  pure ()

/-- Passes everything up to the end of the line. -/
def restOfLine : Reading Unit := do
  let _ ← takeWhile fun c => !Cursor.isBreak c
  pure ()

/-- A bound on the steps of a loop that moves on every time. -/
def budget : Reading Nat := do
  return (← get).rest.length + 2

end Reading

end GoldenSuite.Yaml

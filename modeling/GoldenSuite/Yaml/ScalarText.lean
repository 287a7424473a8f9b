import GoldenSuite.Yaml.Cursor

/-! The texts of scalars: plain, quoted and block scalars, with their escapes and the folding of
lines. -/

namespace GoldenSuite.Yaml.ScalarText

open Cursor Reading

-------------------------------------------------------------------------------
-- Gaps between words
-------------------------------------------------------------------------------

/-- What stands between two words: blanks, or line breaks. -/
structure Gap where
  blanks : List Char
  /-- Whether there was a line break; blanks around it do not count. -/
  broken : Bool
  firstBreak : List Char
  moreBreaks : List Char

namespace Gap

def none : Gap := ⟨[], false, [], []⟩

/-- The rest of a gap after a line break that counts for nothing. -/
def afterBreak : Gap := ⟨[], true, [], []⟩

def addBlank (gap : Gap) (c : Char) : Gap :=
  if gap.broken then gap else { gap with blanks := gap.blanks ++ [c] }

def addBreak (gap : Gap) (text : List Char) : Gap :=
  if gap.broken then { gap with moreBreaks := gap.moreBreaks ++ text } else ⟨[], true, text, []⟩

/-- What a gap means: one line break is a space, and of several the first is dropped. -/
def text (gap : Gap) : List Char :=
  if !gap.broken then gap.blanks
  else if gap.firstBreak.head? = some '\n' then
    if gap.moreBreaks.isEmpty then [' '] else gap.moreBreaks
  else gap.firstBreak ++ gap.moreBreaks

end Gap

/-- Reads a gap as far as it goes. `tabsFrom` is the first column where a tab may stand after a
line break. -/
def gap (tabsFrom : Int) (context : Nat) : Nat → Gap → Reading Gap
  | 0, _ => throw .tooLong
  | budget + 1, sofar => do
      match ← next? with
      | none => return sofar
      | some c =>
          if isBlank c then
            if sofar.broken && c = '\t' && (← get).column < tabsFrom then fail .tabInText context
            else
              pass
              gap tabsFrom context budget (sofar.addBlank c)
          else if isBreak c then
            let text ← lineBreak
            gap tabsFrom context budget (sofar.addBreak text)
          else return sofar

-------------------------------------------------------------------------------
-- Plain scalars
-------------------------------------------------------------------------------

/-- The signs that end a plain scalar inside brackets. -/
def isFlowSign (c : Char) : Bool :=
  c = ',' || c = '?' || c = '[' || c = ']' || c = '\x7b' || c = '\x7d'

/-- The word at the head: up to a gap, a colon before a gap, or a sign that ends it. -/
def plainWord (inFlow : Bool) : List Char → List Char
  | [] => []
  | c :: rest =>
      if isBlank c || isBreak c || (c = ':' && isGap rest.head?) || (inFlow && isFlowSign c) then []
      else c :: plainWord inFlow rest

/-- Reads a plain scalar after some text and a gap. The flag says whether it ended with a line
break. -/
def plainWords (inFlow : Bool) (indent : Int) (context : Nat)
    : Nat → String → Gap → Reading (String × Bool)
  | 0, _, _ => throw .tooLong
  | budget + 1, text, between => do
      need 4
      let cursor ← get
      let word := plainWord inFlow cursor.rest
      if cursor.atMarker '-' || cursor.atMarker '.' || cursor.hasAhead 0 '#' || word.isEmpty then
        return (text, between.broken)
      else
        let text := text ++ String.ofList between.text ++ String.ofList word
        passMany word.length
        need 2
        let between ← gap indent context budget .none
        let cursor ← get
        if !between.broken && between.blanks.isEmpty then return (text, false)
        else if !inFlow && cursor.column < indent then return (text, between.broken)
        else plainWords inFlow indent context budget text between

/-- Reads a plain scalar that has to be indented by `indent`. -/
def plain (inFlow : Bool) (indent : Int) : Reading (String × Bool) := do
  plainWords inFlow indent (← get).line (← budget) "" .none

-------------------------------------------------------------------------------
-- Quoted scalars
-------------------------------------------------------------------------------

/-- What the character after a backslash stands for. -/
inductive Escape where
  | char (c : Char)
  /-- A code point in so many hexadecimal digits. -/
  | code (digits : Nat)

def escapeOf? : Char → Option Escape
  | '0' => some (.char '\x00')
  | 'a' => some (.char '\x07')
  | 'b' => some (.char '\x08')
  | 't' => some (.char '\t')
  | '\t' => some (.char '\t')
  | 'n' => some (.char '\n')
  | 'v' => some (.char '\x0b')
  | 'f' => some (.char '\x0c')
  | 'r' => some (.char '\r')
  | 'e' => some (.char '\x1b')
  | ' ' => some (.char ' ')
  | '"' => some (.char '"')
  | '\'' => some (.char '\'')
  | '\\' => some (.char '\\')
  | 'N' => some (.char '\u0085')
  | '_' => some (.char '\u00a0')
  | 'L' => some (.char '\u2028')
  | 'P' => some (.char '\u2029')
  | 'x' => some (.code 2)
  | 'u' => some (.code 4)
  | 'U' => some (.code 8)
  | _ => none

/-- Reads an escape, from its backslash on. -/
def escape (context : Nat) : Reading Char := do
  match ((← get).ahead? 1).bind escapeOf? with
  | none => fail .unknownEscape context
  | some (.char c) =>
      passMany 2
      return c
  | some (.code digits) =>
      passMany 2
      need digits
      let written := (← get).rest.take digits
      if written.length < digits || !written.all isHex then fail .noHexDigit context
      else
        let code := written.foldl (fun value c => value * 16 + hexValue c) 0
        if (0xD800 ≤ code && code ≤ 0xDFFF) || 0x10FFFF < code then fail .badEscapeCode context
        else
          passMany digits
          return Char.ofNat code

/-- Reads a word between quotes, up to a gap or the closing quote. The flag says whether it ended
with an escaped line break. -/
def quotedWord (single : Bool) (context : Nat) : Nat → String → Reading (String × Bool)
  | 0, _ => throw .tooLong
  | budget + 1, text => do
      need 2
      let cursor ← get
      match cursor.ahead? 0 with
      | none => return (text, false)
      | some c =>
          if isBlank c || isBreak c then return (text, false)
          else if single && c = '\'' then
            if cursor.hasAhead 1 '\'' then
              passMany 2
              quotedWord single context budget (text.push '\'')
            else return (text, false)
          else if !single && c = '"' then return (text, false)
          else if !single && c = '\\' then
            if (cursor.ahead? 1).any isBreak then
              need 3
              pass
              let _ ← lineBreak
              return (text, true)
            else
              let escaped ← escape context
              quotedWord single context budget (text.push escaped)
          else
            pass
            quotedWord single context budget (text.push c)

def quotedWords (single : Bool) (context : Nat) : Nat → String → Reading String
  | 0, _ => throw .tooLong
  | budget + 1, text => do
      need 4
      let cursor ← get
      if cursor.atMarker '-' || cursor.atMarker '.' then fail .documentInQuotes context
      else if cursor.rest.isEmpty then fail .endInQuotes context
      else
        let (text, escapedBreak) ← quotedWord single context (cursor.rest.length + 2) text
        need 1
        let cursor ← get
        if cursor.hasAhead 0 (if single then '\'' else '"') then
          pass
          return text
        else
          let between ← gap 0 context (cursor.rest.length + 2)
            (if escapedBreak then .afterBreak else .none)
          quotedWords single context budget (text ++ String.ofList between.text)

/-- Reads a quoted scalar, both quotes included. -/
def quoted (single : Bool) : Reading String := do
  let context := (← get).line
  pass
  quotedWords single context (← budget) ""

-------------------------------------------------------------------------------
-- Block scalars
-------------------------------------------------------------------------------

/-- What becomes of the line breaks at the end of a block. -/
inductive Chomping where
  | clip
  | strip
  | keep
deriving DecidableEq

def chomping? : Option Char → Option Chomping
  | some '+' => some .keep
  | some '-' => some .strip
  | _ => none

/-- Reads the sign for the closing line breaks, if there is one. -/
def chomping : Reading (Option Chomping) := do
  match chomping? (← next?) with
  | some sign =>
      pass
      return some sign
  | none => return none

/-- Reads the digit for the indentation, if there is one. -/
def increment (context : Nat) : Reading (Option Nat) := do
  match ← next? with
  | some c =>
      if c = '0' then fail .zeroIndent context
      else if c.isDigit then
        pass
        return some (c.toNat - 48)
      else return none
  | none => return none

/-- Reads the head of a block: both indicators, in any order. -/
def blockHead (context : Nat) : Reading (Chomping × Option Nat) := do
  match ← chomping with
  | some sign => return (sign, ← increment context)
  | none =>
      match ← increment context with
      | some digit => return ((← chomping).getD .clip, some digit)
      | none => return (.clip, none)

/-- Reads indentation and empty lines. Without an indentation yet, it is the widest one seen. -/
def blockBreaks (indent : Option Nat) (context : Nat)
    : Nat → Nat → List Char → Reading (Nat × List Char)
  | 0, _, _ => throw .tooLong
  | budget + 1, widest, breaks => do
      let within (column : Nat) : Bool := indent.all (column < ·)
      let cursor ← get
      let room := (indent.map (· - cursor.column)).getD cursor.rest.length
      passMany ((cursor.rest.take room).takeWhile (· = ' ')).length
      let c ← next?
      let column := (← get).column
      let widest := max widest column
      if within column && c = some '\t' then fail .tabInIndent context
      else if c.any isBreak then
        let text ← lineBreak
        blockBreaks indent context budget widest (breaks ++ text)
      else return (widest, breaks)

/-- Reads the lines of a block. `lastBreak` ended the line before, `breaks` are the empty lines
after it, and `indented` says whether that line began with a blank. -/
def blockLines (literal : Bool) (indent context : Nat)
    : Nat → String → List Char → List Char → Bool → Reading (String × List Char × List Char)
  | 0, _, _, _, _ => throw .tooLong
  | budget + 1, text, lastBreak, breaks, indented => do
      need 1
      let cursor ← get
      match cursor.rest with
      | [] => return (text, lastBreak, breaks)
      | c :: _ =>
          if cursor.column ≠ indent then return (text, lastBreak, breaks)
          else
            let folds := !literal && !indented && !isBlank c && lastBreak.head? = some '\n'
            let between :=
              if folds then (if breaks.isEmpty then [' '] else []) else lastBreak
            let line ← takeWhile fun c => !isBreak c
            let lastBreak ← lineBreak
            let (_, later) ← blockBreaks (some indent) context (← Reading.budget) 0 []
            blockLines literal indent context budget
              (text ++ String.ofList (between ++ breaks ++ line)) lastBreak later (isBlank c)

/-- Reads a block scalar from its sign on, inside a block that is indented by `outer`. -/
def block (literal : Bool) (outer : Int) : Reading String := do
  let context := (← get).line
  pass
  let (chomp, digit) ← blockHead context
  blanks
  if (← next?) = some '#' then restOfLine
  match ← next? with
  | some c =>
      if isBreak c then let _ ← lineBreak
      else fail .noCommentOrBreak context
  | none => pure ()
  let explicit := digit.map fun n => if 0 ≤ outer then outer.toNat + n else n
  let (widest, breaks) ← blockBreaks explicit context (← budget) 0 []
  let indent := explicit.getD (max (max widest (outer + 1).toNat) 1)
  let (text, lastBreak, breaks) ← blockLines literal indent context (← budget) "" [] breaks false
  return match chomp with
    | .strip => text
    | .clip => text ++ String.ofList lastBreak
    | .keep => text ++ String.ofList (lastBreak ++ breaks)

end GoldenSuite.Yaml.ScalarText

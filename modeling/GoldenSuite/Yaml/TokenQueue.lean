import GoldenSuite.Yaml.Property
import GoldenSuite.Yaml.ScalarText

/-! Tokens on demand. A key shows only by the colon after it, so tokens wait in a queue until it
is settled whether a key starts with them; indentation opens and closes blocks. -/

namespace GoldenSuite.Yaml

/-- A place where a key may have started that needs no question mark. -/
structure CandidateKey where
  isOpen : Bool
  /-- Whether there has to be a key. -/
  required : Bool
  /-- The number of the token that starts it. -/
  token : Nat
  index : Nat
  line : Nat
  column : Nat
deriving Inhabited

/-- The tokens that wait, and all that decides about the next ones. -/
structure TokenQueue where
  cursor : Cursor
  tokens : List Token
  /-- How many tokens have been handed out. -/
  taken : Nat
  started : Bool
  /-- The column of the innermost block; -1 outside of all. -/
  indent : Int
  /-- The columns of the blocks around it. -/
  outer : List Int
  /-- Whether a key may start here. -/
  keyAllowed : Bool
  /-- One candidate for each bracket that is open and one for the block, the innermost first. -/
  keys : List CandidateKey
  /-- Which candidate starts with which token: the token and the number of open brackets. -/
  watched : List (Nat × Nat)
deriving Inhabited

namespace TokenQueue

def start (source : Source) : TokenQueue where
  cursor := .start source
  tokens := []
  taken := 0
  started := false
  indent := -1
  outer := []
  keyAllowed := true
  keys := [default]
  watched := []

/-- The number of brackets that are open. -/
def flowLevel (queue : TokenQueue) : Nat :=
  queue.keys.length - 1

def inFlow (queue : TokenQueue) : Bool :=
  0 < queue.flowLevel

/-- The number that the next token gets. -/
def nextNumber (queue : TokenQueue) : Nat :=
  queue.taken + queue.tokens.length

/-- Puts a token in front of the one with the given number. -/
def insertAt (queue : TokenQueue) (number : Nat) (token : Token) : TokenQueue :=
  let place := number - queue.taken
  { queue with tokens := queue.tokens.take place ++ token :: queue.tokens.drop place }

def append (queue : TokenQueue) (token : Token) : TokenQueue :=
  { queue with tokens := queue.tokens ++ [token] }

/-- Replaces the innermost candidate. -/
def setKey (queue : TokenQueue) (key : CandidateKey) : TokenQueue :=
  { queue with keys := key :: queue.keys.tail }

def unwatch (queue : TokenQueue) (token : Nat) : TokenQueue :=
  { queue with watched := queue.watched.filter fun entry => entry.1 ≠ token }

end TokenQueue

/-- A step that reads tokens and may fail. -/
abbrev Tokenizing := StateT TokenQueue (Except Problem)

namespace Tokenizing

open TokenQueue

/-- The deepest nesting. -/
def depthLimit : Nat := 10000

/-- The longest key that needs no question mark. -/
def keyLimit : Nat := 1024

/-- Runs a step that reads characters. -/
def reading {α : Type} (step : Reading α) : Tokenizing α := do
  let queue ← get
  match step.run queue.cursor with
  | .ok (result, cursor) =>
      set { queue with cursor }
      return result
  | .error problem => throw problem

def fail {α : Type} (cause : Malformed) (context : Nat) : Tokenizing α :=
  reading (Reading.fail cause context)

-------------------------------------------------------------------------------
-- Candidates for keys
-------------------------------------------------------------------------------

/-- Whether a key may still be going on: it has to stay on one line, and may not be too long. A
key that has to be there must not get lost. -/
def stillOpen (key : CandidateKey) : Tokenizing Bool := do
  let cursor := (← get).cursor
  if !key.isOpen then return false
  else if key.line < cursor.line || key.index + keyLimit < cursor.index then
    if key.required then fail .keyWithoutValue key.line else return false
  else return true

/-- The innermost candidate. -/
def currentKey : Tokenizing CandidateKey := do
  return (← get).keys.headD default

/-- Gives up the innermost candidate. -/
def dropKey : Tokenizing Unit := do
  let key ← currentKey
  if key.isOpen then
    if key.required then fail .keyWithoutValue key.line
    else modify fun queue => (queue.setKey { key with isOpen := false }).unwatch key.token

/-- Notes that a key may start here. -/
def noteKey : Tokenizing Unit := do
  let queue ← get
  if queue.keyAllowed then
    dropKey
    let cursor := queue.cursor
    let key : CandidateKey :=
      { isOpen := true
        required := !queue.inFlow && queue.indent = cursor.column
        token := queue.nextNumber
        index := cursor.index
        line := cursor.line
        column := cursor.column }
    modify fun queue =>
      let queue := (queue.setKey key).unwatch key.token
      { queue with watched := (key.token, queue.flowLevel) :: queue.watched }

def allowKey (allowed : Bool) : Tokenizing Unit :=
  modify fun queue => { queue with keyAllowed := allowed }

-------------------------------------------------------------------------------
-- Blocks and brackets
-------------------------------------------------------------------------------

/-- Opens a block at a column that lies further in than the block around it. -/
def openBlock (column : Nat) (number : Option Nat) (kind : Token.Kind) (line : Nat)
    : Tokenizing Unit := do
  let queue ← get
  if !queue.inFlow && queue.indent < column then
    let queue := { queue with outer := queue.indent :: queue.outer, indent := column }
    set queue
    if depthLimit < queue.outer.length then fail .tooDeep (← currentKey).line
    let token : Token := ⟨kind, line⟩
    match number with
    | some number => modify (·.insertAt number token)
    | none => modify (·.append token)

/-- Closes the blocks that lie further in than a column. -/
def closeBlocks (column : Int) (line : Nat) : Tokenizing Unit :=
  modify fun queue =>
    if queue.inFlow || queue.indent ≤ column then queue
    else
      let columns := queue.indent :: queue.outer
      let closed := (columns.takeWhile (column < ·)).length
      let left := columns.drop closed
      { queue with
        tokens := queue.tokens ++ List.replicate closed ⟨.blockEnd, line⟩
        indent := left.headD (-1)
        outer := left.tail }

/-- Adds the token of a sign of one character. -/
def sign (kind : Token.Kind) : Tokenizing Unit := do
  let line := (← get).cursor.line
  reading Reading.pass
  modify (·.append ⟨kind, line⟩)

def openBracket (kind : Token.Kind) : Tokenizing Unit := do
  noteKey
  let queue ← get
  let inner : CandidateKey :=
    { isOpen := false
      required := false
      token := queue.nextNumber
      index := queue.cursor.index
      line := queue.cursor.line
      column := queue.cursor.column }
  set { queue with keys := inner :: queue.keys }
  if depthLimit < queue.flowLevel + 1 then fail .tooDeep inner.line
  allowKey true
  sign kind

def closeBracket (kind : Token.Kind) : Tokenizing Unit := do
  dropKey
  modify fun queue =>
    if queue.inFlow then
      let queue := queue.unwatch (queue.keys.headD default).token
      { queue with keys := queue.keys.tail }
    else queue
  allowKey false
  sign kind

-------------------------------------------------------------------------------
-- The kinds of tokens
-------------------------------------------------------------------------------

def streamEnd : Tokenizing Unit := do
  modify fun queue =>
    let cursor := queue.cursor
    if cursor.column = 0 then queue
    else { queue with cursor := { cursor with column := 0, line := cursor.line + 1 } }
  closeBlocks (-1) (← get).cursor.line
  dropKey
  allowKey false
  modify fun queue => queue.append ⟨.streamEnd, queue.cursor.line⟩

def directive : Tokenizing Unit := do
  let line := (← get).cursor.line
  closeBlocks (-1) line
  dropKey
  allowKey false
  let kind ← reading Property.directive
  modify (·.append ⟨kind, line⟩)

def documentMarker (kind : Token.Kind) : Tokenizing Unit := do
  let line := (← get).cursor.line
  closeBlocks (-1) line
  dropKey
  allowKey false
  reading (Reading.passMany 3)
  modify (·.append ⟨kind, line⟩)

def flowEntry : Tokenizing Unit := do
  dropKey
  allowKey true
  sign .flowEntry

def blockEntry : Tokenizing Unit := do
  let queue ← get
  if !queue.inFlow then
    if !queue.keyAllowed then fail .entryNotAllowed queue.cursor.line
    openBlock queue.cursor.column none .blockSequenceStart queue.cursor.line
  dropKey
  allowKey true
  sign .blockEntry

def explicitKey : Tokenizing Unit := do
  let queue ← get
  if !queue.inFlow then
    if !queue.keyAllowed then fail .keyNotAllowed queue.cursor.line
    openBlock queue.cursor.column none .blockMappingStart queue.cursor.line
  dropKey
  allowKey (!queue.inFlow)
  sign .key

/-- A colon: it settles that the innermost candidate is a key, or belongs to a key with a question
mark. -/
def value : Tokenizing Unit := do
  let key ← currentKey
  if ← stillOpen key then
    modify (·.insertAt key.token ⟨.key, key.line⟩)
    openBlock key.column (some key.token) .blockMappingStart key.line
    modify fun queue => (queue.setKey { key with isOpen := false }).unwatch key.token
    allowKey false
  else
    modify (·.setKey { key with isOpen := false })
    let queue ← get
    if !queue.inFlow then
      if !queue.keyAllowed then fail .valueNotAllowed queue.cursor.line
      openBlock queue.cursor.column none .blockMappingStart queue.cursor.line
    allowKey (!queue.inFlow)
  sign .value

/-- A token that a key may start with and that leaves no room for a key after it. -/
def keyPart (step : Reading Token.Kind) : Tokenizing Unit := do
  noteKey
  allowKey false
  let line := (← get).cursor.line
  let kind ← reading step
  modify (·.append ⟨kind, line⟩)

def quotedScalar (single : Bool) : Tokenizing Unit :=
  keyPart do return .scalar (← ScalarText.quoted single) false

def blockScalar (literal : Bool) : Tokenizing Unit := do
  dropKey
  allowKey true
  let queue ← get
  let text ← reading (ScalarText.block literal queue.indent)
  modify (·.append ⟨.scalar text false, queue.cursor.line⟩)

def plainScalar : Tokenizing Unit := do
  noteKey
  allowKey false
  let queue ← get
  let (text, broken) ← reading (ScalarText.plain queue.inFlow (queue.indent + 1))
  modify (·.append ⟨.scalar text true, queue.cursor.line⟩)
  if broken then allowKey true

-------------------------------------------------------------------------------
-- Between tokens
-------------------------------------------------------------------------------

/-- The comment lines that follow: after the end of a line, blanks and empty lines up to the next
number sign. -/
def commentAhead? (rest : List Char) : Option Nat :=
  match rest with
  | [] => none
  | _ :: rest =>
      let gap := (rest.take 511).takeWhile fun c => Cursor.isBlank c || Cursor.isBreak c
      if rest[gap.length]? = some '#' then some (gap.length + 1) else none

/-- Passes blanks and line breaks. -/
def passGap (budget count : Nat) : Reading Unit :=
  match budget with
  | 0 => throw .tooLong
  | budget + 1 => do
      let cursor ← get
      if count ≤ cursor.index then pure ()
      else if (cursor.ahead? 0).any Cursor.isBreak then
        let _ ← Reading.lineBreak
        passGap budget count
      else
        Reading.pass
        passGap budget count

/-- Passes a comment and the comments on the lines after it. -/
def comments : Nat → Reading Unit
  | 0 => throw .tooLong
  | budget + 1 => do
      Reading.restOfLine
      let cursor ← get
      match commentAhead? cursor.rest with
      | none => pure ()
      | some distance =>
          passGap (distance + 1) (cursor.index + distance)
          comments budget

/-- Passes a comment that stands on the same line as the token before it. -/
def lineComment : Reading Unit := do
  let cursor ← get
  if cursor.breaks = 0 then
    let blanks := (cursor.rest.take 512).takeWhile Cursor.isBlank
    if cursor.rest[blanks.length]? = some '#' then
      Reading.passMany blanks.length
      Reading.restOfLine

/-- Passes all that stands before the next token. Tabs may not stand where a key can. -/
def gap : Nat → Tokenizing Unit
  | 0 => throw .tooLong
  | budget + 1 => do
      let c ← reading Reading.next?
      if (← get).cursor.column = 0 && c = some '\uFEFF' then reading Reading.pass
      let queue ← get
      let tabs := queue.inFlow || !queue.keyAllowed
      let _ ← reading (Reading.takeWhile fun c => c = ' ' || (tabs && c = '\t'))
      if (← reading Reading.next?) = some '#' then reading do comments (← Reading.budget)
      let c ← reading Reading.next?
      if c.any Cursor.isBreak then
        let _ ← reading Reading.lineBreak
        if !queue.inFlow then allowKey true
        gap budget

-------------------------------------------------------------------------------
-- The next token
-------------------------------------------------------------------------------

/-- The signs that no plain scalar starts with. -/
def isIndicator (c : Char) : Bool :=
  "-?:,[]\x7b\x7d#&*!|>'\"%@\x60".toList.contains c

/-- Whether a plain scalar starts with a character before another one. -/
def startsPlain (inFlow : Bool) (c : Char) (after : Option Char) : Bool :=
  !isIndicator c || (c = '-' && !after.any Cursor.isBlank)
    || (!inFlow && (c = '?' || c = ':') && !Cursor.isGap after)

/-- Adds the token that starts with a character. -/
def tokenAt (c : Char) : Tokenizing Unit := do
  let queue ← get
  let after := queue.cursor.ahead? 1
  let gapAfter := Cursor.isGap after
  if c = '[' then openBracket .flowSequenceStart
  else if c = '\x7b' then openBracket .flowMappingStart
  else if c = ']' then closeBracket .flowSequenceEnd
  else if c = '\x7d' then closeBracket .flowMappingEnd
  else if c = ',' then flowEntry
  else if c = '-' && gapAfter then blockEntry
  else if c = '?' && (queue.inFlow || gapAfter) then explicitKey
  else if c = ':' && (queue.inFlow || gapAfter) then value
  else if c = '*' then keyPart do return .alias (← Property.name)
  else if c = '&' then keyPart do return .anchor (← Property.name)
  else if c = '!' then keyPart Property.tag
  else if c = '|' && !queue.inFlow then blockScalar true
  else if c = '>' && !queue.inFlow then blockScalar false
  else if c = '\'' then quotedScalar true
  else if c = '"' then quotedScalar false
  else if startsPlain queue.inFlow c after && !Cursor.isBlank c then plainScalar
  else fail .noToken queue.cursor.line

/-- Adds the next token, and those that follow from where it stands. -/
def addToken : Tokenizing Unit := do
  reading (Reading.need 1)
  if !(← get).started then
    modify fun queue => { queue.append ⟨.streamStart, 0⟩ with started := true }
  else
    let line := (← get).cursor.line
    gap (← get).cursor.rest.length.succ
    closeBlocks (← get).cursor.column line
    reading (Reading.need 4)
    let cursor := (← get).cursor
    match cursor.rest with
    | [] => streamEnd
    | c :: _ =>
        if cursor.column = 0 && c = '%' then directive
        else if cursor.atMarker '-' then documentMarker .documentStart
        else if cursor.atMarker '.' then documentMarker .documentEnd
        else
          tokenAt c
          if ((← get).tokens.getLast?.map (·.kind)) ≠ some .blockEntry then reading lineComment

/-- Whether the token at the head may still turn out to be the start of a key. -/
def headPending : Tokenizing Bool := do
  let queue ← get
  match queue.watched.lookup queue.taken with
  | none => return false
  | some level =>
      match queue.keys[queue.flowLevel - level]? with
      | none => return false
      | some key => stillOpen key

/-- How many tokens have to wait behind the one at the head. -/
def lookahead : Nat := 2

def fill : Nat → Tokenizing Unit
  | 0 => throw .tooLong
  | budget + 1 => do
      if lookahead < (← get).tokens.length then
        if ← headPending then
          addToken
          fill budget
      else
        addToken
        fill budget

/-- The token at the head. -/
def peek : Tokenizing Token := do
  fill ((← get).cursor.rest.length + 8)
  return (← get).tokens.headD default

/-- Hands out the token at the head. -/
def skip : Tokenizing Unit :=
  modify fun queue => { queue with tokens := queue.tokens.tail, taken := queue.taken + 1 }

end Tokenizing

end GoldenSuite.Yaml

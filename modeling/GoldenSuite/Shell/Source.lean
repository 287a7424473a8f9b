import GoldenSuite.Shell.Grammar

/-! Reading a script, character by character: where the reading stands, and words. -/

namespace GoldenSuite.Shell

open Host (ByteText)

/-- A text that a redirection has announced, to be found after the end of the line. -/
structure Announcement where
  index : Nat
  ending : ByteText
  quoted : Bool
  /-- Whether tabs at the beginning of its lines are left out. -/
  dedented : Bool

/-- How far a script has been read. -/
structure Source where
  rest : ByteText
  line : Nat
  announced : List Announcement
  /-- The texts that have been found, by their numbers. -/
  documents : List (Nat × Word)

namespace Source

/-- A script from its beginning, after texts that were found before. -/
def ofText (text : ByteText) (line : Nat) (documents : List (Nat × Word)) : Source where
  rest := text
  line := line
  announced := []
  documents := documents

/-- Goes on by some characters. -/
def advance (s : Source) (count : Nat) : Source :=
  { s with rest := s.rest.drop count, line := s.line + (s.rest.take count).count '\n' }

end Source

/-- What is wrong with a script, and where. -/
structure Complaint where
  line : Nat
  message : String

/-- A part of a script is read, or a complaint is made. -/
abbrev Reading (α : Type) : Type :=
  StateT Source (Except Complaint) α

namespace Reading

def fail {α : Type} (message : String) : Reading α := do
  throw ⟨(← get).line, message⟩

def syntaxError {α : Type} (message : String) : Reading α :=
  fail ("Syntax error: " ++ message)

/-- Complains about something that is still missing at the end of the script. -/
def unfinished {α : Type} (message : String) : Reading α := do
  modify fun s => s.advance s.rest.length
  syntaxError message

/-- Goes on by some characters. -/
def skip (count : Nat) : Reading Unit :=
  modify (·.advance count)

/-- Takes the characters that fulfil a condition. -/
def takeWhile (condition : Char → Bool) : Reading ByteText := do
  let taken := (← get).rest.takeWhile condition
  skip taken.length
  return taken

/-- Whether a text comes next. -/
def comes (text : ByteText) : Reading Bool := do
  return text.isPrefixOf (← get).rest

-------------------------------------------------------------------------------
-- Names and nested text
-------------------------------------------------------------------------------

def isNameStart (c : Char) : Bool :=
  c.isAlpha || c = '_'

def isNameChar (c : Char) : Bool :=
  c.isAlphanum || c = '_'

/-- Whether a text is a name. -/
def isName (text : ByteText) : Bool :=
  match text with
  | c :: rest => isNameStart c && rest.all isNameChar
  | [] => false

/-- Whether a character ends a word by itself. -/
def isMeta (c : Char) : Bool :=
  " \t\n;&|<>()".toList.contains c

/-- The length of a text up to the end of the single quotes it starts in. -/
def singleQuoted (text : ByteText) : Nat :=
  (text.takeWhile (· ≠ '\'')).length + 1

/-- The length of a text up to the end of the double quotes it starts in. -/
def doubleQuoted : ByteText → Nat
  | '\\' :: _ :: rest => doubleQuoted rest + 2
  | '"' :: _ => 1
  | _ :: rest => doubleQuoted rest + 1
  | [] => 1

/-- The length of a text up to the parenthesis that closes the one before it. -/
def closing? : Nat → Nat → ByteText → Option Nat
  | 0, _, _ => none
  | fuel + 1, depth, text =>
      match text with
      | [] => none
      | '\\' :: _ :: rest => (closing? fuel depth rest).map (· + 2)
      | '\'' :: rest =>
          let length := singleQuoted rest
          (closing? fuel depth (rest.drop length)).map (· + length + 1)
      | '"' :: rest =>
          let length := doubleQuoted rest
          (closing? fuel depth (rest.drop length)).map (· + length + 1)
      | '(' :: rest => (closing? fuel (depth + 1) rest).map (· + 1)
      | ')' :: rest =>
          match depth with
          | 0 => some 0
          | below + 1 => (closing? fuel below rest).map (· + 1)
      | _ :: rest => (closing? fuel depth rest).map (· + 1)

/-- The text up to the closing backquote. A backslash there only guards a few characters. -/
def backquoted (quoted : Bool) : ByteText → Option (ByteText × Nat)
  | [] => none
  | '\x60' :: _ => some ([], 1)
  | '\\' :: c :: rest =>
      let guards := c = '\x60' || c = '\\' || c = '$' || quoted && c = '"'
      (backquoted quoted rest).map fun (text, length) =>
        (if guards then c :: text else '\\' :: c :: text, length + 2)
  | c :: rest => (backquoted quoted rest).map fun (text, length) => (c :: text, length + 1)

-------------------------------------------------------------------------------
-- Words
-------------------------------------------------------------------------------

/-- Where a word stands, which decides where it ends and which quotes count. -/
inductive Context where
  /-- Outside of all quotes. -/
  | bare
  /-- Between double quotes. -/
  | quoted
  /-- A text of its own, in which quotes do not count. -/
  | document
  /-- Behind a parameter, up to the closing brace. -/
  | braced (quoted : Bool)
deriving DecidableEq

namespace Context

def isQuoted : Context → Bool
  | .bare => false
  | .quoted => true
  | .document => true
  | .braced inQuotes => inQuotes

def endsAt (c : Char) : Context → Bool
  | .bare => isMeta c
  | .quoted => c = '"'
  | .document => false
  | .braced _ => c = '\x7d'

/-- Whether a backslash guards a character. -/
def guards (c : Char) : Context → Bool
  | .bare => true
  | .quoted => "$\x60\"\\\n".toList.contains c
  | .document => "$\x60\\\n".toList.contains c
  | .braced inQuotes => !inQuotes || "$\x60\"\\\n\x7d".toList.contains c

/-- What is missing if the script ends in this context. -/
def missing? : Context → Option String
  | .bare => none
  | .quoted => some "Unterminated quoted string"
  | .document => none
  | .braced _ => some "Missing '\x7d'"

end Context

/-- The adjustments by the character they are written with. -/
def adjustment? (c : Char) (doubled : Bool) : Option Adjustment :=
  match c with
  | '-' => some .orElse
  | '=' => some .orAssign
  | '?' => some .orFail
  | '+' => some .ifSet
  | '#' => some (.withoutStart doubled)
  | '%' => some (.withoutEnd doubled)
  | _ => none

/-- A parameter's name: a name, digits, or a sign. -/
def parameterName : Reading (Option String) := do
  match (← get).rest with
  | c :: _ =>
      if isNameStart c then return some (String.ofList (← takeWhile isNameChar))
      else if c.isDigit then return some (String.ofList (← takeWhile Char.isDigit))
      else if "@*#?-$!".toList.contains c then
        skip 1
        return some (String.singleton c)
      else return none
  | [] => return none

/-- Reads the commands up to the closing parenthesis. -/
def command (quoted : Bool) (rest : ByteText) : Reading Piece := do
  match closing? (rest.length + 1) 0 rest with
  | some length =>
      skip (length + 2)
      return .substitution quoted (rest.take length)
  | none => unfinished "end of file unexpected (expecting \")\")"

mutual

/-- Reads the pieces of a word. -/
def pieces : Nat → Context → Reading Word
  | 0, _ => fail "Word too long"
  | fuel + 1, context => do
      match (← get).rest with
      | [] =>
          match context.missing? with
          | some message => syntaxError message
          | none => return []
      | c :: rest =>
          if context.endsAt c then return []
          else if c = '\\' then
            match rest with
            | [] => do
                skip 1
                return [.text context.isQuoted ['\\']]
            | next :: _ =>
                skip 2
                if !context.guards next then
                  return Word.push (.text true ['\\', next]) (← pieces fuel context)
                else if next = '\n' then pieces fuel context
                else return Word.push (.text true [next]) (← pieces fuel context)
          else if c = '\'' && !context.isQuoted then
            if !rest.contains '\'' then unfinished "Unterminated quoted string"
            else
              skip (singleQuoted rest + 1)
              return Word.push (.text true (rest.takeWhile (· ≠ '\'')))
                (← pieces fuel context)
          else if c = '"' && context ≠ .document then
            skip 1
            let inner ← pieces fuel .quoted
            skip 1
            return Word.push (.text true []) (inner.foldr Word.push (← pieces fuel context))
          else if c = '\x60' then
            match backquoted context.isQuoted rest with
            | none => unfinished "EOF in backquote substitution"
            | some (text, length) =>
                skip (length + 1)
                return .substitution context.isQuoted text :: (← pieces fuel context)
          else if c = '$' then
            skip 1
            let piece ← expansion fuel context.isQuoted
            return Word.push piece (← pieces fuel context)
          else
            skip 1
            return Word.push (.text context.isQuoted [c]) (← pieces fuel context)

/-- Reads what follows a dollar sign. -/
def expansion : Nat → Bool → Reading Piece
  | 0, _ => fail "Word too long"
  | fuel + 1, quoted => do
      match (← get).rest with
      | '(' :: '(' :: rest =>
          match closing? (rest.length + 1) 0 rest with
          | some length =>
              if (rest.drop length).take 2 = [')', ')'] then
                let inner := Source.ofText (rest.take length) (← get).line []
                match (pieces fuel .document).run inner with
                | .ok (body, _) =>
                    skip (length + 4)
                    return .arithmetic quoted body
                | .error complaint => throw complaint
              else command quoted ('(' :: rest)
          | none => unfinished "Missing '))'"
      | '(' :: rest => command quoted rest
      | '\x7b' :: _ =>
          skip 1
          braced fuel quoted
      | c :: _ =>
          if c.isDigit then
            skip 1
            return .parameter quoted (String.singleton c)
          else
            match ← parameterName with
            | some name => return .parameter quoted name
            | none => return .text quoted ['$']
      | [] => return .text quoted ['$']

/-- Reads a parameter in braces, with what is done to it. -/
def braced : Nat → Bool → Reading Piece
  | 0, _ => fail "Word too long"
  | fuel + 1, quoted => do
      let close : Reading Unit := do
        if ← comes ['\x7d'] then skip 1 else fail "Bad substitution"
      match (← get).rest with
      | '#' :: c :: _ =>
          if c ≠ '\x7d' && (isNameChar c || "@*?$!#-".toList.contains c) then
            skip 1
            match ← parameterName with
            | some name =>
                close
                return .length name
            | none => fail "Bad substitution"
          else
            plain fuel quoted close
      | _ => plain fuel quoted close

/-- Reads a parameter that is not asked for its length. -/
def plain : Nat → Bool → Reading Unit → Reading Piece
  | 0, _, _ => fail "Word too long"
  | fuel + 1, quoted, close => do
      match ← parameterName with
      | none => fail "Bad substitution"
      | some name =>
          let orEmpty ← comes [':']
          if orEmpty then skip 1
          match (← get).rest with
          | [] => syntaxError "Missing '\x7d'"
          | c :: rest =>
              if c = '\n' then syntaxError "Missing '\x7d'"
              else if c = '\x7d' && !orEmpty then
                skip 1
                return .parameter quoted name
              else
                let doubled := (c = '#' || c = '%') && rest.head? = some c
                match adjustment? c doubled with
                | none => fail "Bad substitution"
                | some how =>
                    skip (if doubled then 2 else 1)
                    let isPattern := c = '#' || c = '%'
                    let word ← pieces fuel (.braced (quoted && !isPattern))
                    close
                    return .adjusted quoted name how orEmpty word

end

/-- Reads a word in a context. -/
def word (context : Context) : Reading Word := do
  pieces (4 * (← get).rest.length + 8) context

end Reading

end GoldenSuite.Shell

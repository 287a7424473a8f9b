import GoldenSuite.Shell.Source

/-! Reading commands. A script is read line by line, as far as a complete command goes, so that
what is wrong further on does no harm before. -/

namespace GoldenSuite.Shell

open Host (ByteText)

/-- A token of a script. -/
inductive Token where
  | word (word : Word)
  | symbol (text : String)
  /-- A redirection's symbol, with the descriptor in front of it. -/
  | arrow (descriptor : Option Nat) (text : String)
  | newline
  | finish
deriving Inhabited

namespace Token

/-- The words that commands are built with. -/
def reserved : List String :=
  ["!", "case", "do", "done", "elif", "else", "esac", "fi", "for", "if", "in", "then", "until",
    "while", "\x7b", "\x7d"]

/-- The text of a word without quotes. -/
def text? : Token → Option String
  | .word found => found.plain?.map String.ofList
  | _ => none

/-- The reserved word that a token is where a command may start. -/
def keyword? (token : Token) : Option String :=
  match token.text? with
  | some text => if reserved.contains text then some text else none
  | none => none

/-- How a token is called in a complaint. -/
def describe (token : Token) : String :=
  match token with
  | .word _ =>
      match token.keyword? with
      | some text => "\"" ++ text ++ "\""
      | none => "word"
  | .symbol text => "\"" ++ text ++ "\""
  | .arrow _ _ => "redirection"
  | .newline => "newline"
  | .finish => "end of file"

end Token

namespace Reading

-------------------------------------------------------------------------------
-- Tokens
-------------------------------------------------------------------------------

/-- Skips blanks, joined lines and a comment. -/
def skipBlanks : Nat → Reading Unit
  | 0 => return
  | fuel + 1 => do
      match (← get).rest with
      | ' ' :: _ => do
          skip 1
          skipBlanks fuel
      | '\t' :: _ => do
          skip 1
          skipBlanks fuel
      | '\\' :: '\n' :: _ => do
          skip 2
          skipBlanks fuel
      | '#' :: _ => do
          let _ ← takeWhile (· ≠ '\n')
      | _ => return

def symbols : List String :=
  ["&&", "||", ";;", ";", "&", "|", "(", ")"]

def arrows : List String :=
  ["<<-", "<<", ">>", "<&", ">&", "<>", ">|", "<", ">"]

/-- Reads the lines of an announced text up to its ending. -/
def documentLines (announced : Announcement) : Nat → Reading ByteText
  | 0 => return []
  | fuel + 1 => do
      if (← get).rest.isEmpty then return []
      let line ← takeWhile (· ≠ '\n')
      skip 1
      let line := if announced.dedented then line.dropWhile (· = '\t') else line
      if line = announced.ending then return []
      else return line ++ '\n' :: (← documentLines announced fuel)

/-- Reads an announced text. -/
def document (announced : Announcement) : Reading Unit := do
  let start := (← get).line
  let body ← documentLines announced ((← get).rest.length + 1)
  let found ←
    if announced.quoted then pure [.text true body]
    else
      match (word .document).run (Source.ofText body start []) with
      | .ok (found, _) => pure found
      | .error complaint => throw complaint
  modify fun s => { s with documents := (announced.index, found) :: s.documents }

/-- Reads the announced texts after the end of a line. -/
def documents : Reading Unit := do
  let announced := (← get).announced
  modify fun s => { s with announced := [] }
  announced.forM document

/-- Reads a token. -/
def token : Reading Token := do
  skipBlanks ((← get).rest.length + 1)
  let rest := (← get).rest
  match rest with
  | [] => return .finish
  | '\n' :: _ =>
      skip 1
      documents
      return .newline
  | _ =>
      let digits := rest.takeWhile Char.isDigit
      let behind := rest.drop digits.length
      match arrows.find? (fun text => text.toList.isPrefixOf behind) with
      | some text =>
          skip (digits.length + text.length)
          return .arrow
            (if digits.isEmpty then none else some (ByteText.digitsValue 10 digits)) text
      | none =>
          match symbols.find? (fun text => text.toList.isPrefixOf rest) with
          | some text =>
              skip text.length
              return .symbol text
          | none => return .word (← word .bare)

/-- Looks at the next token without taking it. -/
def peek : Reading Token := do
  let before ← get
  let next ← token
  set before
  return next

/-- Complains about the next token. -/
def unexpected {α : Type} (expected : Option String) : Reading α := do
  let next ← token
  syntaxError (next.describe ++ " unexpected"
    ++ match expected with
      | some text => " (expecting \"" ++ text ++ "\")"
      | none => "")

/-- Takes a reserved word that has to come. -/
def expectKeyword (text : String) : Reading Unit := do
  if (← peek).keyword? = some text then
    let _ ← token
  else unexpected (some text)

/-- Takes a symbol that has to come. -/
def expectSymbol (text : String) : Reading Unit := do
  match ← peek with
  | .symbol found =>
      if found = text then
        let _ ← token
      else unexpected (some text)
  | _ => unexpected (some text)

/-- Skips ends of lines. -/
def skipNewlines : Nat → Reading Unit
  | 0 => return
  | fuel + 1 => do
      match ← peek with
      | .newline =>
          let _ ← token
          skipNewlines fuel
      | _ => return

-------------------------------------------------------------------------------
-- Simple commands
-------------------------------------------------------------------------------

/-- The assignment that a word is, if it is one. -/
def assignment? (word : Word) : Option (String × Word) :=
  match word with
  | .text false text :: rest =>
      let name := text.takeWhile (· ≠ '=')
      if text.contains '=' && isName name then
        let value := text.drop (name.length + 1)
        some (String.ofList name, if value.isEmpty then rest else .text false value :: rest)
      else none
  | _ => none

/-- Reads the target of a redirection. -/
def redirection (descriptor : Option Nat) (arrow : String) : Reading Redirection := do
  let target ←
    match ← token with
    | .word target => pure target
    | _ => syntaxError "redirection unexpected"
  let out := descriptor.getD 1
  let into := descriptor.getD 0
  match arrow with
  | ">" => return ⟨out, .output, target⟩
  | ">|" => return ⟨out, .output, target⟩
  | ">>" => return ⟨out, .continued, target⟩
  | ">&" => return ⟨out, .duplicate, target⟩
  | "<&" => return ⟨into, .duplicate, target⟩
  | "<" => return ⟨into, .input, target⟩
  | "<>" => return ⟨into, .input, target⟩
  | _ =>
      let s ← get
      let (ending, quoted) := Word.literal target
      let index := s.announced.length + s.documents.length
      let announced : Announcement :=
        { index, ending, quoted, dedented := arrow = "<<-" }
      set { s with announced := s.announced ++ [announced] }
      return ⟨into, .document index, []⟩

/-- Reads redirections. -/
def redirections : Nat → Reading (List Redirection)
  | 0 => return []
  | fuel + 1 => do
      match ← peek with
      | .arrow descriptor text =>
          let _ ← token
          let first ← redirection descriptor text
          return first :: (← redirections fuel)
      | _ => return []

/-- What has been read of a simple command. -/
structure Parts where
  assignments : List (String × Word)
  words : List Word
  redirections : List Redirection

/-- Reads the words, assignments and redirections of a simple command. -/
def parts : Nat → Parts → Reading Parts
  | 0, found => return found
  | fuel + 1, found => do
      match ← peek with
      | .arrow descriptor text =>
          let _ ← token
          let next ← redirection descriptor text
          parts fuel { found with redirections := found.redirections ++ [next] }
      | .word word =>
          let _ ← token
          match assignment? word with
          | some assigned =>
              if found.words.isEmpty then
                parts fuel { found with assignments := found.assignments ++ [assigned] }
              else parts fuel { found with words := found.words ++ [word] }
          | none => parts fuel { found with words := found.words ++ [word] }
      | _ => return found

def simple : Reading Command := do
  let line := (← get).line
  let found ← parts ((← get).rest.length + 1) ⟨[], [], []⟩
  return .simple line found.assignments found.words found.redirections

-------------------------------------------------------------------------------
-- Compound commands
-------------------------------------------------------------------------------

/-- Reads words up to the end of the line. -/
def wordList : Nat → Reading (List Word)
  | 0 => return []
  | fuel + 1 => do
      match ← peek with
      | .word word =>
          let _ ← token
          return word :: (← wordList fuel)
      | _ => return []

/-- Reads the patterns in front of an arm. -/
def patterns : Nat → Reading (List Word)
  | 0 => return []
  | fuel + 1 => do
      match ← token with
      | .word first =>
          match ← token with
          | .symbol "|" => return first :: (← patterns fuel)
          | .symbol ")" => return [first]
          | _ => syntaxError "word unexpected (expecting \")\")"
      | .finish => syntaxError "end of file unexpected (expecting \")\")"
      | other => syntaxError (other.describe ++ " unexpected")

/-- The words that end a list of commands. -/
def closers : List String :=
  ["do", "done", "elif", "else", "esac", "fi", "then", "\x7d"]

/-- Whether a list of commands ends before a token. -/
def isClosing (token : Token) : Bool :=
  match token with
  | .finish => true
  | .symbol text => text = ")" || text = ";;"
  | _ => token.keyword?.any closers.contains

mutual

/-- Reads commands one after the other. Within a line the end of the line ends the list, else
the list goes on until something closes it. -/
def list : Nat → Bool → Reading (List Command)
  | 0, _ => fail "Script too long"
  | fuel + 1, withinLine => do
      if !withinLine then skipNewlines ((← get).rest.length + 1)
      let next ← peek
      if isClosing next && (!withinLine || next matches .finish) then return []
      let first ← connected fuel
      match ← peek with
      | .symbol ";" =>
          let _ ← token
          more fuel withinLine first
      | .symbol "&" =>
          let _ ← token
          more fuel withinLine (.background first)
      | .newline =>
          if withinLine then
            let _ ← token
            return [first]
          else more fuel withinLine first
      | next =>
          if withinLine && !(next matches .finish) then unexpected none
          else return [first]

/-- Reads what follows a command and its separator. -/
def more : Nat → Bool → Command → Reading (List Command)
  | 0, _, _ => fail "Script too long"
  | fuel + 1, withinLine, first => do
      if withinLine then
        match ← peek with
        | .newline =>
            let _ ← token
            return [first]
        | .finish => return [first]
        | _ => return first :: (← list fuel withinLine)
      else return first :: (← list fuel withinLine)

/-- Reads commands that are connected by conditions. -/
def connected : Nat → Reading Command
  | 0 => fail "Script too long"
  | fuel + 1 => do
      connections fuel (← piped fuel)

/-- Reads what is connected to a command. -/
def connections : Nat → Command → Reading Command
  | 0, _ => fail "Script too long"
  | fuel + 1, first => do
      match ← peek with
      | .symbol "&&" =>
          let _ ← token
          skipNewlines ((← get).rest.length + 1)
          connections fuel (.both first (← piped fuel))
      | .symbol "||" =>
          let _ ← token
          skipNewlines ((← get).rest.length + 1)
          connections fuel (.either first (← piped fuel))
      | _ => return first

/-- Reads commands whose output goes into one another, perhaps negated. -/
def piped : Nat → Reading Command
  | 0 => fail "Script too long"
  | fuel + 1 => do
      if (← peek).keyword? = some "!" then
        let _ ← token
        return .negated (← unnegated fuel)
      else unnegated fuel

/-- Reads commands whose output goes into one another, without a negation. -/
def unnegated : Nat → Reading Command
  | 0 => fail "Script too long"
  | fuel + 1 => do
      match ← stages fuel with
      | [single] => return single
      | several => return .pipeline several

def stages : Nat → Reading (List Command)
  | 0 => fail "Script too long"
  | fuel + 1 => do
      let first ← one fuel
      match ← peek with
      | .symbol "|" =>
          let _ ← token
          skipNewlines ((← get).rest.length + 1)
          return first :: (← stages fuel)
      | _ => return [first]

/-- Reads one command, with its redirections. -/
def one : Nat → Reading Command
  | 0 => fail "Script too long"
  | fuel + 1 => do
      let next ← peek
      match next.keyword?, next with
      | some "if", _ => compound fuel (conditional fuel)
      | some "while", _ => compound fuel (repeated fuel false)
      | some "until", _ => compound fuel (repeated fuel true)
      | some "for", _ => compound fuel (forEach fuel)
      | some "case", _ => compound fuel (selected fuel)
      | some "\x7b", _ => compound fuel (braces fuel)
      | some _, _ => unexpected none
      | none, .symbol "(" => compound fuel (parentheses fuel)
      | none, .word name =>
          let before ← get
          let _ ← token
          match ← peek with
          | .symbol "(" =>
              let _ ← token
              expectSymbol ")"
              skipNewlines ((← get).rest.length + 1)
              return .define (String.ofList (Word.literal name).1) (← one fuel)
          | _ =>
              set before
              simple
      | none, .arrow _ _ => simple
      | none, _ => unexpected none

/-- Reads a command that may have redirections behind it. -/
def compound : Nat → Reading Command → Reading Command
  | 0, _ => fail "Script too long"
  | fuel + 1, read => do
      let body ← read
      match ← redirections fuel with
      | [] => return body
      | found => return .redirected body found

/-- Reads the commands of a block, which may not be missing. -/
def block : Nat → String → Reading Command
  | 0, _ => fail "Script too long"
  | fuel + 1, closer => do
      match ← list fuel false with
      | [] => unexpected (if (← peek) matches .finish then some closer else none)
      | commands => return .sequence commands

/-- Reads what follows the condition of a choice. -/
def conditional : Nat → Reading Command
  | 0 => fail "Script too long"
  | fuel + 1 => do
      let _ ← token
      let condition ← block fuel "then"
      expectKeyword "then"
      let positive ← block fuel "fi"
      match (← peek).keyword? with
      | some "elif" => return .choice condition positive (← conditional fuel)
      | some "else" =>
          let _ ← token
          let negative ← block fuel "fi"
          expectKeyword "fi"
          return .choice condition positive negative
      | _ =>
          expectKeyword "fi"
          return .choice condition positive (.sequence [])

/-- Reads the body of a loop. -/
def loopBody : Nat → Reading Command
  | 0 => fail "Script too long"
  | fuel + 1 => do
      expectKeyword "do"
      let body ← block fuel "done"
      expectKeyword "done"
      return body

def repeated : Nat → Bool → Reading Command
  | 0, _ => fail "Script too long"
  | fuel + 1, untilTrue => do
      let _ ← token
      let condition ← block fuel "do"
      return .loop untilTrue condition (← loopBody fuel)

def forEach : Nat → Reading Command
  | 0 => fail "Script too long"
  | fuel + 1 => do
      let _ ← token
      let line := (← get).line
      let name ←
        match (← token).text? with
        | some name =>
            if isName name.toList then pure name else syntaxError "Bad for loop variable"
        | none => syntaxError "Bad for loop variable"
      skipNewlines fuel
      let words ←
        if (← peek).keyword? = some "in" then do
          let _ ← token
          pure (some (← wordList ((← get).rest.length + 1)))
        else pure none
      match ← peek with
      | .symbol ";" =>
          let _ ← token
      | _ => pure ()
      skipNewlines fuel
      return .each line name words (← loopBody fuel)

def selected : Nat → Reading Command
  | 0 => fail "Script too long"
  | fuel + 1 => do
      let _ ← token
      let line := (← get).line
      let subject ←
        match ← token with
        | .word subject => pure subject
        | other => syntaxError (other.describe ++ " unexpected (expecting word)")
      skipNewlines fuel
      expectKeyword "in"
      return .selection line subject (← arms fuel)

/-- Reads the arms of a selection. -/
def arms : Nat → Reading (List (List Word × Command))
  | 0 => fail "Script too long"
  | fuel + 1 => do
      skipNewlines fuel
      if (← peek).keyword? = some "esac" then
        let _ ← token
        return []
      match ← peek with
      | .symbol "(" =>
          let _ ← token
      | _ => pure ()
      let found ← patterns fuel
      let body ← list fuel false
      match ← peek with
      | .symbol ";;" =>
          let _ ← token
          return (found, .sequence body) :: (← arms fuel)
      | _ =>
          expectKeyword "esac"
          return [(found, .sequence body)]

def braces : Nat → Reading Command
  | 0 => fail "Script too long"
  | fuel + 1 => do
      let _ ← token
      let body ← block fuel "\x7d"
      expectKeyword "\x7d"
      return body

def parentheses : Nat → Reading Command
  | 0 => fail "Script too long"
  | fuel + 1 => do
      let _ ← token
      let body ← block fuel ")"
      expectSymbol ")"
      return .apart body

end

/-- Reads the commands of the next line that has any. -/
def nextLine : Reading (Option Command) := do
  skipNewlines ((← get).rest.length + 1)
  match ← peek with
  | .finish => return none
  | _ => return some (.sequence (← list (16 * (← get).rest.length + 64) true))

end Reading

end GoldenSuite.Shell

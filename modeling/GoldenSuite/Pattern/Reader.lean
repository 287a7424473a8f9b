import GoldenSuite.Pattern.Basic

/-! Reading patterns from their text. The text is read from left to right, and the first fault
met is the one that is reported, with the part of the text that shows it. -/

namespace GoldenSuite.Pattern

/-- What can be wrong with the text of a pattern. -/
inductive Problem where
  | missingParen
  | unexpectedParen
  | missingBracket
  | missingRepeatArgument
  | nestedRepeat
  | repeatCount
  | groupName
  | trailingBackslash
  | charRange
  | groupFlags
  | badEscape
deriving DecidableEq

def Problem.text : Problem → String
  | .missingParen => "missing closing )"
  | .unexpectedParen => "unexpected )"
  | .missingBracket => "missing closing ]"
  | .missingRepeatArgument => "missing argument to repetition operator"
  | .nestedRepeat => "invalid nested repetition operator"
  | .repeatCount => "invalid repeat count"
  | .groupName => "invalid named capture"
  | .trailingBackslash => "trailing backslash at end of expression"
  | .charRange => "invalid character class range"
  | .groupFlags => "invalid or unsupported Perl syntax"
  | .badEscape => "invalid escape sequence"

/-- A problem and the part of the text that shows it. -/
structure ReadError where
  problem : Problem
  part : List Char
deriving DecidableEq

def ReadError.message (e : ReadError) : String :=
  "error parsing regexp: " ++ e.problem.text ++ ": \x60" ++ String.ofList e.part ++ "\x60"

/-- The part of a text before one of its ends. -/
def upTo (text rest : List Char) : List Char :=
  text.take (text.length - rest.length)

/-- The settings that a pattern can change on its way. -/
structure Flags where
  /-- Case does not matter. -/
  fold : Bool := false
  /-- The anchors stop at every line. -/
  lines : Bool := false
  /-- The dot takes newlines, too. -/
  dotAll : Bool := false
  /-- Repetitions take as little as they can. -/
  lazy : Bool := false

-------------------------------------------------------------------------------
-- Escapes
-------------------------------------------------------------------------------

def isOctal (c : Char) : Bool := '0' ≤ c && c ≤ '7'

def isDigit (c : Char) : Bool := '0' ≤ c && c ≤ '9'

def isAsciiAlnum (c : Char) : Bool :=
  isDigit c || ('a' ≤ c && c ≤ 'z') || ('A' ≤ c && c ≤ 'Z')

/-- The value of a hexadecimal digit. -/
def hexDigit? (c : Char) : Option Nat :=
  if isDigit c then some (c.toNat - 48)
  else if 'a' ≤ c ∧ c ≤ 'f' then some (c.toNat - 87)
  else if 'A' ≤ c ∧ c ≤ 'F' then some (c.toNat - 55)
  else none

/-- Reads hexadecimal digits up to a closing brace: the value if there is one, and what follows
the last character looked at. -/
def bracedHex : Nat → Nat → List Char → Option Nat × List Char
  | _, _, [] => (none, [])
  | value, count, c :: rest =>
      if c = '\x7d' then (if count = 0 then none else some value, rest)
      else
        match hexDigit? c with
        | none => (none, rest)
        | some digit =>
            let next := value * 16 + digit
            if 0x10FFFF < next then (none, rest) else bracedHex next (count + 1) rest

/-- Reads up to `n` octal digits on top of a value. -/
def octal : Nat → Nat → List Char → Nat × List Char
  | 0, value, text => (value, text)
  | _ + 1, value, [] => (value, [])
  | n + 1, value, c :: rest =>
      if isOctal c then octal n (value * 8 + (c.toNat - 48)) rest else (value, c :: rest)

/-- The character that an escape stands for, given what follows its backslash; and what follows
the escape. -/
def escapedChar (text : List Char) : Except ReadError (Nat × List Char) :=
  let whole := '\\' :: text
  let refuse (rest : List Char) : Except ReadError (Nat × List Char) :=
    .error ⟨.badEscape, upTo whole rest⟩
  match text with
  | [] => .error ⟨.trailingBackslash, []⟩
  | 'a' :: rest => .ok (7, rest)
  | 'f' :: rest => .ok (12, rest)
  | 'n' :: rest => .ok (10, rest)
  | 'r' :: rest => .ok (13, rest)
  | 't' :: rest => .ok (9, rest)
  | 'v' :: rest => .ok (11, rest)
  | '0' :: rest => .ok (octal 2 0 rest)
  | 'x' :: rest =>
      match rest with
      | [] => refuse rest
      | '\x7b' :: inner =>
          match bracedHex 0 0 inner with
          | (some value, after) => .ok (value, after)
          | (none, after) => refuse after
      | first :: more =>
          match hexDigit? first, more with
          | some high, second :: after =>
              match hexDigit? second with
              | some low => .ok (high * 16 + low, after)
              | none => refuse after
          | none, _ :: after => refuse after
          | _, [] => refuse []
  | c :: rest =>
      if '1' ≤ c ∧ c ≤ '7' then
        match rest with
        | next :: _ =>
            if isOctal next then .ok (octal 2 (c.toNat - 48) rest) else refuse rest
        | [] => refuse rest
      else if c.toNat < 128 && !isAsciiAlnum c then .ok (c.toNat, rest)
      else refuse rest

/-- Reads a set named by a property, given what follows the backslash and the letter `p` or
`P`. -/
def propertySet (fold complement : Bool) (letter : Char) (text : List Char)
    : Except ReadError (CharGroup × List Char) :=
  let whole := '\\' :: letter :: text
  let resolve (name rest : List Char) : Except ReadError (CharGroup × List Char) :=
    let (negated, name) :=
      match name with
      | '^' :: inner => (!complement, inner)
      | _ => (complement, name)
    match property? (String.ofList name) with
    | some tables => .ok (⟨tables, negated, fold⟩, rest)
    | none => .error ⟨.charRange, upTo whole rest⟩
  match text with
  | [] => resolve [] []
  | '\x7b' :: inner =>
      let name := inner.takeWhile (· ≠ '\x7d')
      match inner.dropWhile (· ≠ '\x7d') with
      | [] => .error ⟨.charRange, whole⟩
      | _ :: rest => resolve name rest
  | c :: rest => resolve [c] rest

-------------------------------------------------------------------------------
-- Bracketed sets
-------------------------------------------------------------------------------

/-- One character of a bracketed set. -/
def setChar (whole : List Char) : List Char → Except ReadError (Nat × List Char)
  | [] => .error ⟨.missingBracket, whole⟩
  | '\\' :: rest => escapedChar rest
  | c :: rest => .ok (c.toNat, rest)

/-- Splits a text at the first `:]`. -/
def atColonBracket : List Char → Option (List Char × List Char)
  | [] => none
  | ':' :: ']' :: rest => some ([], rest)
  | c :: rest => (atColonBracket rest).map fun (name, after) => (c :: name, after)

/-- One item of a bracketed set: a named set, a character or a stretch of characters. -/
def setItem (fold : Bool) (whole text : List Char)
    : Except ReadError (CharGroup × List Char) :=
  let plain : Except ReadError (CharGroup × List Char) := do
    let (lo, rest) ← setChar whole text
    match rest with
    | '-' :: next :: more =>
        if next = ']' then return (.single fold lo, rest)
        let (hi, after) ← setChar whole (next :: more)
        if hi < lo then throw ⟨.charRange, upTo text after⟩
        return (.range fold lo hi, after)
    | _ => return (.single fold lo, rest)
  match text with
  | '[' :: ':' :: more =>
      match more, atColonBracket more with
      | _ :: _, some (name, after) =>
          match bracketClass? fold name with
          | some group => .ok (group, after)
          | none => .error ⟨.charRange, upTo text after⟩
      | _, _ => plain
  | '\\' :: 'p' :: rest => propertySet fold false 'p' rest
  | '\\' :: 'P' :: rest => propertySet fold true 'P' rest
  | '\\' :: c :: rest =>
      match escapeClass? fold c with
      | some group => .ok (group, rest)
      | none => plain
  | _ => plain

/-- The items of a bracketed set up to its closing bracket, which is an item itself where the
first one is expected. `fuel` bounds the number of items. -/
def setItems (fold : Bool) (whole : List Char)
    : Nat → Bool → List CharGroup → List Char → Except ReadError (List CharGroup × List Char)
  | 0, _, _, _ => .error ⟨.missingBracket, whole⟩
  | fuel + 1, isFirst, groups, text => do
      match isFirst, text with
      | false, ']' :: rest => return (groups.reverse, rest)
      | _, _ =>
          let (group, rest) ← setItem fold whole text
          setItems fold whole fuel false (group :: groups) rest

/-- Reads a bracketed set, given what follows the opening bracket. -/
def bracketed (fold : Bool) (text : List Char) : Except ReadError (CharSet × List Char) := do
  let whole := '[' :: text
  let (negated, inner) :=
    match text with
    | '^' :: rest => (true, rest)
    | _ => (false, text)
  let (groups, rest) ← setItems fold whole (inner.length + 1) true [] inner
  return (⟨groups, negated⟩, rest)

-------------------------------------------------------------------------------
-- Repetition counts
-------------------------------------------------------------------------------

/-- The largest count of a repetition. -/
def countLimit : Nat := 1000

/-- A decimal number without leading zeros. -/
def count? (text : List Char) : Option (Nat × List Char) :=
  let digits := text.takeWhile isDigit
  match digits with
  | [] => none
  | '0' :: _ :: _ => none
  | _ =>
      some (digits.foldl (fun n c => n * 10 + (c.toNat - 48)) 0, text.dropWhile isDigit)

/-- The bounds in braces: the least and the greatest count, and what follows; given what follows
the opening brace. -/
def bounds? (text : List Char) : Option (Nat × Option Nat × List Char) := do
  let (least, rest) ← count? text
  match rest with
  | '\x7d' :: after => return (least, some least, after)
  | ',' :: '\x7d' :: after => return (least, none, after)
  | ',' :: more =>
      let (most, rest) ← count? more
      match rest with
      | '\x7d' :: after => return (least, some most, after)
      | _ => none
  | _ => none

/-- Whether counts inside counts stay within a limit, multiplied along the way. -/
def countsWithin : Pattern → Nat → Bool
  | .empty, _ => true
  | .char _, _ => true
  | .anchor _, _ => true
  | .seq first second, limit => first.countsWithin limit && second.countsWithin limit
  | .alt first second, limit => first.countsWithin limit && second.countsWithin limit
  | .times body least most, limit =>
      match least, most with
      | 0, none => body.countsWithin limit
      | 1, none => body.countsWithin limit
      | 0, some 1 => body.countsWithin limit
      | _, some 0 => true
      | _, _ =>
          let greatest := most.getD least
          greatest ≤ limit && body.countsWithin (limit / greatest)

-------------------------------------------------------------------------------
-- Groups
-------------------------------------------------------------------------------

/-- A group that is still open: the settings to go back to, and what was read around it. -/
structure OpenGroup where
  flags : Flags
  alternatives : List Pattern
  atoms : List Pattern

/-- How far a pattern has been read. -/
structure Progress where
  flags : Flags := {}
  /-- The alternatives before the current one, the last first. -/
  alternatives : List Pattern := []
  /-- What the current alternative consists of so far, the last first. -/
  atoms : List Pattern := []
  groups : List OpenGroup := []
  /-- The text from the repetition operator on that was read right before. -/
  lastRepeat : Option (List Char) := none

namespace Progress

def push (p : Progress) (atom : Pattern) : Progress :=
  { p with atoms := atom :: p.atoms, lastRepeat := none }

def pushCode (p : Progress) (code : Nat) : Progress :=
  p.push (.char (.ofGroup (.single p.flags.fold code)))

/-- The current alternative as one pattern. -/
def current (p : Progress) : Pattern :=
  p.atoms.foldl (fun later atom => .seq atom later) .empty

/-- All alternatives as one pattern. -/
def whole (p : Progress) : Pattern :=
  p.alternatives.foldl (fun later earlier => .alt earlier later) p.current

def nextAlternative (p : Progress) : Progress :=
  { p with alternatives := p.current :: p.alternatives, atoms := [], lastRepeat := none }

def openGroup (p : Progress) (flags : Flags) : Progress :=
  { flags, groups := ⟨p.flags, p.alternatives, p.atoms⟩ :: p.groups }

/-- Closes the innermost group, if there is one. -/
def closeGroup? (p : Progress) : Option Progress :=
  match p.groups with
  | [] => none
  | group :: rest =>
      some
        { flags := group.flags
          alternatives := group.alternatives
          atoms := p.whole :: group.atoms
          groups := rest }

/-- Applies a repetition to the last atom. `text` starts with the operator, `rest` follows it. A
question mark after it makes it lazy. -/
def repeated (p : Progress) (least : Nat) (most : Option Nat) (counted : Bool)
    (text rest : List Char)
    : Except ReadError (Progress × List Char) :=
  let after :=
    match rest with
    | '?' :: more => more
    | _ => rest
  match p.lastRepeat, p.atoms with
  | some earlier, _ => .error ⟨.nestedRepeat, upTo earlier after⟩
  | none, [] => .error ⟨.missingRepeatArgument, upTo text after⟩
  | none, atom :: others =>
      let result := Pattern.times atom least most
      if counted && (2 ≤ least || most.any (2 ≤ ·)) && !result.countsWithin countLimit then
        .error ⟨.repeatCount, upTo text after⟩
      else .ok ({ p with atoms := result :: others, lastRepeat := some text }, after)

end Progress

/-- Whether a text names a group: letters, digits and underscores of ASCII. -/
def isGroupName (name : List Char) : Bool :=
  !name.isEmpty && name.all fun c => c = '_' || isAsciiAlnum c

/-- The settings after a question mark at the start of a group, up to the colon or parenthesis
that ends them: the settings, whether a group follows, and the rest. `whole` starts with the
parenthesis. -/
def groupFlags (whole : List Char) (flags : Flags) (on saw : Bool)
    : List Char → Except ReadError (Flags × Bool × List Char)
  | [] => .error ⟨.groupFlags, whole⟩
  | c :: rest =>
      let refuse : Except ReadError (Flags × Bool × List Char) :=
        .error ⟨.groupFlags, upTo whole rest⟩
      match c with
      | 'i' => groupFlags whole { flags with fold := on } on true rest
      | 'm' => groupFlags whole { flags with lines := on } on true rest
      | 's' => groupFlags whole { flags with dotAll := on } on true rest
      | 'U' => groupFlags whole { flags with lazy := on } on true rest
      | '-' => if on then groupFlags whole flags false false rest else refuse
      | ':' => if on || saw then .ok (flags, true, rest) else refuse
      | ')' => if on || saw then .ok (flags, false, rest) else refuse
      | _ => refuse

/-- Reads the start of a group with a question mark. `text` starts with the parenthesis. -/
def specialGroup (p : Progress) (text : List Char)
    : Except ReadError (Progress × List Char) :=
  let named (skip : Nat) : Except ReadError (Progress × List Char) :=
    match text.dropWhile (· ≠ '>') with
    | [] => .error ⟨.groupName, text⟩
    | _ :: rest =>
        if isGroupName ((text.drop skip).takeWhile (· ≠ '>')) then
          .ok (p.openGroup p.flags, rest)
        else .error ⟨.groupName, upTo text rest⟩
  let plain : Except ReadError (Progress × List Char) := do
    let (flags, opens, rest) ← groupFlags text p.flags true false (text.drop 2)
    if opens then return (p.openGroup flags, rest)
    else return ({ p with flags, lastRepeat := none }, rest)
  match text with
  | _ :: _ :: 'P' :: '<' :: _ :: _ => named 4
  | _ :: _ :: '<' :: _ :: _ => named 3
  | _ => plain

-------------------------------------------------------------------------------
-- The whole text
-------------------------------------------------------------------------------

/-- The characters up to `\E`, which are all meant as they are, and what follows it. -/
def verbatim : List Char → List Char × List Char
  | [] => ([], [])
  | '\\' :: 'E' :: rest => ([], rest)
  | c :: rest =>
      let (taken, after) := verbatim rest
      (c :: taken, after)

/-- Reads an escape outside brackets, given what follows the backslash. -/
def readEscape (p : Progress) (text : List Char) : Except ReadError (Progress × List Char) := do
  match text with
  | 'A' :: rest => return (p.push (.anchor .textStart), rest)
  | 'b' :: rest => return (p.push (.anchor .wordEdge), rest)
  | 'B' :: rest => return (p.push (.anchor .noWordEdge), rest)
  | 'z' :: rest => return (p.push (.anchor .textEnd), rest)
  | 'C' :: _ => throw ⟨.badEscape, ['\\', 'C']⟩
  | 'Q' :: rest =>
      let (taken, after) := verbatim rest
      return ({ taken.foldl (fun p c => p.pushCode c.toNat) p with lastRepeat := none }, after)
  | 'p' :: rest =>
      let (group, after) ← propertySet p.flags.fold false 'p' rest
      return (p.push (.char (.ofGroup group)), after)
  | 'P' :: rest =>
      let (group, after) ← propertySet p.flags.fold true 'P' rest
      return (p.push (.char (.ofGroup group)), after)
  | _ =>
      match text with
      | c :: rest =>
          match escapeClass? p.flags.fold c with
          | some group => return (p.push (.char (.ofGroup group)), rest)
          | none =>
              let (code, after) ← escapedChar text
              return (p.pushCode code, after)
      | [] =>
          let (code, after) ← escapedChar text
          return (p.pushCode code, after)

/-- Reads one element. `source` is the text of the whole pattern; `text` starts with `c`. -/
def readElement (source : List Char) (p : Progress) (c : Char) (rest : List Char)
    : Except ReadError (Progress × List Char) := do
  let text := c :: rest
  match c with
  | '(' =>
      match rest with
      | '?' :: _ => specialGroup p text
      | _ => return (p.openGroup p.flags, rest)
  | '|' => return (p.nextAlternative, rest)
  | ')' =>
      match p.closeGroup? with
      | some closed => return (closed, rest)
      | none => throw ⟨.unexpectedParen, source⟩
  | '^' => return (p.push (.anchor (if p.flags.lines then .lineStart else .textStart)), rest)
  | '$' => return (p.push (.anchor (if p.flags.lines then .lineEnd else .textEnd)), rest)
  | '.' => return (p.push (.char (if p.flags.dotAll then .any else .anyButNewline)), rest)
  | '[' =>
      let (set, after) ← bracketed p.flags.fold rest
      return (p.push (.char set), after)
  | '*' => p.repeated 0 none false text rest
  | '+' => p.repeated 1 none false text rest
  | '?' => p.repeated 0 (some 1) false text rest
  | '\x7b' =>
      match bounds? rest with
      | none => return (p.pushCode c.toNat, rest)
      | some (least, most, after) =>
          if countLimit < least || most.any (fun n => countLimit < n || n < least) then
            throw ⟨.repeatCount, upTo text after⟩
          p.repeated least most true text after
  | '\\' => readEscape p rest
  | _ => return (p.pushCode c.toNat, rest)

/-- Reads element after element; `fuel` bounds their number. -/
def readElements (source : List Char) : Nat → Progress → List Char → Except ReadError Pattern
  | _, p, [] =>
      if p.groups.isEmpty then .ok p.whole else .error ⟨.missingParen, source⟩
  | 0, _, _ :: _ => .error ⟨.missingParen, source⟩
  | fuel + 1, p, c :: rest => do
      let (next, after) ← readElement source p c rest
      readElements source fuel next after

/-- Reads a pattern. -/
def read (text : String) : Except ReadError Pattern :=
  readElements text.toList text.toList.length {} text.toList

end GoldenSuite.Pattern

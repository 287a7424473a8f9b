import GoldenSuite.Yaml.Cursor

/-! What stands beside the content of a document: anchors and aliases, tags, and directives. -/

namespace GoldenSuite.Yaml.Property

open Cursor Reading

/-- The characters that may follow the name of an anchor, apart from gaps. -/
def isAfterName (c : Char) : Bool :=
  c = '?' || c = ':' || c = ',' || c = ']' || c = '\x7d' || c = '%' || c = '@' || c = '\x60'

/-- Reads the name of an anchor or an alias, its sign included. -/
def name : Reading String := do
  let context := (← get).line
  pass
  let word ← takeWhile isWord
  let after ← next?
  if word.isEmpty || !(isGap after || after.any isAfterName) then fail .badName context
  else return String.ofList word

-------------------------------------------------------------------------------
-- Tags
-------------------------------------------------------------------------------

/-- The characters of tags. -/
def isUriChar (c : Char) : Bool :=
  isWord c || ";/?:@&=+$,.!~*'()[]%".toList.contains c

/-- Reads one escaped octet. -/
def uriOctet (context : Nat) : Reading UInt8 := do
  need 3
  let cursor ← get
  match cursor.rest with
  | '%' :: a :: b :: _ =>
      if isHex a && isHex b then
        passMany 3
        return UInt8.ofNat (hexValue a * 16 + hexValue b)
      else fail .noUriOctet context
  | _ => fail .noUriOctet context

/-- Reads the octets that follow the first one of an escaped character. -/
def uriTail (context : Nat) : Nat → Reading Bytes
  | 0 => return []
  | count + 1 => do
      let before ← get
      let octet ← uriOctet context
      if Bytes.isTail octet then return octet :: (← uriTail context count)
      else
        set before
        fail .badUriTail context

/-- Reads an escaped character. -/
def uriEscape (context : Nat) : Reading Bytes := do
  let before ← get
  let first ← uriOctet context
  match Source.utf8Width? first with
  | none =>
      set before
      fail .badUriLead context
  | some width => return first :: (← uriTail context (width - 1))

def uriChars (context : Nat) : Nat → Bytes → Reading Bytes
  | 0, _ => throw .tooLong
  | budget + 1, sofar => do
      match ← next? with
      | some c =>
          if c = '%' then
            let octets ← uriEscape context
            uriChars context budget (sofar ++ octets)
          else if isUriChar c then
            pass
            uriChars context budget (sofar ++ Bytes.ofString (String.singleton c))
          else return sofar
      | none => return sofar

/-- Reads a tag after what has been read of it; `required` if nothing has been. -/
def uri (required : Bool) (head : List Char) (context : Nat) : Reading String := do
  let octets ← uriChars context (← budget) []
  if required && octets.isEmpty then fail .noUri context
  else return String.ofList head ++ Bytes.toStringLossy octets

/-- Reads the handle of a tag: an exclamation mark, or a word between two of them. A word without
the second one comes back as it is. -/
def handle (directive : Bool) (context : Nat) : Reading (List Char) := do
  match ← next? with
  | some '!' =>
      pass
      let word ← takeWhile isWord
      if (← next?) = some '!' then
        pass
        return '!' :: word ++ ['!']
      else if directive && !word.isEmpty then fail .noHandleMark context
      else return '!' :: word
  | _ => fail .noHandleMark context

/-- Reads a tag: its handle and the rest of it. -/
def tag : Reading Token.Kind := do
  let context := (← get).line
  need 2
  let kind ←
    if (← get).hasAhead 1 '<' then do
      passMany 2
      let suffix ← uri true [] context
      if (← next?) = some '>' then
        pass
        pure (Token.Kind.tag "" suffix)
      else fail .noClosingAngle context
    else do
      let head ← handle false context
      if 1 < head.length && head.getLast? = some '!' then
        pure (Token.Kind.tag (String.ofList head) (← uri true [] context))
      else
        let suffix ← uri false head.tail context
        pure (if suffix = "" then .tag "" "!" else .tag "!" suffix)
  if isGap (← next?) then return kind else fail .noBlankOrBreak context

-------------------------------------------------------------------------------
-- Directives
-------------------------------------------------------------------------------

/-- The most digits of a version number. -/
def versionDigits : Nat := 2

/-- Reads one of the two numbers of a version. -/
def versionNumber (context : Nat) : Reading Nat := do
  let digits := (← get).rest.takeWhile Char.isDigit
  if versionDigits < digits.length then
    passMany versionDigits
    fail .longVersion context
  else
    passMany digits.length
    need 1
    if digits.isEmpty then fail .noVersion context
    else return digits.foldl (fun value c => value * 10 + (c.toNat - 48)) 0

def version (context : Nat) : Reading Token.Kind := do
  blanks
  let major ← versionNumber context
  if (← next?) = some '.' then
    pass
    return .version major (← versionNumber context)
  else fail .noVersionDot context

def shorthand (context : Nat) : Reading Token.Kind := do
  blanks
  let short ← handle true context
  if !(← next?).any isBlank then fail .noBlank context
  blanks
  let start ← uri true [] context
  if isGap (← next?) then return .shorthand (String.ofList short) start
  else fail .noBlankOrBreak context

/-- Reads a directive and the rest of its line. -/
def directive : Reading Token.Kind := do
  let context := (← get).line
  pass
  let word ← takeWhile isWord
  if word.isEmpty then fail .noDirectiveName context
  if !isGap (← next?) then fail .badDirectiveName context
  let kind ←
    match String.ofList word with
    | "YAML" => version context
    | "TAG" => shorthand context
    | _ => fail .unknownDirective context
  blanks
  if (← next?) = some '#' then restOfLine
  match ← next? with
  | some c =>
      if isBreak c then
        let _ ← lineBreak
        return kind
      else fail .noCommentOrBreak context
  | none => return kind

end GoldenSuite.Yaml.Property

import GoldenSuite.Yaml.Source

/-! Tokens of YAML, and what can go wrong on the way from characters to a document. -/

namespace GoldenSuite.Yaml

/-- What a token is. -/
inductive Token.Kind where
  | streamStart
  | streamEnd
  | version (major minor : Nat)
  | shorthand (handle start : String)
  | documentStart
  | documentEnd
  | blockSequenceStart
  | blockMappingStart
  | blockEnd
  | flowSequenceStart
  | flowSequenceEnd
  | flowMappingStart
  | flowMappingEnd
  | blockEntry
  | flowEntry
  | key
  | value
  | alias (name : String)
  | anchor (name : String)
  | tag (handle suffix : String)
  /-- A scalar; `plain` if it is neither quoted nor a block. -/
  | scalar (text : String) (plain : Bool)
deriving DecidableEq, Inhabited

/-- A token and the line where it starts, from zero. -/
structure Token where
  kind : Token.Kind
  line : Nat
deriving DecidableEq, Inhabited

/-- What can be wrong with the characters of a stream. -/
inductive Malformed where
  | noToken
  | keyWithoutValue
  | entryNotAllowed
  | keyNotAllowed
  | valueNotAllowed
  | tooDeep
  | noDirectiveName
  | badDirectiveName
  | unknownDirective
  | noVersion
  | longVersion
  | noVersionDot
  | noHandleMark
  | noBlank
  | noBlankOrBreak
  | noUri
  | noUriOctet
  | badUriLead
  | badUriTail
  | noClosingAngle
  | badName
  | zeroIndent
  | noCommentOrBreak
  | tabInIndent
  | tabInText
  | documentInQuotes
  | endInQuotes
  | unknownEscape
  | noHexDigit
  | badEscapeCode
deriving DecidableEq, Inhabited

def Malformed.message : Malformed → String
  | .noToken => "found character that cannot start any token"
  | .keyWithoutValue => "could not find expected ':'"
  | .entryNotAllowed => "block sequence entries are not allowed in this context"
  | .keyNotAllowed => "mapping keys are not allowed in this context"
  | .valueNotAllowed => "mapping values are not allowed in this context"
  | .tooDeep => "exceeded max depth of 10000"
  | .noDirectiveName => "could not find expected directive name"
  | .badDirectiveName => "found unexpected non-alphabetical character"
  | .unknownDirective => "found unknown directive name"
  | .noVersion => "did not find expected version number"
  | .longVersion => "found extremely long version number"
  | .noVersionDot => "did not find expected digit or '.' character"
  | .noHandleMark => "did not find expected '!'"
  | .noBlank => "did not find expected whitespace"
  | .noBlankOrBreak => "did not find expected whitespace or line break"
  | .noUri => "did not find expected tag URI"
  | .noUriOctet => "did not find URI escaped octet"
  | .badUriLead => "found an incorrect leading UTF-8 octet"
  | .badUriTail => "found an incorrect trailing UTF-8 octet"
  | .noClosingAngle => "did not find the expected '>'"
  | .badName => "did not find expected alphabetic or numeric character"
  | .zeroIndent => "found an indentation indicator equal to 0"
  | .noCommentOrBreak => "did not find expected comment or line break"
  | .tabInIndent => "found a tab character where an indentation space is expected"
  | .tabInText => "found a tab character that violates indentation"
  | .documentInQuotes => "found unexpected document indicator"
  | .endInQuotes => "found unexpected end of stream"
  | .unknownEscape => "found unknown escape character"
  | .noHexDigit => "did not find expected hexdecimal number"
  | .badEscapeCode => "found invalid Unicode character escape code"

/-- What can be wrong with the order of tokens. -/
inductive Misplaced where
  | noDocumentStart
  | noContent
  | noEntry
  | noKey
  | noCommaOrBracket
  | noCommaOrBrace
  | repeatedVersion
  | otherVersion
  | repeatedHandle
  | unknownHandle
deriving DecidableEq, Inhabited

def Misplaced.message : Misplaced → String
  | .noDocumentStart => "did not find expected <document start>"
  | .noContent => "did not find expected node content"
  | .noEntry => "did not find expected '-' indicator"
  | .noKey => "did not find expected key"
  | .noCommaOrBracket => "did not find expected ',' or ']'"
  | .noCommaOrBrace => "did not find expected ',' or '\x7d'"
  | .repeatedVersion => "found duplicate %YAML directive"
  | .otherVersion => "found incompatible YAML document"
  | .repeatedHandle => "found duplicate %TAG directive"
  | .unknownHandle => "found undefined tag handle"

/-- Why a stream cannot be read. Lines count from zero: `context` is where the faulty thing
begins, `line` where the fault shows. -/
inductive Problem where
  | undecodable (cause : Undecodable)
  | malformed (cause : Malformed) (context line : Nat)
  | misplaced (cause : Misplaced) (context line : Nat)
  | unknownAnchor (name : String)
  /-- The bound on the number of steps, which no stream reaches. -/
  | tooLong
deriving Inhabited

namespace Problem

/-- The line that a message names. The first line is never named. -/
def place (line : Nat) : String :=
  if line = 0 then "" else "line " ++ toString line ++ ": "

/-- The first of two lines that is not the first line of the stream. -/
def shownLine (context line : Nat) : Nat :=
  if context = 0 then line else context

def message : Problem → String
  | .undecodable cause => cause.message
  | .malformed cause context line =>
      let shown := shownLine context line
      place (if shown = 0 then 0 else shown + 1) ++ cause.message
  | .misplaced cause context line => place (shownLine context line) ++ cause.message
  | .unknownAnchor name => "unknown anchor '" ++ name ++ "' referenced"
  | .tooLong => "unknown problem parsing YAML content"

end Problem

end GoldenSuite.Yaml

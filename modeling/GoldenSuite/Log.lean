import GoldenSuite.Duration
import GoldenSuite.Fault
import GoldenSuite.Level
import GoldenSuite.Text.Quoted

/-! Diagnostic log lines for people: a level, a time, a message, and attributes in columns. -/

namespace GoldenSuite.Log

/-- What an attribute can hold. -/
inductive Value where
  | text (body : String)
  | int (n : Int)
  | bool (b : Bool)
  | nothing
  | duration (d : Duration)

structure Attr where
  key : String
  value : Value

structure Record where
  level : Level
  message : String
  attrs : List Attr

/-- The names of levels, all five letters wide. -/
def levelText (level : Level) : String :=
  if level = .trace then "TRACE"
  else if level = .debug then "DEBUG"
  else if level = .info then "INFO "
  else if level = .warn then "WARN "
  else if level = .error then "ERROR"
  else if level = .crit then "CRIT "
  else "unknown level"

/-- The colours of levels; the levels between the named ones have none. -/
def levelColor? (level : Level) : Option String :=
  if level = .trace then some "\x1b[34m"
  else if level = .debug then some "\x1b[36m"
  else if level = .info then some "\x1b[32m"
  else if level = .warn then some "\x1b[33m"
  else if level = .error then some "\x1b[31m"
  else if level = .crit then some "\x1b[35m"
  else none

def colorEnd : String := "\x1b[0m"

-------------------------------------------------------------------------------
-- Fields
-------------------------------------------------------------------------------

/-- A key or a value: in quotes with escapes if it holds anything but plain characters, in bare
quotes if it holds blanks or equal signs. -/
def fieldText (text : String) : String :=
  let chars := text.toList
  if chars.any (fun c => c ≠ ' ' && (c ≤ '"' || '~' < c)) then Text.Quoted.ofString text
  else if chars.any (fun c => c = ' ' || c = '=') then "\"" ++ text ++ "\""
  else text

/-- A message: in quotes if it holds control characters other than line ends and tabs, characters
beyond ASCII, or equal signs. -/
def messageText (text : String) : String :=
  let isOdd (c : Char) : Bool :=
    c ≠ '\r' && c ≠ '\n' && c ≠ '\t' && (c < ' ' || '~' < c || c = '=')
  if text.toList.any isOdd then Text.Quoted.ofString text else text

/-- Puts a comma before every third digit from the right. -/
def withCommas (digits : List Char) : List Char :=
  match digits with
  | a :: b :: c :: d :: rest => a :: b :: c :: ',' :: withCommas (d :: rest)
  | _ => digits

/-- A number, from a hundred thousand on with commas. -/
def intText (n : Int) : String :=
  let digits := Nat.toDigits 10 n.natAbs
  let body := if n.natAbs < 100000 then digits else (withCommas digits.reverse).reverse
  String.ofList (if n < 0 then '-' :: body else body)

def Value.render : Value → String
  | .text body => fieldText body
  | .int n => intText n
  | .bool b => if b then "true" else "false"
  | .nothing => "<nil>"
  | .duration d => fieldText d.toText

-------------------------------------------------------------------------------
-- Loggers
-------------------------------------------------------------------------------

/-- The width that a message is padded to. -/
def messageWidth : Nat := 40

/-- The widest value that widens its column. -/
def columnLimit : Nat := 40

/-- A logger: a threshold, attributes that every line starts with, and the widths that its
columns have grown to. -/
structure Logger where
  threshold : Level
  colors : Bool
  /-- What stands for the time of a line. -/
  clock : String
  attrs : List Attr := []
  widths : List (String × Nat) := []

namespace Logger

/-- A logger with one more attribute. Its columns start anew. -/
def extend (logger : Logger) (key : String) (value : Value) : Logger :=
  { logger with attrs := logger.attrs ++ [⟨key, value⟩], widths := [] }

def spaces (n : Nat) : String :=
  String.ofList (List.replicate n ' ')

/-- One attribute, padded to its column unless it is the last; and the widths after it. -/
def attrText (color? : Option String) (widths : List (String × Nat)) (attr : Attr)
    (isLast : Bool)
    : String × List (String × Nat) :=
  let key := fieldText attr.key
  let shownKey :=
    match color? with
    | some color => color ++ key ++ colorEnd
    | none => key
  let value := attr.value.render
  let width := (widths.lookup attr.key).getD 0
  let grows := width < value.length && value.length ≤ columnLimit
  let column := if grows then value.length else width
  let pad := if isLast then "" else spaces (column - value.length)
  let widths := if grows then (attr.key, column) :: widths else widths
  (" " ++ shownKey ++ "=" ++ value ++ pad, widths)

def attrsText (color? : Option String)
    : List (String × Nat) → List Attr → String × List (String × Nat)
  | widths, [] => ("", widths)
  | widths, attr :: rest =>
      let (text, widths) := attrText color? widths attr rest.isEmpty
      let (more, widths) := attrsText color? widths rest
      (text ++ more, widths)

/-- The line of a record, and the logger after it. A record below the threshold leaves no
line. -/
def write (logger : Logger) (record : Record) : String × Logger :=
  if !logger.threshold.admits record.level then ("", logger)
  else
    let color? := if logger.colors then levelColor? record.level else none
    let level :=
      match color? with
      | some color => color ++ levelText record.level ++ colorEnd
      | none => levelText record.level
    let message := messageText record.message
    let attrs := logger.attrs ++ record.attrs
    let pad := if attrs.isEmpty then "" else spaces (messageWidth - message.utf8ByteSize)
    let (fields, widths) := attrsText color? logger.widths attrs
    (level ++ "[" ++ logger.clock ++ "] " ++ message ++ pad ++ fields ++ "\n",
      { logger with widths })

/-- The lines of records one after the other. -/
def writeAll : Logger → List Record → List String
  | _, [] => []
  | logger, record :: rest =>
      let (line, next) := logger.write record
      line :: writeAll next rest

end Logger

/-- A logger whose threshold is given by name. -/
def create (level : String) (colors : Bool) (clock : String) : Except Fault Logger :=
  match Level.parse level with
  | .ok threshold => .ok { threshold, colors, clock }
  | .error e => .error (.plain (e.message level))

end GoldenSuite.Log

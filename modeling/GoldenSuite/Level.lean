import GoldenSuite.Text.CaseMap
import GoldenSuite.Text.Quoted

/-! Severities of log records, and the names by which a threshold is chosen. -/

namespace GoldenSuite

/-- A severity: the higher, the more severe. Sums wrap around at 64 bits. -/
structure Level where
  value : Int64
deriving DecidableEq, Inhabited

namespace Level

def trace : Level := ⟨-8⟩
def debug : Level := ⟨-4⟩
def info : Level := ⟨0⟩
def warn : Level := ⟨4⟩
def error : Level := ⟨8⟩
def crit : Level := ⟨12⟩

/-- Whether a record of severity `record` passes the threshold. -/
def admits (threshold record : Level) : Bool :=
  threshold.value ≤ record.value

/-- The level shifted by an offset. -/
def shift (level : Level) (offset : Int) : Level :=
  ⟨level.value + Int64.ofInt offset⟩

-------------------------------------------------------------------------------
-- Reading
-------------------------------------------------------------------------------

/-- Why a row of characters is no 64 bit integer. -/
inductive NumberError where
  | notDigits
  | outOfRange
deriving DecidableEq

def NumberError.message : NumberError → String
  | .notDigits => "invalid syntax"
  | .outOfRange => "value out of range"

/-- Why a text is no level. -/
inductive ParseError where
  | unknownName
  | badOffset (offset : String) (reason : NumberError)
deriving DecidableEq

/-- The message about a text that is no level. -/
def ParseError.message (text : String) (e : ParseError) : String :=
  let cause :=
    match e with
    | .unknownName => "unknown name"
    | .badOffset offset reason =>
        "strconv.Atoi: parsing " ++ Text.Quoted.ofString offset ++ ": " ++ reason.message
  "invalid log level " ++ Text.Quoted.ofString text ++ ": slog: level string "
    ++ Text.Quoted.ofString text ++ ": " ++ cause

/-- Reads digits from the left; the first fault met decides, be it a character that is no digit
or a value of more than 64 bits. -/
def magnitude : Nat → List Char → Except NumberError Nat
  | value, [] => .ok value
  | value, c :: rest =>
      if '0' ≤ c ∧ c ≤ '9' then
        let next := value * 10 + (c.toNat - '0'.toNat)
        if 18446744073709551616 ≤ next then .error .outOfRange else magnitude next rest
      else .error .notDigits

/-- Reads a signed decimal integer of 64 bits. -/
def integer (text : List Char) : Except NumberError Int :=
  let (negative, digits) :=
    match text with
    | '-' :: rest => (true, rest)
    | '+' :: rest => (false, rest)
    | _ => (false, text)
  if digits.isEmpty then .error .notDigits
  else
    match magnitude 0 digits with
    | .error e => .error e
    | .ok value =>
        if negative then
          if 9223372036854775808 < value then .error .outOfRange else .ok (-(Int.ofNat value))
        else if 9223372036854775808 ≤ value then .error .outOfRange
        else .ok (Int.ofNat value)

/-- The levels that take an offset, by their upper case names. -/
def named? (name : String) : Option Level :=
  [("DEBUG", debug), ("INFO", info), ("WARN", warn), ("ERROR", error)].lookup name

/-- The levels that take no offset, by their lower case names. -/
def outer? (name : String) : Option Level :=
  [("trace", trace), ("crit", crit)].lookup name

/-- Whether an offset starts at this character. -/
def startsOffset (c : Char) : Bool :=
  c = '+' || c = '-'

/-- Reads a name with an optional offset, which starts at the first sign. The offset is read
before the name is looked up. -/
def parseNamed (text : String) : Except ParseError Level :=
  let name := String.ofList (text.toList.takeWhile (fun c => !startsOffset c))
  let offset := text.toList.dropWhile (fun c => !startsOffset c)
  let amount : Except ParseError Int :=
    if offset.isEmpty then .ok 0
    else (integer offset).mapError (.badOffset (String.ofList offset))
  match amount with
  | .error e => .error e
  | .ok n =>
      match named? (Text.CaseMap.upperText name) with
      | some level => .ok (level.shift n)
      | none => .error .unknownName

/-- Reads a level. The outer names stand alone; all others may carry an offset. Case does not
matter. -/
def parse (text : String) : Except ParseError Level :=
  match outer? (Text.CaseMap.lowerText text) with
  | some level => .ok level
  | none => parseNamed text

end Level

end GoldenSuite

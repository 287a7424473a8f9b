import GoldenSuite.Yaml.Timestamp

/-! What a scalar without quotes means: nothing, a truth value, a number, a point in time, or just
its text. -/

namespace GoldenSuite.Yaml

/-- The meaning of a scalar. -/
inductive ScalarKind where
  | null
  | bool (value : Bool)
  | int (value : Int)
  | float
  | timestamp
  | str
deriving DecidableEq, Inhabited

namespace ScalarKind

-------------------------------------------------------------------------------
-- Tags
-------------------------------------------------------------------------------

def nullTag : String := "!!null"
def boolTag : String := "!!bool"
def intTag : String := "!!int"
def floatTag : String := "!!float"
def timestampTag : String := "!!timestamp"
def strTag : String := "!!str"
def binaryTag : String := "!!binary"
def mergeTag : String := "!!merge"
def seqTag : String := "!!seq"
def mapTag : String := "!!map"

/-- The tag of a meaning. -/
def tag : ScalarKind → String
  | .null => nullTag
  | .bool _ => boolTag
  | .int _ => intTag
  | .float => floatTag
  | .timestamp => timestampTag
  | .str => strTag

/-- What the common tags begin with when written out. -/
def longStart : List Char := "tag:yaml.org,2002:".toList

/-- The short form of a tag. -/
def shortTag (tag : String) : String :=
  if longStart.isPrefixOf tag.toList then
    "!!" ++ String.ofList (tag.toList.drop longStart.length)
  else tag

-------------------------------------------------------------------------------
-- Numbers
-------------------------------------------------------------------------------

/-- The value of a digit in any base up to sixteen. -/
def digit? (c : Char) : Option Nat :=
  if c.isDigit then some (c.toNat - 48)
  else if 'a' ≤ c && c ≤ 'f' then some (c.toNat - 87)
  else if 'A' ≤ c && c ≤ 'F' then some (c.toNat - 55)
  else none

/-- The value of a row of digits. -/
def digits? (base : Nat) (text : List Char) : Option Nat :=
  text.foldlM (fun value c => do
    let digit ← digit? c
    if digit < base then some (value * base + digit) else none) 0

/-- The value of a row of digits that is not empty. -/
def someDigits? (base : Nat) (text : List Char) : Option Nat :=
  if text.isEmpty then none else digits? base text

/-- The base that a letter after a zero stands for. -/
def baseOf? : Char → Option Nat
  | 'b' | 'B' => some 2
  | 'o' | 'O' => some 8
  | 'x' | 'X' => some 16
  | _ => none

/-- A whole number without a sign; a zero at its head changes the base. -/
def whole? (text : List Char) : Option Nat :=
  match text with
  | '0' :: letter :: digit :: rest =>
      match baseOf? letter with
      | some base => digits? base (digit :: rest)
      | none => digits? 8 (letter :: digit :: rest)
  | '0' :: rest => digits? 8 rest
  | _ => someDigits? 10 text

/-- Whether a number fits into 64 bits with a sign. -/
def fitsSigned (value : Int) : Bool :=
  -9223372036854775808 ≤ value && value < 9223372036854775808

/-- A number that fits into 64 bits, with a sign or, if it has none, without. -/
def signed? (read : List Char → Option Nat) (text : List Char) : Option Int :=
  let fitting (value : Int) : Option Int := if fitsSigned value then some value else none
  match text with
  | '-' :: rest => (read rest).bind fun n => fitting (-(Int.ofNat n))
  | '+' :: rest => (read rest).bind fun n => fitting (Int.ofNat n)
  | _ => (read text).bind fun n => if n < 18446744073709551616 then some (Int.ofNat n) else none

/-- A number after `0b` or `0o`, or after those with a minus sign in front. -/
def based? (letter : Char) (base : Nat) (text : List Char) : Option Int :=
  match text with
  | '0' :: c :: rest => if c = letter then signed? (someDigits? base) rest else none
  | '-' :: '0' :: c :: rest =>
      if c = letter then signed? (someDigits? base) ('-' :: rest) else none
  | _ => none

/-- The parts of a decimal fraction: its digits, how many of them follow the point, and the
exponent. -/
def decimalParts? (text : List Char) : Option (List Char × Nat × Int) := do
  let body := match text with
    | '-' :: rest => rest
    | '+' :: rest => rest
    | _ => text
  let whole := body.takeWhile Char.isDigit
  let (places, rest) :=
    match body.dropWhile Char.isDigit with
    | '.' :: rest => (rest.takeWhile Char.isDigit, rest.dropWhile Char.isDigit)
    | rest => ([], rest)
  if whole.isEmpty && places.isEmpty then none
  let exponent ← match rest with
    | [] => some (0 : Int)
    | e :: rest =>
        if e ≠ 'e' && e ≠ 'E' then none
        else
          match rest with
          | '-' :: digits => (someDigits? 10 digits).map fun n => -(Int.ofNat n)
          | '+' :: digits => (someDigits? 10 digits).map Int.ofNat
          | digits => (someDigits? 10 digits).map Int.ofNat
  some (whole ++ places, places.length, exponent)

/-- Whether a decimal fraction lies beyond all numbers of 64 bits with a binary exponent. -/
def isTooLarge (digits : List Char) (places : Nat) (exponent : Int) : Bool :=
  let value := (digits? 10 digits).getD 0
  let shift := exponent - places
  let magnitude := Int.ofNat (digits.dropWhile (· = '0')).length + shift
  if value = 0 || magnitude < 300 then false
  else if 320 < magnitude then true
  else
    (Nat.pow 2 1024 - Nat.pow 2 970) * Nat.pow 10 (-shift).toNat ≤ value * Nat.pow 10 shift.toNat

/-- Whether a text is a decimal fraction. -/
def isDecimal (text : List Char) : Bool :=
  match decimalParts? text with
  | some (digits, places, exponent) => !isTooLarge digits places exponent
  | none => false

/-- Whether every underscore stands between two digits. -/
def underscoresSeparate : Option Char → List Char → Bool
  | _, [] => true
  | before, '_' :: rest =>
      before.any Char.isDigit && rest.head?.any Char.isDigit && underscoresSeparate (some '_') rest
  | _, c :: rest => underscoresSeparate (some c) rest

def withoutUnderscores (text : List Char) : List Char :=
  text.filter (· ≠ '_')

-------------------------------------------------------------------------------
-- Meanings
-------------------------------------------------------------------------------

/-- The words with a meaning of their own. -/
def ofWord? (text : String) : Option ScalarKind :=
  if text ∈ ["true", "True", "TRUE"] then some (.bool true)
  else if text ∈ ["false", "False", "FALSE"] then some (.bool false)
  else if text ∈ ["", "~", "null", "Null", "NULL"] then some .null
  else if text ∈ [".nan", ".NaN", ".NAN", ".inf", ".Inf", ".INF", "+.inf", "+.Inf", "+.INF",
      "-.inf", "-.Inf", "-.INF"] then some .float
  else none

/-- The meaning of a text that begins like a number. -/
def ofNumber? (text : List Char) : Option ScalarKind :=
  let bare := withoutUnderscores text
  ((signed? whole? bare).map ScalarKind.int)
    <|> (if isDecimal bare then some .float else none)
    <|> ((based? 'b' 2 bare).map ScalarKind.int)
    <|> ((based? 'o' 8 bare).map ScalarKind.int)

/-- The meaning of a text, where points in time count only if `times` says so. -/
def ofText (times : Bool) (text : String) : ScalarKind :=
  match ofWord? text with
  | some kind => kind
  | none =>
      match text.toList with
      | [] => .null
      | c :: rest =>
          if c = '.' then
            if underscoresSeparate none (c :: rest) && isDecimal (withoutUnderscores (c :: rest))
            then .float else .str
          else if c.isDigit || c = '+' || c = '-' then
            if times && Timestamp.isTimestamp text then .timestamp
            else (ofNumber? (c :: rest)).getD .str
          else .str

/-- The meaning of a plain scalar. -/
def ofPlain (text : String) : ScalarKind :=
  ofText true text

end ScalarKind

end GoldenSuite.Yaml

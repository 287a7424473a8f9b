import GoldenSuite.Text.Quoted

/-! Spans of time in nanoseconds: how they are read, written, and shown in a results table. -/

namespace GoldenSuite

/-- A span of time in nanoseconds, possibly negative. -/
structure Duration where
  ns : Int64
deriving DecidableEq, Inhabited

namespace Duration

def zero : Duration := ⟨0⟩

def ofSeconds (n : Nat) : Duration :=
  ⟨Int64.ofNat (n * 1000000000)⟩

-------------------------------------------------------------------------------
-- Writing
-------------------------------------------------------------------------------

/-- The decimal digits of a fraction `value / 10 ^ places`, without closing zeros. -/
def fractionDigits (places value : Nat) : List Char :=
  let digits := Nat.toDigits 10 value
  let padded := List.replicate (places - digits.length) '0' ++ digits
  (padded.reverse.dropWhile (· = '0')).reverse

/-- The number `value / 10 ^ places` with as many places as it needs. -/
def decimal (places value : Nat) : String :=
  let whole := toString (value / Nat.pow 10 places)
  match value % Nat.pow 10 places with
  | 0 => whole
  | rest => whole ++ "." ++ String.ofList (fractionDigits places rest)

/-- A count of nanoseconds in words: below a second in one unit, from there on in hours, minutes
and seconds, leading units left out while they are zero. -/
def magnitudeText (n : Nat) : String :=
  if n = 0 then "0s"
  else if n < 1000 then toString n ++ "ns"
  else if n < 1000000 then decimal 3 n ++ "µs"
  else if n < 1000000000 then decimal 6 n ++ "ms"
  else
    let minutes := n / 60000000000
    let seconds := decimal 9 (n % 60000000000) ++ "s"
    if minutes = 0 then seconds
    else if minutes < 60 then toString minutes ++ "m" ++ seconds
    else toString (minutes / 60) ++ "h" ++ toString (minutes % 60) ++ "m" ++ seconds

/-- The text of a duration. -/
def toText (d : Duration) : String :=
  let n := d.ns.toInt
  if n < 0 then "-" ++ magnitudeText n.natAbs else magnitudeText n.natAbs

instance : ToString Duration := ⟨toText⟩

/-- Whole milliseconds, toward zero. -/
def milliseconds (d : Duration) : Int :=
  d.ns.toInt.tdiv 1000000

/-- The duration without what is less than a millisecond. -/
def truncated (d : Duration) : Duration :=
  ⟨Int64.ofInt (d.milliseconds * 1000000)⟩

/-- How a table shows a duration: in milliseconds below a second, in words from there on. -/
def display (d : Duration) : String :=
  if d.ns.toInt < 1000000000 then toString d.milliseconds ++ "ms"
  else d.truncated.toText

-------------------------------------------------------------------------------
-- Reading
-------------------------------------------------------------------------------

/-- Why a text is no duration. -/
inductive ParseError where
  | invalid
  | missingUnit
  | unknownUnit (unit : String)
deriving DecidableEq

/-- Text in the quotes of a duration message: every byte outside printable ASCII by its value. -/
def quoted (text : String) : String :=
  let piece (byte : UInt8) : String :=
    if byte = 34 then "\\\""
    else if byte = 92 then "\\\\"
    else if byte < 32 || 128 ≤ byte then "\\x" ++ Text.Quoted.hex 2 byte.toNat
    else String.singleton (Char.ofNat byte.toNat)
  "\"" ++ String.join ((Bytes.ofString text).map piece) ++ "\""

/-- The message about a text that is no duration. -/
def ParseError.message (text : String) : ParseError → String
  | .invalid => "time: invalid duration " ++ quoted text
  | .missingUnit => "time: missing unit in duration " ++ quoted text
  | .unknownUnit unit =>
      "time: unknown unit " ++ quoted unit ++ " in duration " ++ quoted text

/-- The nanoseconds of a unit. -/
def unitSize? (unit : String) : Option Nat :=
  [ ("ns", 1), ("us", 1000), ("\u00b5s", 1000), ("\u03bcs", 1000), ("ms", 1000000),
    ("s", 1000000000), ("m", 60000000000), ("h", 3600000000000) ].lookup unit

/-- The value of a row of digits. -/
def digitsValue (digits : List Char) : Nat :=
  digits.foldl (fun value c => value * 10 + (c.toNat - 48)) 0

/-- The digits of a fraction that are counted: the value stays below `2 ^ 63`. Gives the value
and how many digits it took. -/
def leadingFraction : Nat → Nat → List Char → Nat × Nat
  | value, places, [] => (value, places)
  | value, places, c :: rest =>
      let next := value * 10 + (c.toNat - 48)
      if 922337203685477580 < value || 9223372036854775808 < next then (value, places)
      else leadingFraction next (places + 1) rest

/-- The quotient `num / den` rounded to 53 significant binary digits, ties to the even neighbour,
as a quotient again. -/
def nearest (num den : Nat) : Nat × Nat :=
  if num = 0 then (0, 1)
  else
    let scaled (shift : Int) : Nat × Nat :=
      (num * Nat.pow 2 shift.toNat, den * Nat.pow 2 (-shift).toNat)
    let wide : Int := 53 - (Int.ofNat num.log2 - Int.ofNat den.log2)
    let (n, d) := scaled wide
    let shift := if n / d < 9007199254740992 then wide else wide - 1
    let (n, d) := scaled shift
    let quotient := n / d
    let rest := n % d
    let rounded :=
      if d < 2 * rest ∨ (2 * rest = d ∧ quotient % 2 = 1) then quotient + 1 else quotient
    (rounded * Nat.pow 2 (-shift).toNat, Nat.pow 2 shift.toNat)

/-- The nanoseconds of a fraction `value / 10 ^ places` of a unit. The product is formed with 53
binary digits and then cut to a whole number. -/
def fractionOf (unit value places : Nat) : Nat :=
  let (vn, vd) := nearest value 1
  let (un, ud) := nearest unit (Nat.pow 10 places)
  let (pn, pd) := nearest (vn * un) (vd * ud)
  pn / pd

/-- The largest magnitude: that of the least duration. -/
def limit : Nat := 9223372036854775808

def isDigit (c : Char) : Bool :=
  '0' ≤ c && c ≤ '9'

/-- One term of a duration, a number and its unit: the nanoseconds and the characters after
it. -/
def term (text : List Char) : Except ParseError (Nat × List Char) :=
  let whole := text.takeWhile isDigit
  let afterWhole := text.dropWhile isDigit
  let (hasFraction, fraction, afterNumber) :=
    match afterWhole with
    | '.' :: rest => (true, rest.takeWhile isDigit, rest.dropWhile isDigit)
    | _ => (false, [], afterWhole)
  if limit < digitsValue whole then .error .invalid
  else if whole.isEmpty && (!hasFraction || fraction.isEmpty) then .error .invalid
  else
    let unitText := afterNumber.takeWhile (fun c => c ≠ '.' && !isDigit c)
    let rest := afterNumber.dropWhile (fun c => c ≠ '.' && !isDigit c)
    if unitText.isEmpty then .error .missingUnit
    else
      match unitSize? (String.ofList unitText) with
      | none => .error (.unknownUnit (String.ofList unitText))
      | some unit =>
          if limit / unit < digitsValue whole then .error .invalid
          else
            let (value, places) := leadingFraction 0 0 fraction
            let total := digitsValue whole * unit
              + (if value = 0 then 0 else fractionOf unit value places)
            if limit < total then .error .invalid else .ok (total, rest)

/-- The sum of all terms; `fuel` bounds their number. -/
def terms : Nat → List Char → Nat → Except ParseError Nat
  | _, [], sum => .ok sum
  | 0, _ :: _, _ => .error .invalid
  | fuel + 1, text, sum => do
      let (value, rest) ← term text
      if limit < sum + value then .error .invalid else terms fuel rest (sum + value)

/-- The sign of a text and what follows it. -/
def signed (text : List Char) : Bool × List Char :=
  match text with
  | '-' :: rest => (true, rest)
  | '+' :: rest => (false, rest)
  | _ => (false, text)

/-- Reads a duration: an optional sign and then numbers with units, or a bare zero. -/
def parse (text : String) : Except ParseError Duration :=
  let (negative, body) := signed text.toList
  if body = ['0'] then .ok zero
  else if body.isEmpty then .error .invalid
  else
    match terms body.length body 0 with
    | .error e => .error e
    | .ok sum =>
        if negative then .ok ⟨Int64.ofInt (-(Int.ofNat sum))⟩
        else if limit ≤ sum then .error .invalid
        else .ok ⟨Int64.ofNat sum⟩

end Duration

end GoldenSuite

import GoldenSuite.Text.Bytes

/-! Text as processes hand it on: one character for each byte, whatever the bytes mean. -/

namespace GoldenSuite.Host

/-- A text with one character, below 256, for each byte. -/
abbrev ByteText := List Char

namespace ByteText

def ofBytes (bytes : Bytes) : ByteText :=
  bytes.map fun byte => Char.ofNat byte.toNat

def toBytes (text : ByteText) : Bytes :=
  text.map fun c => UInt8.ofNat c.toNat

/-- The bytes of a string, as characters. -/
def ofString (text : String) : ByteText :=
  ofBytes (Bytes.ofString text)

/-- The string that the bytes spell. -/
def toText (text : ByteText) : String :=
  Bytes.toStringLossy (toBytes text)

/-- The decimal digits of a number. -/
def ofInt (n : Int) : ByteText :=
  (toString n).toList

def isBlank (c : Char) : Bool :=
  c = ' ' || c = '\t'

def isSpace (c : Char) : Bool :=
  isBlank c || c = '\n' || c = '\r' || c = '\x0b' || c = '\x0c'

def isOctalDigit (c : Char) : Bool :=
  '0' ≤ c && c ≤ '7'

/-- The value of digits in a base; letters count from ten on. -/
def digitsValue (base : Nat) (digits : ByteText) : Nat :=
  digits.foldl (fun value c =>
    value * base + (if c.isDigit then c.toNat - 48 else c.toLower.toNat - 87)) 0

/-- A whole number in decimal digits, perhaps with a sign and blanks around it. -/
def toInt? (text : ByteText) : Option Int :=
  let text := text.dropWhile isSpace
  let text := (text.reverse.dropWhile isSpace).reverse
  let (negative, digits) :=
    match text with
    | '-' :: rest => (true, rest)
    | '+' :: rest => (false, rest)
    | _ => (false, text)
  if digits.isEmpty || !digits.all Char.isDigit then none
  else
    let value : Int := digitsValue 10 digits
    some (if negative then -value else value)

/-- The lines of a text, without their newlines; what follows the last newline is a line unless
it is empty. -/
def lines (text : ByteText) : List ByteText :=
  let pieces := text.splitOnP (· = '\n')
  if pieces.getLast? = some [] then pieces.dropLast else pieces

/-- Lines with a newline after each. -/
def unlines (lines : List ByteText) : ByteText :=
  lines.flatMap fun line => line ++ ['\n']

/-- The words of a text, between its white space. -/
def words (text : ByteText) : List ByteText :=
  (text.splitOnP isSpace).filter fun piece => !piece.isEmpty

end ByteText

end GoldenSuite.Host

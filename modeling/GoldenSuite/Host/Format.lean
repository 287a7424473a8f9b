import GoldenSuite.Host.Escape

/-! Printing by a format, which is used again until all arguments are printed. -/

namespace GoldenSuite.Host.Format

/-- How one argument is to be printed. -/
structure Directive where
  left : Bool
  zero : Bool
  plus : Bool
  blank : Bool
  alternate : Bool
  width : Nat
  precision : Option Nat
  conversion : Char

/-- Where printing stands: what has been printed, the arguments left, whether one has been used,
those that were no numbers, and whether printing has been stopped. -/
structure State where
  printed : List ByteText
  arguments : List ByteText
  used : Bool
  complaints : List ByteText
  stopped : Bool

namespace State

def print (s : State) (text : ByteText) : State :=
  { s with printed := text :: s.printed }

/-- The next argument; there is an empty one after the last. -/
def next (s : State) : ByteText × State :=
  match s.arguments with
  | [] => ([], { s with used := true })
  | argument :: rest => (argument, { s with arguments := rest, used := true })

/-- The next argument as a number, in decimal, octal or hexadecimal digits, or as the code of a
character after a quote. -/
def nextInt (s : State) : Int × State :=
  let (argument, s) := s.next
  let complain : Int × State := (0, { s with complaints := s.complaints ++ [argument] })
  let (negative, rest) :=
    match argument with
    | '-' :: rest => (true, rest)
    | '+' :: rest => (false, rest)
    | rest => (false, rest)
  let signed (n : Nat) : Int := if negative then -(n : Int) else n
  match rest with
  | [] => if argument.isEmpty then (0, s) else complain
  | '\'' :: c :: _ => (signed c.toNat, s)
  | '"' :: c :: _ => (signed c.toNat, s)
  | '0' :: x :: digits =>
      if x = 'x' || x = 'X' then
        if digits.isEmpty || !digits.all (fun c => c.isDigit || 'a' ≤ c.toLower && c.toLower ≤ 'f')
        then complain
        else (signed (ByteText.digitsValue 16 digits), s)
      else if (x :: digits).all ByteText.isOctalDigit then
        (signed (ByteText.digitsValue 8 (x :: digits)), s)
      else complain
  | digits =>
      if digits.all Char.isDigit then (signed (ByteText.digitsValue 10 digits), s)
      else
        (signed (ByteText.digitsValue 10 (digits.takeWhile Char.isDigit)),
          { s with complaints := s.complaints ++ [argument] })

end State

/-- Fills a text up to the width of a directive. -/
def pad (d : Directive) (zero : Bool) (sign text : ByteText) : ByteText :=
  let missing := d.width - (sign.length + text.length)
  if d.left then sign ++ text ++ List.replicate missing ' '
  else if zero then sign ++ List.replicate missing '0' ++ text
  else List.replicate missing ' ' ++ sign ++ text

/-- Fills digits up to the precision of a directive. -/
def withPrecision (d : Directive) (digits : ByteText) : ByteText :=
  List.replicate (d.precision.getD 1 - digits.length) '0' ++ digits

def padNumber (d : Directive) (sign digits : ByteText) : ByteText :=
  pad d (d.zero && d.precision.isNone) sign (withPrecision d digits)

/-- The two's complement of a number in 64 bits. -/
def unsignedValue (n : Int) : Nat :=
  (n % 18446744073709551616).toNat

/-- Prints one argument. -/
def convert (d : Directive) (s : State) : State :=
  match d.conversion with
  | '%' => s.print ['%']
  | 's' =>
      let (argument, s) := s.next
      let text := match d.precision with
        | some most => argument.take most
        | none => argument
      s.print (pad d false [] text)
  | 'c' =>
      let (argument, s) := s.next
      s.print (pad d false [] (argument.take 1))
  | 'b' =>
      let (argument, s) := s.next
      let (text, stops) := Escape.interpret argument
      { s.print (pad d false [] text) with stopped := stops }
  | 'u' =>
      let (value, s) := s.nextInt
      s.print (padNumber d [] (Nat.toDigits 10 (unsignedValue value)))
  | 'o' =>
      let (value, s) := s.nextInt
      s.print (padNumber d (if d.alternate then ['0'] else [])
        (Nat.toDigits 8 (unsignedValue value)))
  | 'x' =>
      let (value, s) := s.nextInt
      s.print (padNumber d (if d.alternate && value ≠ 0 then ['0', 'x'] else [])
        (Nat.toDigits 16 (unsignedValue value)))
  | 'X' =>
      let (value, s) := s.nextInt
      s.print (padNumber d (if d.alternate && value ≠ 0 then ['0', 'X'] else [])
        ((Nat.toDigits 16 (unsignedValue value)).map Char.toUpper))
  | _ =>
      let (value, s) := s.nextInt
      let sign :=
        if value < 0 then ['-'] else if d.plus then ['+'] else if d.blank then [' '] else []
      s.print (padNumber d sign (Nat.toDigits 10 value.natAbs))

/-- A number in a directive: digits, or a star for an argument. -/
def number? (text : ByteText) (s : State) : Option Int × ByteText × State :=
  match text with
  | '*' :: rest =>
      let (value, s) := s.nextInt
      (some value, rest, s)
  | _ =>
      let digits := text.takeWhile Char.isDigit
      if digits.isEmpty then (none, text, s)
      else (some (ByteText.digitsValue 10 digits), text.drop digits.length, s)

/-- Reads the directive after a percent sign. -/
def directive (text : ByteText) (s : State) : Option Directive × ByteText × State :=
  let isFlag (c : Char) : Bool := "-+ 0#".toList.contains c
  let flags := text.takeWhile isFlag
  let (width, rest, s) := number? (text.dropWhile isFlag) s
  let (precision, rest, s) :=
    match rest with
    | '.' :: rest =>
        let (most, rest, s) := number? rest s
        (some (most.getD 0).toNat, rest, s)
    | _ => (none, rest, s)
  let width := width.getD 0
  match rest with
  | c :: rest =>
      if "%scbuoxXdi".toList.contains c then
        (some
          { left := flags.contains '-' || width < 0
            zero := flags.contains '0'
            plus := flags.contains '+'
            blank := flags.contains ' '
            alternate := flags.contains '#'
            width := width.natAbs
            precision := precision
            conversion := c },
          rest, s)
      else (none, c :: rest, s)
  | [] => (none, [], s)

/-- Prints the format once. What is no directive ends the printing and is complained about. -/
def once : Nat → ByteText → State → State
  | 0, _, s => s
  | _, [], s => s
  | fuel + 1, '\\' :: rest, s =>
      let (c, rest) := Escape.afterBackslash rest
      once fuel rest (s.print [c])
  | fuel + 1, '%' :: rest, s =>
      match directive rest s with
      | (some d, rest, s) =>
          let s := convert d s
          if s.stopped then s else once fuel rest s
      | (none, rest, s) =>
          { s with stopped := true, complaints := s.complaints ++ ['%' :: rest.take 1] }
  | fuel + 1, c :: rest, s => once fuel rest (s.print [c])

/-- Prints the format again and again while arguments are left and it uses some. -/
def repeated : Nat → ByteText → State → State
  | 0, _, s => s
  | rounds + 1, format, s =>
      let s := once format.length format { s with used := false }
      if s.stopped || s.arguments.isEmpty || !s.used then s else repeated rounds format s

/-- What a format prints with arguments, and the arguments to complain about. -/
def print (format : ByteText) (arguments : List ByteText) : ByteText × List ByteText :=
  let s := repeated (arguments.length + 1) format ⟨[], arguments, false, [], false⟩
  (s.printed.reverse.flatten, s.complaints)

end GoldenSuite.Host.Format

import GoldenSuite.Host.ByteText

/-! Escapes in what is to be printed. -/

namespace GoldenSuite.Host.Escape

/-- The character that a letter after a backslash stands for. -/
def letter? (c : Char) : Option Char :=
  [('\\', '\\'), ('a', '\x07'), ('b', '\x08'), ('f', '\x0c'), ('n', '\n'), ('r', '\r'),
    ('t', '\t'), ('v', '\x0b')].lookup c

/-- Reads what follows a backslash: up to three octal digits or a letter. A backslash before
anything else stands for itself. -/
def afterBackslash (text : ByteText) : Char × ByteText :=
  match text with
  | [] => ('\\', [])
  | c :: rest =>
      let digits := (text.take 3).takeWhile ByteText.isOctalDigit
      if !digits.isEmpty then
        (Char.ofNat (ByteText.digitsValue 8 digits % 256), text.drop digits.length)
      else
        match letter? c with
        | some meant => (meant, rest)
        | none => ('\\', text)

/-- Drops the zero that may come before octal digits. -/
def skipZero (text : ByteText) : ByteText :=
  match text with
  | '0' :: c :: rest => if ByteText.isOctalDigit c then c :: rest else text
  | _ => text

/-- A text with its escapes worked out, and whether one of them asked for the end of all
printing. -/
def expand : Nat → ByteText → ByteText × Bool
  | 0, text => (text, false)
  | _, [] => ([], false)
  | fuel + 1, '\\' :: rest =>
      match rest with
      | 'c' :: _ => ([], true)
      | _ =>
          let (c, rest) := afterBackslash (skipZero rest)
          let (text, stops) := expand fuel rest
          (c :: text, stops)
  | fuel + 1, c :: rest =>
      let (text, stops) := expand fuel rest
      (c :: text, stops)

/-- A text with its escapes worked out. -/
def interpret (text : ByteText) : ByteText × Bool :=
  expand text.length text

/-- What printing words with escapes gives: blanks between them, and a newline at the end unless
it is not wanted or printing has been stopped. -/
def echo (newline : Bool) : List ByteText → ByteText
  | [] => if newline then ['\n'] else []
  | [word] =>
      match interpret word with
      | (text, true) => text
      | (text, false) => if newline then text ++ ['\n'] else text
  | word :: rest =>
      match interpret word with
      | (text, true) => text
      | (text, false) => text ++ ' ' :: echo newline rest

end GoldenSuite.Host.Escape

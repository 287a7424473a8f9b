import GoldenSuite.Text.Bytes
import GoldenSuite.Text.Category

/-! Quoted text. A quoted text stands on one line: what cannot be printed is written as an
escape. -/

namespace GoldenSuite.Text.Quoted

/-- The hexadecimal digits of a number, at least `width` of them. -/
def hex (width value : Nat) : String :=
  let digits := Nat.toDigits 16 value
  String.ofList (List.replicate (width - digits.length) '0' ++ digits)

/-- How a character is written between double quotes. -/
def escapeChar (c : Char) : String :=
  if c = '"' then "\\\""
  else if c = '\\' then "\\\\"
  else if Category.isPrintable c then String.singleton c
  else if c = '\x07' then "\\a"
  else if c = '\x08' then "\\b"
  else if c = '\x0c' then "\\f"
  else if c = '\n' then "\\n"
  else if c = '\r' then "\\r"
  else if c = '\t' then "\\t"
  else if c = '\x0b' then "\\v"
  else if c < ' ' || c = '\x7f' then "\\x" ++ hex 2 c.toNat
  else if c.toNat < 0x10000 then "\\u" ++ hex 4 c.toNat
  else "\\U" ++ hex 8 c.toNat

/-- How a glyph is written between double quotes: a byte outside any character by its value. -/
def escapeGlyph : Bytes.Glyph → String
  | .char c => escapeChar c
  | .stray byte => "\\x" ++ hex 2 byte.toNat

/-- A text in double quotes. -/
def ofString (text : String) : String :=
  "\"" ++ String.join (text.toList.map escapeChar) ++ "\""

/-- A byte string in double quotes. -/
def ofBytes (bytes : Bytes) : String :=
  "\"" ++ String.join ((Bytes.glyphs bytes).map escapeGlyph) ++ "\""

/-- Whether a byte string can stand between backquotes, where nothing is escaped: it is text on
one line, without backquotes, and printable but for tabs. -/
def fitsRaw (bytes : Bytes) : Bool :=
  (Bytes.glyphs bytes).all fun
    | .char c => c ≠ '\x60' && (c = '\t' || Category.isPrintable c)
    | .stray _ => false

/-- A byte string in the quotes that read best: double quotes if nothing needs an escape, else
backquotes where they fit, else double quotes with escapes. -/
def shortest (bytes : Bytes) : String :=
  let quoted := ofBytes bytes
  if quoted.utf8ByteSize ≤ bytes.length + 2 then quoted
  else if fitsRaw bytes then "\x60" ++ Bytes.toStringLossy bytes ++ "\x60"
  else quoted

end GoldenSuite.Text.Quoted

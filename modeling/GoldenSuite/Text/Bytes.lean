/-! Byte strings: what files hold and what programs print. Text is read out of bytes character
by character; a byte that starts no character is kept as it is. -/

namespace GoldenSuite

/-- A string of bytes, the first one first. -/
abbrev Bytes := List UInt8

namespace Bytes

/-- The bytes of a text. -/
def ofString (text : String) : Bytes :=
  text.toUTF8.data.toList

/-- The text that the bytes spell, if they spell one. -/
def toString? (bytes : Bytes) : Option String :=
  String.fromUTF8? ⟨bytes.toArray⟩

/-- What stands at the head of a byte string: a character, or a byte that starts none. -/
inductive Glyph where
  | char (c : Char)
  | stray (byte : UInt8)
deriving DecidableEq

/-- A byte that continues a character. -/
def isTail (byte : UInt8) : Bool :=
  0x80 ≤ byte && byte ≤ 0xBF

/-- The bytes that may follow `a` in a character of three bytes: neither overlong forms nor
surrogates. -/
def isSecondOfThree (a b : UInt8) : Bool :=
  (if a = 0xE0 then 0xA0 else 0x80) ≤ b && b ≤ (if a = 0xED then 0x9F else 0xBF)

/-- The bytes that may follow `a` in a character of four bytes: neither overlong forms nor code
points beyond the last. -/
def isSecondOfFour (a b : UInt8) : Bool :=
  (if a = 0xF0 then 0x90 else 0x80) ≤ b && b ≤ (if a = 0xF4 then 0x8F else 0xBF)

/-- The six low bits that a continuing byte carries. -/
def tailBits (byte : UInt8) : Nat :=
  byte.toNat % 64

/-- Reads the glyph at the head: the number of bytes it takes is at least one. -/
def headGlyph (first : UInt8) (rest : Bytes) : Glyph × Nat :=
  let stray := (Glyph.stray first, 1)
  let code := first.toNat
  if first < 0x80 then (.char (Char.ofNat code), 1)
  else if 0xC2 ≤ first && first ≤ 0xDF then
    match rest with
    | b :: _ =>
        if isTail b then (.char (Char.ofNat ((code % 32) * 64 + tailBits b)), 2) else stray
    | _ => stray
  else if 0xE0 ≤ first && first ≤ 0xEF then
    match rest with
    | b :: c :: _ =>
        if isSecondOfThree first b && isTail c then
          (.char (Char.ofNat ((code % 16) * 4096 + tailBits b * 64 + tailBits c)), 3)
        else stray
    | _ => stray
  else if 0xF0 ≤ first && first ≤ 0xF4 then
    match rest with
    | b :: c :: d :: _ =>
        if isSecondOfFour first b && isTail c && isTail d then
          (.char (Char.ofNat ((code % 8) * 262144 + tailBits b * 4096 + tailBits c * 64
            + tailBits d)), 4)
        else stray
    | _ => stray
  else stray

/-- The glyphs of a byte string in order. -/
def glyphs : Bytes → List Glyph
  | [] => []
  | first :: rest =>
      let head := headGlyph first rest
      head.1 :: glyphs (rest.drop (head.2 - 1))
termination_by bytes => bytes.length
decreasing_by simp only [List.length_cons, List.length_drop]; omega

/-- The text of the bytes, each byte that belongs to no character replaced by the replacement
character. -/
def toStringLossy (bytes : Bytes) : String :=
  String.ofList ((glyphs bytes).map fun
    | .char c => c
    | .stray _ => '\uFFFD')

/-- Cuts the bytes after every newline: each piece but the last ends in the only newline it
holds, and the pieces make up the whole. -/
def splitAfterNewline : Bytes → List Bytes
  | [] => [[]]
  | byte :: rest =>
      if byte = 10 then [byte] :: splitAfterNewline rest
      else
        match splitAfterNewline rest with
        | [] => [[byte]]
        | piece :: pieces => (byte :: piece) :: pieces

end Bytes

end GoldenSuite

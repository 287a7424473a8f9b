import GoldenSuite.Text.Bytes

/-! The characters of a YAML stream. Bytes are decoded block by block: a block with a bad byte is
refused as a whole, at the moment when the first of its characters is asked for. -/

namespace GoldenSuite.Yaml

/-- Why bytes cannot be decoded. -/
inductive Undecodable where
  | badLeadingOctet
  | badTrailingOctet
  | badLength
  | badCharacter
  | cutCharacter
  | cutUnit
  | cutPair
  | strayLowSurrogate
  | missingLowSurrogate
  | controlCharacter
deriving DecidableEq, Inhabited

def Undecodable.message : Undecodable → String
  | .badLeadingOctet => "invalid leading UTF-8 octet"
  | .badTrailingOctet => "invalid trailing UTF-8 octet"
  | .badLength => "invalid length of a UTF-8 sequence"
  | .badCharacter => "invalid Unicode character"
  | .cutCharacter => "incomplete UTF-8 octet sequence"
  | .cutUnit => "incomplete UTF-16 character"
  | .cutPair => "incomplete UTF-16 surrogate pair"
  | .strayLowSurrogate => "unexpected low surrogate area"
  | .missingLowSurrogate => "expected low surrogate area"
  | .controlCharacter => "control characters are not allowed"

/-- The characters up to the first block that cannot be decoded, and why it cannot. -/
structure Source where
  text : List Char
  fault : Option Undecodable
deriving Inhabited

namespace Source

/-- What decoding finds at the head of a byte string. -/
inductive Step where
  | char (code width : Nat)
  | refused (cause : Undecodable)
  /-- More bytes are needed; the cause holds if there are none. -/
  | unfinished (cause : Undecodable)

/-- How bytes spell characters: what stands at a first byte and the bytes after it. -/
abbrev Encoding := UInt8 → Bytes → Step

/-- How many bytes a character takes, by its first byte. -/
def utf8Width? (first : UInt8) : Option Nat :=
  if first < 0x80 then some 1
  else if first < 0xC0 then none
  else if first < 0xE0 then some 2
  else if first < 0xF0 then some 3
  else if first < 0xF8 then some 4
  else none

/-- The least code point that needs so many bytes. -/
def utf8Least : Nat → Nat
  | 2 => 0x80
  | 3 => 0x800
  | 4 => 0x10000
  | _ => 0

def utf8 : Encoding := fun first rest =>
  match utf8Width? first with
  | none => .refused .badLeadingOctet
  | some width =>
      let tail := rest.take (width - 1)
      if tail.length < width - 1 then .unfinished .cutCharacter
      else if !tail.all Bytes.isTail then .refused .badTrailingOctet
      else
        let lead := if width = 1 then first.toNat else first.toNat % Nat.pow 2 (7 - width)
        let code := tail.foldl (fun value byte => value * 64 + Bytes.tailBits byte) lead
        if code < utf8Least width then .refused .badLength
        else if (0xD800 ≤ code && code ≤ 0xDFFF) || 0x10FFFF < code then .refused .badCharacter
        else .char code width

/-- Joins the two bytes of a unit. -/
def unit (bigEndian : Bool) (a b : UInt8) : Nat :=
  if bigEndian then a.toNat * 256 + b.toNat else b.toNat * 256 + a.toNat

def utf16 (bigEndian : Bool) : Encoding := fun first rest =>
  match rest with
  | [] => .unfinished .cutUnit
  | second :: more =>
      let high := unit bigEndian first second
      if high / 1024 = 0x37 then .refused .strayLowSurrogate
      else if high / 1024 = 0x36 then
        match more with
        | third :: fourth :: _ =>
            let low := unit bigEndian third fourth
            if low / 1024 = 0x37 then .char (0x10000 + (high % 1024) * 1024 + low % 1024) 4
            else .refused .missingLowSurrogate
        | _ => .unfinished .cutPair
      else .char high 2

/-- The code points that a stream may hold: no control characters but tab and line breaks. -/
def isAllowed (code : Nat) : Bool :=
  code = 0x09 || code = 0x0A || code = 0x0D || (0x20 ≤ code && code ≤ 0x7E) || code = 0x85
    || (0xA0 ≤ code && code ≤ 0xD7FF) || (0xE000 ≤ code && code ≤ 0xFFFD)
    || (0x10000 ≤ code && code ≤ 0x10FFFF)

/-- The length of a block in bytes. -/
def blockSize : Nat := 512

/-- The characters of one block and the bytes they take. A character that the block cuts off is
left for the next one. -/
def decodeBlock (encoding : Encoding) : Nat → Bytes → Except Undecodable (List Char × Nat)
  | 0, _ => .ok ([], 0)
  | _ + 1, [] => .ok ([], 0)
  | budget + 1, first :: rest =>
      match encoding first rest with
      | .refused cause => .error cause
      | .unfinished _ => .ok ([], 0)
      | .char code width =>
          if !isAllowed code then .error .controlCharacter
          else
            match decodeBlock encoding budget (rest.drop (width - 1)) with
            | .error cause => .error cause
            | .ok (chars, used) => .ok (Char.ofNat code :: chars, width + used)

/-- Decodes block after block. Where a block holds no whole character, the stream has ended in
the middle of one. -/
def decodeBlocks (encoding : Encoding) : Nat → Bytes → Source
  | 0, _ => ⟨[], none⟩
  | _ + 1, [] => ⟨[], none⟩
  | budget + 1, first :: rest =>
      match decodeBlock encoding blockSize ((first :: rest).take blockSize) with
      | .error cause => ⟨[], some cause⟩
      | .ok (_, 0) =>
          match encoding first rest with
          | .unfinished cause => ⟨[], some cause⟩
          | _ => ⟨[], none⟩
      | .ok (chars, used) =>
          let later := decodeBlocks encoding budget ((first :: rest).drop used)
          ⟨chars ++ later.text, later.fault⟩

/-- Reads a stream of bytes. A byte order mark at its head says how it is encoded. -/
def ofBytes (bytes : Bytes) : Source :=
  match bytes with
  | 0xFF :: 0xFE :: rest => decodeBlocks (utf16 false) rest.length rest
  | 0xFE :: 0xFF :: rest => decodeBlocks (utf16 true) rest.length rest
  | 0xEF :: 0xBB :: 0xBF :: rest => decodeBlocks utf8 rest.length rest
  | _ => decodeBlocks utf8 bytes.length bytes

end Source

end GoldenSuite.Yaml

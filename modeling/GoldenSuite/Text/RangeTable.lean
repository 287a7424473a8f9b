/-! Sets of characters given as ranges of code points. -/

namespace GoldenSuite.Text

/-- A set of code points: the members of finitely many closed ranges. -/
structure RangeTable where
  ranges : Array (Nat × Nat)

namespace RangeTable

/-- Membership of a code point. -/
def contains (table : RangeTable) (code : Nat) : Bool :=
  table.ranges.any fun range => range.1 ≤ code && code ≤ range.2

/-- The value of a hexadecimal digit, and zero for any other character. -/
def hexValue (c : Char) : Nat :=
  if '0' ≤ c ∧ c ≤ '9' then c.toNat - '0'.toNat
  else if 'a' ≤ c ∧ c ≤ 'f' then c.toNat - 'a'.toNat + 10
  else if 'A' ≤ c ∧ c ≤ 'F' then c.toNat - 'A'.toNat + 10
  else 0

/-- The value of a hexadecimal numeral. -/
def hexNumber (digits : String) : Nat :=
  digits.foldl (fun value c => value * 16 + hexValue c) 0

/-- One written range: `lo-hi`, or a single code point. -/
def rangeOfText (word : String) : Nat × Nat :=
  match word.splitOn "-" with
  | [lo, hi] => (hexNumber lo, hexNumber hi)
  | _ => (hexNumber word, hexNumber word)

/-- Reads a table of hexadecimal ranges that are written one after the other, blanks and line
ends apart. -/
def ofText (text : String) : RangeTable :=
  let words := ((text.splitOn "\n").flatMap (·.splitOn " ")).filter (· ≠ "")
  { ranges := (words.map rangeOfText).toArray }

end RangeTable

end GoldenSuite.Text

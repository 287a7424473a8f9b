import GoldenSuite.Text.Quoted

/-! The names of runs: random, and so different from each other. -/

namespace GoldenSuite.RunId

/-- Marks sixteen random bytes as such: six bits in them are fixed. -/
def marked (bytes : List UInt8) : List UInt8 :=
  bytes.mapIdx fun index byte =>
    if index = 6 then byte &&& 0x0F ||| 0x40
    else if index = 8 then byte &&& 0x3F ||| 0x80
    else byte

/-- Cuts a list into pieces of given lengths. -/
def pieces {α : Type} : List Nat → List α → List (List α)
  | [], _ => []
  | length :: rest, items => items.take length :: pieces rest (items.drop length)

/-- The name that sixteen random bytes give. -/
def ofBytes (bytes : List UInt8) : String :=
  String.intercalate "-" ((pieces [4, 2, 2, 2, 6] (marked bytes)).map fun piece =>
    String.join (piece.map fun byte => Text.Quoted.hex 2 byte.toNat))

end GoldenSuite.RunId

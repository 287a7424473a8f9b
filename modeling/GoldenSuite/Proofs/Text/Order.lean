import GoldenSuite.Text.Bytes
import Mathlib.Data.List.Nodup

/-! The order of texts is that of their bytes. The bytes of a character tell by the first one how
many they are, and give its number from the highest digits down, so comparing bytes compares
characters. Things that are sorted by texts have one order if no text occurs twice.
-/

namespace GoldenSuite.Bytes

-----------------------------------------------------------------------------------------
-- Characters
-----------------------------------------------------------------------------------------

/-- One byte string comes before another one in a dictionary: it is a start of it, or it has the
smaller byte where they first differ.
-/
def Precedes (left right : Bytes) : Prop :=
  List.Lex (· < ·) left right

/-- The bytes of a text are those of its characters, one after the other. -/
theorem ofString_eq_flatMap (text : String)
    : ofString text = text.toList.flatMap String.utf8EncodeChar := by
  have encoded : text.toByteArray = text.toList.utf8Encode := by
    rw [← String.toByteArray_ofList, String.ofList_toList]
  rw [ofString, String.toUTF8, encoded, List.utf8Encode, List.data_toByteArray]

/-- The byte at the head decides, or what follows it if both have the same. -/
theorem precedes_cons {small large : Nat} {left right : Bytes} (bound : large < 256)
    (ordered : small ≤ large) (rest : small = large → Precedes left right)
    : Precedes (UInt8.ofNat small :: left) (UInt8.ofNat large :: right) := by
  rcases Nat.lt_or_eq_of_le ordered with less | rfl
  · exact .rel ((UInt8.ofNat_lt_iff_lt (Nat.lt_trans less bound) bound).mpr less)
  · exact .cons (rest rfl)

/-- A smaller byte at the head decides. -/
theorem precedes_of_head_lt {small large : Nat} (less : small < large) (bound : large < 256)
    (left right : Bytes)
    : Precedes (UInt8.ofNat small :: left) (UInt8.ofNat large :: right) :=
  precedes_cons bound (Nat.le_of_lt less) fun same => absurd same (Nat.ne_of_lt less)

/-- Byte strings are compared after a start that they share, by induction over it. -/
theorem precedes_append (start : Bytes) {left right : Bytes} (first : Precedes left right)
    : Precedes (start ++ left) (start ++ right) := by
  induction start with
  | nil => exact first
  | cons byte rest ih => exact .cons ih

/-- The bytes of a smaller character come first, whatever follows. Witness: the first bytes tell
the lengths apart, and at one length the bytes are the digits of the number.
-/
theorem precedes_of_char_lt {small large : Char} (less : small < large) (left right : Bytes)
    : Precedes (String.utf8EncodeChar small ++ left) (String.utf8EncodeChar large ++ right) := by
  have numbers : small.val.toNat < large.val.toNat := UInt32.lt_iff_toNat_lt.mp less
  have bound : large.val.toNat < 1114112 := by
    rcases large.valid with low | high
    · exact Nat.lt_trans low (by decide)
    · exact high.2
  unfold String.utf8EncodeChar
  dsimp only
  generalize small.val.toNat = m at numbers ⊢
  generalize large.val.toNat = n at numbers bound ⊢
  by_cases one : m ≤ 127
  · rw [if_pos one]
    repeat' split
    all_goals exact precedes_of_head_lt (by omega) (by omega) _ _
  · rw [if_neg one, if_neg (by omega : ¬n ≤ 127)]
    by_cases two : m ≤ 2047
    · rw [if_pos two]
      repeat' split
      · exact precedes_cons (by omega) (by omega) fun same =>
          precedes_of_head_lt (by omega) (by omega) _ _
      all_goals exact precedes_of_head_lt (by omega) (by omega) _ _
    · rw [if_neg two, if_neg (by omega : ¬n ≤ 2047)]
      by_cases three : m ≤ 65535
      · rw [if_pos three]
        split
        · exact precedes_cons (by omega) (by omega) fun high =>
            precedes_cons (by omega) (by omega) fun middle =>
              precedes_of_head_lt (by omega) (by omega) _ _
        · exact precedes_of_head_lt (by omega) (by omega) _ _
      · rw [if_neg three, if_neg (by omega : ¬n ≤ 65535)]
        exact precedes_cons (by omega) (by omega) fun high =>
          precedes_cons (by omega) (by omega) fun upper =>
            precedes_cons (by omega) (by omega) fun lower =>
              precedes_of_head_lt (by omega) (by omega) _ _

-----------------------------------------------------------------------------------------
-- Texts
-----------------------------------------------------------------------------------------

/-- A text that comes first has bytes that come first, by induction over the characters that both
have in common.
-/
theorem precedes_flatMap_of_lex {left right : List Char} (first : List.Lex (· < ·) left right)
    : Precedes (left.flatMap String.utf8EncodeChar) (right.flatMap String.utf8EncodeChar) := by
  induction first with
  | @nil c rest =>
      obtain ⟨byte, bytes, encoded⟩ :=
        List.exists_cons_of_ne_nil (String.utf8EncodeChar_ne_nil (c := c))
      rw [List.flatMap_nil, List.flatMap_cons, encoded]
      exact .nil
  | @cons c left right _ ih =>
      rw [List.flatMap_cons, List.flatMap_cons]
      exact precedes_append _ ih
  | @rel c left d right less =>
      rw [List.flatMap_cons, List.flatMap_cons]
      exact precedes_of_char_lt less _ _

/-- Texts come in the order of their bytes. -/
theorem precedes_ofString_of_lt {left right : String} (less : left < right)
    : Precedes (ofString left) (ofString right) := by
  rw [ofString_eq_flatMap, ofString_eq_flatMap]
  exact precedes_flatMap_of_lex less

end GoldenSuite.Bytes

namespace GoldenSuite

-----------------------------------------------------------------------------------------
-- Sorting by texts
-----------------------------------------------------------------------------------------

/-- Things in the order of a text that each of them has. -/
def SortedBy {α : Type} (key : α → String) (items : List α) : Prop :=
  items.Pairwise fun left right => key left ≤ key right

/-- Sorting by a text gives that order. -/
theorem sortedBy_mergeSort {α : Type} (key : α → String) (items : List α)
    : SortedBy key (items.mergeSort fun left right => key left ≤ key right) := by
  have sorted
      : (items.mergeSort fun left right => key left ≤ key right).Pairwise
          fun left right => decide (key left ≤ key right) = true :=
    List.pairwise_mergeSort
      (fun a b c first second => by
        simp only [decide_eq_true_eq] at first second ⊢
        exact String.le_trans first second)
      (fun a b => by simpa using String.le_total (key a) (key b)) items
  exact sorted.imp of_decide_eq_true

/-- The same things in order are the same list, if no text occurs twice. -/
theorem SortedBy.eq_of_perm {α : Type} {key : α → String} {left right : List α}
    (hl : SortedBy key left) (hr : SortedBy key right)
    (distinct : (left.map key).Nodup) (same : left.Perm right)
    : left = right := by
  refine List.Perm.eq_of_pairwise ?_ hl hr same
  intro a b inLeft inRight first second
  exact List.inj_on_of_nodup_map distinct inLeft (same.mem_iff.mpr inRight)
    (String.le_antisymm first second)

/-- Where no text occurs twice, the order is strict. -/
theorem SortedBy.strict {α : Type} {key : α → String} {items : List α}
    (sorted : SortedBy key items) (distinct : (items.map key).Nodup)
    : items.Pairwise fun left right => key left < key right :=
  (sorted.and (List.pairwise_map.mp distinct)).imp fun both => Std.lt_of_le_of_ne both.1 both.2

end GoldenSuite

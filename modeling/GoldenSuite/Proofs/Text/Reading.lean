import Mathlib

/-! What readers of texts rely on: which words a table has, where a first part of a text ends, how an
integer is written in digits, what more digits do to a value, and how closing zeros of a fraction are
left out.
-/

namespace GoldenSuite.Text

/-- What a table has for a word is one of its entries. -/
theorem mem_of_lookup {α : Type} {table : List (String × α)} {word : String} {value : α}
    (found : table.lookup word = some value)
    : (word, value) ∈ table := by
  obtain ⟨before, after, entries, _⟩ := List.lookup_eq_some_iff.mp found
  rw [entries]
  exact List.mem_append_right _ List.mem_cons_self

/-- A text is cut right where a first part that satisfies a test is followed by a character that
does not.
-/
theorem cut_append {test : Char → Bool} {front rest : List Char}
    (kept : ∀ c ∈ front, test c = true) (stops : ∀ c ∈ rest.head?, test c = false)
    : (front ++ rest).takeWhile test = front ∧ (front ++ rest).dropWhile test = rest := by
  rw [List.takeWhile_append_of_pos kept, List.dropWhile_append_of_pos kept]
  cases rest with
  | nil => simp
  | cons c rest =>
      have other : test c = false := stops c rfl
      simp [other]

theorem isDigit_iff {c : Char} : '0' ≤ c ∧ c ≤ '9' ↔ c.isDigit = true := by
  rw [Char.isDigit_iff_toNat]
  rfl

/-- An integer is written as its magnitude, after a sign where it is negative. -/
theorem toList_toString_int (z : Int)
    : (toString z).toList
      = if z < 0 then '-' :: Nat.toDigits 10 z.natAbs else Nat.toDigits 10 z.natAbs := by
  rw [Int.toString_eq_repr, Int.repr_eq_if]
  split
  · have digits : z.toNat = z.natAbs := by omega
    rw [if_neg (by omega), digits, Nat.toList_repr]
  · have digits : (-z).toNat = z.natAbs := by omega
    rw [if_pos (by omega), digits]
    simp

/-- Reading more digits never makes a value smaller. -/
theorem le_ofDigitChars (digits : List Char) (value : Nat)
    : value ≤ Nat.ofDigitChars 10 digits value := by
  rw [Nat.ofDigitChars_eq_ofDigitChars_zero]
  have grown : 1 * value ≤ 10 ^ digits.length * value :=
    Nat.mul_le_mul_right value (Nat.one_le_pow _ _ (by decide))
  omega

/-- Closing zeros that are left out of a row of digits multiply its value by a power of ten. -/
theorem ofDigitChars_stripZeros (digits : List Char)
    : ∃ zeros,
        digits = (digits.reverse.dropWhile (· = '0')).reverse ++ List.replicate zeros '0'
        ∧ Nat.ofDigitChars 10 digits 0
          = 10 ^ zeros
            * Nat.ofDigitChars 10 (digits.reverse.dropWhile (· = '0')).reverse 0 := by
  have split := congrArg List.reverse
    (List.takeWhile_append_dropWhile (p := fun c => decide (c = '0')) (l := digits.reverse))
  rw [List.reverse_append, List.reverse_reverse] at split
  have closing : digits.reverse.takeWhile (· = '0')
      = List.replicate (digits.reverse.takeWhile (· = '0')).length '0' := by
    refine List.eq_replicate_of_mem fun c member => ?_
    simpa using List.mem_takeWhile_imp member
  rw [closing, List.reverse_replicate] at split
  refine ⟨_, split.symm, ?_⟩
  nth_rewrite 1 [← split]
  rw [Nat.ofDigitChars_append, Nat.ofDigitChars_replicate_zero]

end GoldenSuite.Text

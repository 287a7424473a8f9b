import GoldenSuite.Duration
import GoldenSuite.Proofs.Text.Reading
import Mathlib

/-! Fractions of a unit, written and read. A fraction is written without its closing zeros and read
with rounded products. Below `2 ^ 53` nothing is rounded, so that what is written for a second is
read back without loss.
-/

namespace GoldenSuite.Duration

-----------------------------------------------------------------------------------------
-- Rounding
-----------------------------------------------------------------------------------------

/-- The logarithm of a multiple is at most that of the factors' bounds. -/
theorem log2_mul_le {q den : Nat} (small : q < 2 ^ 53) : (q * den).log2 ≤ den.log2 + 53 := by
  by_cases zero : q * den = 0
  · simp [zero]
  · have bound : q * den < 2 ^ (den.log2 + 54) := by
      calc
        q * den < 2 ^ 53 * 2 ^ (den.log2 + 1) :=
          Nat.mul_lt_mul'' small Nat.lt_log2_self
        _ = 2 ^ (den.log2 + 54) := by ring
    have := (Nat.log2_lt zero).mpr bound
    omega

/-- A whole number below `2 ^ 53` is not rounded. -/
theorem nearest_exact {q den : Nat} (positive : 0 < den) (small : q < 2 ^ 53)
    : ∃ scale, 0 < scale ∧ nearest (q * den) den = (q * scale, scale) := by
  by_cases zero : q = 0
  · exact ⟨1, by decide, by simp [nearest, zero]⟩
  · have nonzero : q * den ≠ 0 := Nat.mul_ne_zero zero (Nat.ne_of_gt positive)
    have quotient (shift : Nat) : q * den * 2 ^ shift / den = q * 2 ^ shift := by
      rw [Nat.mul_right_comm, Nat.mul_div_cancel _ positive]
    have rest (shift : Nat) : q * den * 2 ^ shift % den = 0 := by
      rw [Nat.mul_right_comm, Nat.mul_mod_left]
    obtain ⟨wide, isWide⟩ : ∃ wide : Nat,
        53 - (Int.ofNat (q * den).log2 - Int.ofNat den.log2) = (wide : Int) := by
      have bound : (q * den).log2 ≤ den.log2 + 53 := log2_mul_le small
      refine Int.eq_ofNat_of_zero_le ?_
      simp only [Int.ofNat_eq_natCast]
      omega
    -- A wide shift is at least one where it is taken back by one, since the number is small.
    obtain ⟨shift, isShift⟩ : ∃ shift : Nat,
        (if q * 2 ^ wide < 9007199254740992 then (wide : Int) else wide - 1) = shift := by
      split
      · exact ⟨wide, rfl⟩
      · rename_i large
        have positive : wide ≠ 0 := by
          rintro rfl
          omega
        exact ⟨wide - 1, by omega⟩
    refine ⟨2 ^ shift, Nat.two_pow_pos shift, ?_⟩
    unfold nearest
    rw [if_neg nonzero]
    simp only [isWide, isShift, Int.toNat_natCast, Int.toNat_neg_natCast, Nat.pow_eq, Nat.pow_zero,
      Nat.mul_one, quotient, rest]
    rw [if_neg (by omega)]

/-- A fraction of a unit that is a whole number below `2 ^ 53` is read without loss. -/
theorem fractionOf_exact {unit value places factor : Nat} (divides : factor * 10 ^ places = unit)
    (nonzero : 0 < factor) (positive : 0 < value) (small : value * factor < 2 ^ 53)
    : fractionOf unit value places = value * factor := by
  have valueSmall : value < 2 ^ 53 := (Nat.le_mul_of_pos_right value nonzero).trans_lt small
  have factorSmall : factor < 2 ^ 53 := (Nat.le_mul_of_pos_left factor positive).trans_lt small
  obtain ⟨a, aPositive, readValue⟩ := nearest_exact Nat.one_pos valueSmall
  have scalePositive : 0 < 10 ^ places := Nat.pow_pos (by decide)
  obtain ⟨b, bPositive, readUnit⟩ := nearest_exact scalePositive factorSmall
  obtain ⟨c, cPositive, readProduct⟩ := nearest_exact (Nat.mul_pos aPositive bPositive) small
  rw [Nat.mul_one] at readValue
  rw [divides] at readUnit
  have product : value * a * (factor * b) = value * factor * (a * b) := by ring
  simp only [fractionOf, readValue, Nat.pow_eq, readUnit, product, readProduct]
  exact Nat.mul_div_cancel _ cPositive

-----------------------------------------------------------------------------------------
-- Digits
-----------------------------------------------------------------------------------------

/-- All digits of a fraction are counted while the value stays small, by induction over them. -/
theorem leadingFraction_eq {digits : List Char} {value places : Nat}
    (small : Nat.ofDigitChars 10 digits value ≤ 922337203685477580)
    : leadingFraction value places digits
      = (Nat.ofDigitChars 10 digits value, places + digits.length) := by
  induction digits generalizing value places with
  | nil => rfl
  | cons c rest ih =>
      have next : Nat.ofDigitChars 10 (c :: rest) value
          = Nat.ofDigitChars 10 rest (value * 10 + (c.toNat - 48)) := by
        rw [Nat.ofDigitChars_cons, Nat.mul_comm]
        rfl
      rw [next] at small ⊢
      have now := Text.le_ofDigitChars rest (value * 10 + (c.toNat - 48))
      have counted : ¬(decide (922337203685477580 < value)
          || decide (9223372036854775808 < value * 10 + (c.toNat - 48))) = true := by
        simp only [Bool.or_eq_true, decide_eq_true_eq]
        omega
      rw [leadingFraction, if_neg counted, ih small, List.length_cons]
      congr 1
      omega

/-- The digits of a fraction are digits, no more than its places, and have its value. -/
structure WritesFraction (places value : Nat) (digits : List Char) : Prop where
  decimal : ∀ c ∈ digits, c.isDigit = true
  nonempty : digits ≠ []
  short : digits.length ≤ places
  value : Nat.ofDigitChars 10 digits 0 * 10 ^ (places - digits.length) = value

/-- A fraction is written with leading zeros up to its places, and without its closing ones. -/
theorem writesFraction_fractionDigits {places value : Nat} (positive : 0 < value)
    (small : value < 10 ^ places)
    : WritesFraction places value (fractionDigits places value) := by
  have somePlaces : 0 < places := by
    rcases Nat.eq_zero_or_pos places with rfl | some
    · simp at small
      omega
    · exact some
  have fits : (Nat.toDigits 10 value).length ≤ places :=
    (Nat.length_toDigits_le_iff (by decide) somePlaces).mpr small
  generalize paddedEq : List.replicate (places - (Nat.toDigits 10 value).length) '0'
    ++ Nat.toDigits 10 value = padded
  have written : fractionDigits places value
      = (padded.reverse.dropWhile (fun c => decide (c = '0'))).reverse := by
    rw [fractionDigits, paddedEq]
  have length : padded.length = places := by
    rw [← paddedEq, List.length_append, List.length_replicate]
    omega
  have whole : Nat.ofDigitChars 10 padded 0 = value := by
    rw [← paddedEq, Nat.ofDigitChars_append, Nat.ofDigitChars_replicate_zero, Nat.mul_zero,
      Nat.ofDigitChars_toDigits (by decide) (by decide)]
  have decimal : ∀ c ∈ padded, c.isDigit = true := by
    intro c member
    rw [← paddedEq] at member
    rcases List.mem_append.mp member with zero | digit
    · rw [List.eq_of_mem_replicate zero]
      rfl
    · exact Nat.isDigit_of_mem_toDigits (by decide) (by decide) digit
  obtain ⟨zeros, split, scaled⟩ := Text.ofDigitChars_stripZeros padded
  rw [← written] at split scaled
  have lengths : (fractionDigits places value).length + zeros = places := by
    have := congrArg List.length split
    rw [List.length_append, List.length_replicate, length] at this
    exact this.symm
  have back : Nat.ofDigitChars 10 (fractionDigits places value) 0 * 10 ^ zeros = value := by
    rw [Nat.mul_comm, ← scaled, whole]
  exact {
    decimal := fun c member => decimal c (by rw [split]; exact List.mem_append_left _ member)
    nonempty := by
      intro empty
      rw [empty, Nat.ofDigitChars_nil, Nat.zero_mul] at back
      omega
    short := by omega
    value := by
      have left : places - (fractionDigits places value).length = zeros := by omega
      rw [left, back]
  }

/-- The digits that are written for a fraction of a second are read back as that fraction. -/
theorem WritesFraction.read {value : Nat} {digits : List Char}
    (writes : WritesFraction 9 value digits) (positive : 0 < value) (small : value < 10 ^ 9)
    : ∃ read places,
        leadingFraction 0 0 digits = (read, places)
        ∧ read ≠ 0
        ∧ fractionOf 1000000000 read places = value := by
  have factorPositive : 0 < 10 ^ (9 - digits.length) := Nat.pow_pos (by decide)
  have readPositive : 0 < Nat.ofDigitChars 10 digits 0 := by
    rcases Nat.eq_zero_or_pos (Nat.ofDigitChars 10 digits 0) with zero | some
    · have nothing := writes.value
      rw [zero, Nat.zero_mul] at nothing
      omega
    · exact some
  have bounded : Nat.ofDigitChars 10 digits 0 ≤ value :=
    writes.value ▸ Nat.le_mul_of_pos_right _ factorPositive
  have unit : 10 ^ (9 - digits.length) * 10 ^ digits.length = 1000000000 := by
    rw [← Nat.pow_add, Nat.sub_add_cancel writes.short]
  refine ⟨_, _, leadingFraction_eq (by omega), Nat.ne_of_gt readPositive, ?_⟩
  rw [Nat.zero_add, fractionOf_exact unit factorPositive readPositive, writes.value]
  rw [writes.value]
  omega

end GoldenSuite.Duration

import GoldenSuite.Duration
import GoldenSuite.Proofs.Duration.Terms
import GoldenSuite.Proofs.Text.Reading
import Mathlib

/-! What a table shows of a duration can be read again. Below a second a display counts whole
milliseconds, and from there on it is the text of a duration that is cut to them. Both ways meet at
the second without a gap, since cutting never crosses it.
-/

namespace GoldenSuite.Duration

/-- Whole milliseconds are cut toward zero: to the floor of what is not negative, and the other way
around below zero.
-/
theorem milliseconds_eq (d : Duration)
    : d.milliseconds
      = if 0 ≤ d.ns.toInt then d.ns.toInt / 1000000 else -(-d.ns.toInt / 1000000) := by
  rw [milliseconds]
  split
  · rename_i nonneg
    exact Int.tdiv_eq_ediv_of_nonneg nonneg
  · rename_i negative
    rw [← Int.tdiv_eq_ediv_of_nonneg (by omega), Int.neg_tdiv, Int.neg_neg]

/-- Counting whole milliseconds in nanoseconds again stays in range, since it cuts toward zero. -/
theorem truncated_toInt (d : Duration)
    : d.truncated.ns.toInt = d.milliseconds * 1000000 := by
  have lower := d.ns.le_toInt
  have upper := d.ns.toInt_lt
  have whole := d.milliseconds_eq
  rw [truncated]
  refine Int64.toInt_ofInt_of_le ?_ ?_ <;> omega

/-- Leaving out less than a millisecond does not cross the second where the display changes. -/
theorem second_le_milliseconds (d : Duration)
    : 1000 ≤ d.milliseconds ↔ 1000000000 ≤ d.ns.toInt := by
  have whole := d.milliseconds_eq
  omega

/-- A whole number of milliseconds is read as that many. -/
theorem parse_milliseconds {ms : Int} {d : Duration} (value : d.ns.toInt = ms * 1000000)
    : parse (toString ms ++ "ms") = .ok d := by
  have lower := d.ns.le_toInt
  have upper := d.ns.toInt_lt
  have fits : ms.natAbs * 1000000 ≤ limit := by
    rw [limit]
    omega
  have total : ms.natAbs * 1000000 + 0 = d.ns.toInt.natAbs := by omega
  have sums := Sums.nil.whole isUnit_milliseconds fits
  rw [total] at sums
  have sign : d.ns.toInt < 0 ↔ ms < 0 := by omega
  refine sums.parse (by simp) ?_
  simp only [String.toList_append, Text.toList_toString_int, sign]
  split <;> simp

/-- The text of a duration of a second or more is read as that duration. -/
theorem parse_toText {d : Duration} (large : 1000000000 ≤ d.ns.toInt)
    : parse d.toText = .ok d := by
  have upper := d.ns.toInt_lt
  have fits : d.ns.toInt.natAbs ≤ limit := by
    rw [limit]
    omega
  have sums : Sums (magnitudeText d.ns.toInt.natAbs).toList d.ns.toInt.natAbs :=
    sums_magnitudeText (by omega) fits
  have sign : ¬d.ns.toInt < 0 := by omega
  rw [toText, if_neg sign]
  refine sums.parse (sums.ne_nil (by omega)) ?_
  rw [if_neg sign]

/-- A display is read back as the duration without what is less than a millisecond. -/
theorem parse_display (d : Duration) : parse d.display = .ok d.truncated := by
  have value := d.truncated_toInt
  have switch := d.second_le_milliseconds
  unfold display
  split
  · exact parse_milliseconds value
  · exact parse_toText (by omega)

/-- Displays are alike exactly for the same whole number of milliseconds. -/
theorem display_eq_iff {left right : Duration}
    : left.display = right.display ↔ left.milliseconds = right.milliseconds := by
  constructor
  · intro alike
    have read := parse_display left
    rw [alike, parse_display right] at read
    have value := right.truncated_toInt
    rw [Except.ok.inj read, left.truncated_toInt] at value
    omega
  · intro same
    have leftWords := left.second_le_milliseconds
    have rightWords := right.second_le_milliseconds
    have truncated : left.truncated = right.truncated := by
      rw [Duration.truncated, same, Duration.truncated]
    have words : left.ns.toInt < 1000000000 ↔ right.ns.toInt < 1000000000 := by omega
    simp only [display, words, same, truncated]

/-- A display loses only what is less than a millisecond: it can be read again and gives the
duration cut toward zero to a whole number of milliseconds. So the order of durations is kept, and
two of them are shown alike exactly when they are cut to the same millisecond.
-/
theorem display_read_back (left right : Duration)
    : ∃ leftRead rightRead,
        parse left.display = .ok leftRead
        ∧ parse right.display = .ok rightRead
        ∧ leftRead.ns.toInt = left.ns.toInt.tdiv 1000000 * 1000000
        ∧ rightRead.ns.toInt = right.ns.toInt.tdiv 1000000 * 1000000
        ∧ (left.ns ≤ right.ns → leftRead.ns ≤ rightRead.ns)
        ∧ (left.display = right.display
          ↔ left.ns.toInt.tdiv 1000000 = right.ns.toInt.tdiv 1000000) := by
  refine ⟨left.truncated, right.truncated, parse_display left, parse_display right,
    left.truncated_toInt, right.truncated_toInt, ?_, display_eq_iff⟩
  intro ordered
  rw [Int64.le_iff_toInt_le] at ordered ⊢
  have cut : left.milliseconds ≤ right.milliseconds := Int.tdiv_le_tdiv (by decide) ordered
  rw [left.truncated_toInt, right.truncated_toInt]
  omega

/-- The least duration is cut toward zero, and so is one that would fill up its minute if it were
rounded.
-/
theorem display_read_back_carry
    : (Int64.minValue : Int64) ≤ 59999900000
      ∧ (⟨Int64.minValue⟩ : Duration).display = "-9223372036854ms"
      ∧ (⟨59999900000⟩ : Duration).display = "59.999s"
      ∧ ∃ leftRead rightRead,
        parse "-9223372036854ms" = .ok leftRead
        ∧ parse "59.999s" = .ok rightRead
        ∧ leftRead.ns.toInt = -9223372036854000000
        ∧ rightRead.ns.toInt = 59999000000
        ∧ leftRead.ns ≤ rightRead.ns := by
  have ordered : (Int64.minValue : Int64) ≤ 59999900000 := by decide
  have left : (⟨Int64.minValue⟩ : Duration).display = "-9223372036854ms" := by decide +kernel
  have right : (⟨59999900000⟩ : Duration).display = "59.999s" := by decide +kernel
  obtain ⟨leftRead, rightRead, readLeft, readRight, valueLeft, valueRight, order, _⟩ :=
    display_read_back ⟨Int64.minValue⟩ ⟨59999900000⟩
  rw [left] at readLeft
  rw [right] at readRight
  exact ⟨ordered, left, right, leftRead, rightRead, readLeft, readRight,
    valueLeft.trans (by decide +kernel), valueRight.trans (by decide +kernel), order ordered⟩

end GoldenSuite.Duration

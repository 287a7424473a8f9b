import GoldenSuite.Duration
import GoldenSuite.Proofs.Duration.Fractions
import GoldenSuite.Proofs.Text.Reading
import Mathlib

/-! Durations in words are rows of terms, each a number and its unit. A term is read up to where the
next one starts, so that a row which is written for a span of a second or more adds up to it.
-/

namespace GoldenSuite.Duration

-----------------------------------------------------------------------------------------
-- Numbers and units
-----------------------------------------------------------------------------------------

theorem isDigit_eq (c : Char) : isDigit c = c.isDigit := by
  rw [Bool.eq_iff_iff, ← Text.isDigit_iff]
  simp [isDigit]

theorem isDigit_of_mem_toDigits {n : Nat} {c : Char} (member : c ∈ Nat.toDigits 10 n)
    : isDigit c = true := by
  rw [isDigit_eq]
  exact Nat.isDigit_of_mem_toDigits (by decide) (by decide) member

theorem digitsValue_toDigits (n : Nat) : digitsValue (Nat.toDigits 10 n) = n := by
  have read : digitsValue (Nat.toDigits 10 n) = Nat.ofDigitChars 10 (Nat.toDigits 10 n) 0 := by
    rw [digitsValue, Nat.ofDigitChars_eq_foldl]
    simp only [Nat.mul_comm]
    rfl
  rw [read, Nat.ofDigitChars_toDigits (by decide) (by decide)]

/-- A number ends where something else than a digit follows. -/
theorem cut_toDigits (n : Nat) {rest : List Char} (stops : ∀ c ∈ rest.head?, isDigit c = false)
    : (Nat.toDigits 10 n ++ rest).takeWhile isDigit = Nat.toDigits 10 n
      ∧ (Nat.toDigits 10 n ++ rest).dropWhile isDigit = rest :=
  Text.cut_append (fun _ => isDigit_of_mem_toDigits) stops

/-- A unit as it is written: one of the known ones, without points and digits. -/
structure IsUnit (text : List Char) (size : Nat) : Prop where
  known : unitSize? (String.ofList text) = some size
  positive : 0 < size
  nonempty : text ≠ []
  bare : ∀ c ∈ text, c ≠ '.' ∧ isDigit c = false

/-- Every known unit has a size and is written without points and digits. -/
theorem isUnit_of_known (unit : String) {size : Nat} (known : unitSize? unit = some size)
    : IsUnit unit.toList size := by
  have member := Text.mem_of_lookup known
  simp only [List.mem_cons, Prod.mk.injEq, List.not_mem_nil, or_false] at member
  rcases member with ⟨rfl, rfl⟩ | ⟨rfl, rfl⟩ | ⟨rfl, rfl⟩ | ⟨rfl, rfl⟩ | ⟨rfl, rfl⟩ | ⟨rfl, rfl⟩
    | ⟨rfl, rfl⟩ | ⟨rfl, rfl⟩
  all_goals
    exact ⟨by rwa [String.ofList_toList], by simp, by simp, by simp [isDigit]⟩

theorem isUnit_milliseconds : IsUnit ['m', 's'] 1000000 :=
  isUnit_of_known "ms" rfl

theorem isUnit_seconds : IsUnit ['s'] 1000000000 :=
  isUnit_of_known "s" rfl

theorem isUnit_minutes : IsUnit ['m'] 60000000000 :=
  isUnit_of_known "m" rfl

theorem isUnit_hours : IsUnit ['h'] 3600000000000 :=
  isUnit_of_known "h" rfl

/-- A text that can follow a unit: nothing, or the next number. -/
def Follows (rest : List Char) : Prop :=
  ∀ c ∈ rest.head?, isDigit c = true

theorem follows_nil : Follows [] := by
  simp [Follows]

theorem follows_toDigits (n : Nat) (rest : List Char) : Follows (Nat.toDigits 10 n ++ rest) := by
  intro c first
  refine isDigit_of_mem_toDigits (n := n) (List.mem_of_mem_head? ?_)
  rwa [List.head?_append_of_ne_nil _ Nat.toDigits_ne_nil] at first

/-- A unit ends where the next number starts. -/
theorem IsUnit.cut {unit rest : List Char} {size : Nat} (isUnit : IsUnit unit size)
    (follows : Follows rest)
    : (unit ++ rest).takeWhile (fun c => c ≠ '.' && !isDigit c) = unit
      ∧ (unit ++ rest).dropWhile (fun c => c ≠ '.' && !isDigit c) = rest := by
  refine Text.cut_append ?_ ?_
  · intro c member
    obtain ⟨noPoint, noDigit⟩ := isUnit.bare c member
    simp [noPoint, noDigit]
  · intro c first
    simp [follows c first]

/-- A number ends where its unit starts. -/
theorem IsUnit.ends {unit : List Char} {size : Nat} (isUnit : IsUnit unit size)
    (rest : List Char)
    : (∀ more, unit ++ rest ≠ '.' :: more) ∧ ∀ c ∈ (unit ++ rest).head?, isDigit c = false := by
  obtain ⟨first, others, rfl⟩ := List.exists_cons_of_ne_nil isUnit.nonempty
  obtain ⟨noPoint, noDigit⟩ := isUnit.bare first List.mem_cons_self
  simp [noPoint, noDigit]

/-- A number of units that is in range is so before it is multiplied. -/
theorem IsUnit.number_le {unit : List Char} {n size : Nat} (isUnit : IsUnit unit size)
    (fits : n * size ≤ limit)
    : n ≤ limit / size ∧ n ≤ limit := by
  have number : n ≤ limit / size := (Nat.le_div_iff_mul_le isUnit.positive).mpr fits
  exact ⟨number, number.trans (Nat.div_le_self limit size)⟩

-----------------------------------------------------------------------------------------
-- Terms
-----------------------------------------------------------------------------------------

/-- A whole number and a unit are read up to the next number. -/
theorem term_whole {n size : Nat} {unit rest : List Char} (isUnit : IsUnit unit size)
    (follows : Follows rest) (fits : n * size ≤ limit)
    : term (Nat.toDigits 10 n ++ (unit ++ rest)) = .ok (n * size, rest) := by
  obtain ⟨noPoint, noDigit⟩ := isUnit.ends rest
  obtain ⟨whole, afterWhole⟩ := cut_toDigits n noDigit
  obtain ⟨unitCut, restCut⟩ := isUnit.cut follows
  obtain ⟨number, small⟩ := isUnit.number_le fits
  -- `noPoint` decides whether a fraction follows, so that the unit is next.
  simp only [term, whole, afterWhole, unitCut, restCut, digitsValue_toDigits, isUnit.known,
    leadingFraction]
  simp [Nat.not_lt.mpr small, Nat.not_lt.mpr number, Nat.not_lt.mpr fits, isUnit.nonempty,
    Nat.toDigits_ne_nil]

/-- A fraction of a second is read together with the whole seconds before the point. -/
theorem term_fraction {n value : Nat} (positive : 0 < value) (small : value < 10 ^ 9)
    (fits : n * 1000000000 + value ≤ limit)
    : term (Nat.toDigits 10 n ++ '.' :: (fractionDigits 9 value ++ ['s']))
      = .ok (n * 1000000000 + value, []) := by
  have writes := writesFraction_fractionDigits positive small
  have decimal : ∀ c ∈ fractionDigits 9 value, isDigit c = true :=
    fun c member => (isDigit_eq c).trans (writes.decimal c member)
  have point : ∀ c ∈ ('.' :: (fractionDigits 9 value ++ ['s'])).head?, isDigit c = false := by
    simp [isDigit]
  have unit : ∀ c ∈ ['s'].head?, isDigit c = false := by
    simp [isDigit]
  obtain ⟨whole, afterWhole⟩ := cut_toDigits n point
  obtain ⟨fraction, afterFraction⟩ := Text.cut_append decimal unit
  obtain ⟨unitCut, restCut⟩ := isUnit_seconds.cut follows_nil
  rw [List.append_nil] at unitCut restCut
  obtain ⟨read, places, leading, nonzero, isValue⟩ := writes.read positive small
  obtain ⟨number, smallNumber⟩ :=
    isUnit_seconds.number_le ((Nat.le_add_right _ value).trans fits)
  simp only [term, whole, afterWhole, fraction, afterFraction, unitCut, restCut,
    digitsValue_toDigits, isUnit_seconds.known, leading, isValue]
  simp [Nat.not_lt.mpr smallNumber, Nat.not_lt.mpr number, Nat.not_lt.mpr fits,
    Nat.toDigits_ne_nil, nonzero]

/-- A number of nanoseconds written in seconds is read without loss. -/
theorem term_seconds {n : Nat} (fits : n ≤ limit)
    : term ((decimal 9 n).toList ++ ['s']) = .ok (n, []) := by
  have parts : n / 10 ^ 9 * 1000000000 + n % 10 ^ 9 = n := Nat.div_add_mod' n _
  by_cases zero : n % 10 ^ 9 = 0
  · have text : decimal 9 n = toString (n / 10 ^ 9) := by
      simp only [decimal, Nat.pow_eq, zero]
    rw [zero, Nat.add_zero] at parts
    have read := term_whole isUnit_seconds follows_nil (parts.le.trans fits)
    rw [parts, List.append_nil] at read
    rw [text, Nat.toString_eq_repr, Nat.toList_repr, read]
  · have small : n % 10 ^ 9 < 10 ^ 9 := Nat.mod_lt n (by decide)
    have text : decimal 9 n
        = toString (n / 10 ^ 9) ++ "." ++ String.ofList (fractionDigits 9 (n % 10 ^ 9)) := by
      simp only [decimal, Nat.pow_eq]
    have read := term_fraction (Nat.pos_of_ne_zero zero) small (parts.le.trans fits)
    rw [parts] at read
    simpa [text, Nat.toString_eq_repr] using read

-----------------------------------------------------------------------------------------
-- Sums
-----------------------------------------------------------------------------------------

/-- A row of terms, each of which starts with a digit, and the sum of its values. -/
inductive Sums : List Char → Nat → Prop where
  | nil : Sums [] 0
  | cons {text rest : List Char} {value total : Nat} (starts : Follows text)
      (read : term text = .ok (value, rest)) (shorter : rest.length < text.length)
      (others : Sums rest total)
      : Sums text (value + total)

theorem Sums.follows {text : List Char} {total : Nat} : Sums text total → Follows text
  | .nil => follows_nil
  | .cons starts _ _ _ => starts

/-- A row of terms is read to its end, since a step of the reader is left for each character. -/
theorem Sums.terms {text : List Char} {total : Nat} (sums : Sums text total) {fuel sum : Nat}
    (enough : text.length ≤ fuel) (fits : sum + total ≤ limit)
    : terms fuel text sum = .ok (sum + total) := by
  induction sums generalizing fuel sum with
  | nil => simp [Duration.terms]
  | @cons text rest value total _ read shorter _ ih =>
      obtain ⟨c, others, rfl⟩ := List.exists_cons_of_length_pos (Nat.zero_lt_of_lt shorter)
      obtain ⟨fuel, rfl⟩ : ∃ fewer, fuel = fewer + 1 := Nat.exists_eq_add_one.mpr (by grind)
      have now : ¬limit < sum + value := by omega
      have next : Duration.terms fuel rest (sum + value) = .ok (sum + value + total) :=
        ih (by grind) (by omega)
      simp only [Duration.terms, read, bind, Except.bind, if_neg now, next, Nat.add_assoc]

/-- A row of terms is longer than a bare zero. -/
theorem Sums.ne_bareZero {text : List Char} {total : Nat} (sums : Sums text total)
    : text ≠ ['0'] := by
  rintro rfl
  cases sums with
  | cons _ read _ _ =>
      simp [term, isDigit, digitsValue, limit] at read

theorem Sums.ne_nil {text : List Char} {total : Nat} (sums : Sums text total)
    (positive : 0 < total)
    : text ≠ [] := by
  rintro rfl
  cases sums with
  | nil => exact Nat.lt_irrefl 0 positive
  | cons _ _ shorter _ => exact Nat.not_lt_zero _ shorter

/-- Digits are no sign. -/
theorem signed_of_digit {c : Char} {rest : List Char} (digit : isDigit c = true)
    : signed (c :: rest) = (false, c :: rest) := by
  have noMinus : c ≠ '-' := by
    rintro rfl
    simp [isDigit] at digit
  have noPlus : c ≠ '+' := by
    rintro rfl
    simp [isDigit] at digit
  simp_all [signed]

/-- A row of terms with a sign is read as the duration whose magnitude they add up to. -/
theorem Sums.parse {body : List Char} {d : Duration} {text : String}
    (sums : Sums body d.ns.toInt.natAbs) (nonempty : body ≠ [])
    (written : text.toList = if d.ns.toInt < 0 then '-' :: body else body)
    : parse text = .ok d := by
  have lower := d.ns.le_toInt
  have upper := d.ns.toInt_lt
  have same : Int64.ofInt d.ns.toInt = d.ns := Int64.ofInt_toInt d.ns
  have fits : 0 + d.ns.toInt.natAbs ≤ limit := by
    rw [limit]
    omega
  have read := sums.terms (Nat.le_refl body.length) fits
  rw [Nat.zero_add] at read
  have bodyNonempty : ¬body.isEmpty = true := by
    simpa using nonempty
  by_cases negative : d.ns.toInt < 0
  · have sign : signed text.toList = (true, body) := by
      rw [written, if_pos negative, signed]
    have back : -Int.ofNat d.ns.toInt.natAbs = d.ns.toInt := by
      rw [Int.ofNat_eq_natCast]
      omega
    simp only [Duration.parse, sign, if_neg sums.ne_bareZero, if_neg bodyNonempty, read, if_true, back,
      same]
  · have sign : signed text.toList = (false, body) := by
      obtain ⟨c, others, rfl⟩ := List.exists_cons_of_ne_nil nonempty
      rw [written, if_neg negative, signed_of_digit (sums.follows c rfl)]
    have small : ¬limit ≤ d.ns.toInt.natAbs := by
      rw [limit]
      omega
    have back : Int64.ofNat d.ns.toInt.natAbs = d.ns := by
      rw [← Int64.ofInt_eq_ofNat, Int.natAbs_of_nonneg (by omega), same]
    simp only [Duration.parse, sign, if_neg sums.ne_bareZero, if_neg bodyNonempty, read,
      Bool.false_eq_true, if_false, if_neg small, back]

/-- A whole number with its unit goes before a row of terms. -/
theorem Sums.whole {n size total : Nat} {unit rest : List Char} (others : Sums rest total)
    (isUnit : IsUnit unit size) (fits : n * size ≤ limit)
    : Sums (Nat.toDigits 10 n ++ (unit ++ rest)) (n * size + total) := by
  refine .cons (follows_toDigits n _) (term_whole isUnit others.follows fits) ?_ others
  have := List.length_pos_of_ne_nil isUnit.nonempty
  simp only [List.length_append]
  omega

/-- Seconds with a fraction are a row of one term. -/
theorem Sums.seconds {n : Nat} (fits : n ≤ limit) : Sums ((decimal 9 n).toList ++ ['s']) n := by
  have starts : ∃ more, (decimal 9 n).toList ++ ['s'] = Nat.toDigits 10 (n / 10 ^ 9) ++ more := by
    unfold decimal
    split <;> simp [Nat.toString_eq_repr]
  obtain ⟨more, text⟩ := starts
  exact .cons (text ▸ follows_toDigits _ more) (term_seconds fits) (by simp) .nil

/-- A span of a second or more is written as a row of terms that adds up to it. -/
theorem sums_magnitudeText {n : Nat} (large : 1000000000 ≤ n) (fits : n ≤ limit)
    : Sums (magnitudeText n).toList n := by
  generalize minutesEq : n / 60000000000 = minutes
  generalize restEq : n % 60000000000 = rest
  have parts : minutes * 60000000000 + rest = n := by
    rw [← minutesEq, ← restEq, Nat.div_add_mod']
  have seconds : Sums ((decimal 9 rest).toList ++ ['s']) rest := .seconds (by omega)
  have words : ¬n = 0 ∧ ¬n < 1000 ∧ ¬n < 1000000 ∧ ¬n < 1000000000 := by omega
  unfold magnitudeText
  simp only [words, if_false, minutesEq, restEq]
  split
  · rename_i none
    have all : n = rest := by omega
    rw [all]
    simpa using seconds
  · split
    · have text := seconds.whole isUnit_minutes (n := minutes) (by omega)
      simpa [parts, Nat.toString_eq_repr] using text
    · have hours : minutes / 60 * 60 + minutes % 60 = minutes := Nat.div_add_mod' minutes 60
      generalize minutes / 60 = hour, minutes % 60 = minute at hours ⊢
      have all : hour * 3600000000000 + (minute * 60000000000 + rest) = n := by
        rw [← parts, ← hours]
        ring
      have fitsMinute : minute * 60000000000 ≤ limit := by omega
      have fitsHour : hour * 3600000000000 ≤ limit :=
        (Nat.le_add_right _ _).trans (all.le.trans fits)
      have text := (seconds.whole isUnit_minutes fitsMinute).whole isUnit_hours fitsHour
      simpa [all, Nat.toString_eq_repr] using text

end GoldenSuite.Duration

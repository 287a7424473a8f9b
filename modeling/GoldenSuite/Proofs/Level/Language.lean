import GoldenSuite.Log
import GoldenSuite.Proofs.Text.Reading
import Mathlib

/-! The texts that are levels. Two names stand alone and are matched in lower case; the others are
matched in upper case and may carry an offset, a signed decimal integer of 64 bits. No text is of
both kinds, although the two case mappings do not undo each other.
-/

namespace GoldenSuite

-----------------------------------------------------------------------------------------
-- Case mappings
-----------------------------------------------------------------------------------------

namespace Text.CaseMap

/-- A stretch that moves a code point to an image other than zero finds it back from the image. -/
theorem Run.origin?_move {run : Run} {code image : Nat} (covers : run.covers code = true)
    (moves : run.move code = image) (nonzero : image ≠ 0)
    : run.origin? image = some code := by
  have back : (Int.ofNat image - run.delta).toNat = code := by
    simp only [move, Int.ofNat_eq_natCast] at moves ⊢
    omega
  simp only [origin?, back, covers, moves, decide_true, Bool.and_self, if_true]

/-- A mapping takes to a character, besides perhaps itself, only what one of its stretches moves
there.
-/
theorem of_apply_eq {runs : List Run} {c image : Char} (nonzero : image.toNat ≠ 0)
    (mapped : apply runs c = image)
    : c = image ∨ c.toNat ∈ runs.filterMap (·.origin? image.toNat) := by
  unfold apply at mapped
  split at mapped
  · rename_i run found
    right
    have moves : run.move c.toNat = image.toNat := by
      have code := congrArg Char.toNat mapped
      rw [Char.toNat_ofNat] at code
      split at code
      · exact code
      · exact absurd code.symm nonzero
    exact List.mem_filterMap.mpr ⟨run, List.mem_of_find?_eq_some found,
      Run.origin?_move (by simpa using List.find?_some found) moves nonzero⟩
  · exact .inl mapped

/-- Only the two case forms of a letter have it as their lower case form. -/
theorem upper_of_lower {c small capital : Char} (nonzero : small.toNat ≠ 0)
    (origins : lowerRuns.filterMap (·.origin? small.toNat) = [capital.toNat])
    (upperSmall : upper small = capital) (upperCapital : upper capital = capital)
    (lowered : lower c = small)
    : upper c = capital := by
  rcases of_apply_eq nonzero lowered with rfl | member
  · exact upperSmall
  · rw [origins, List.mem_singleton] at member
    rw [Char.toNat_inj.mp member, upperCapital]

theorem upper_of_lower_t {c : Char} (lowered : lower c = 't') : upper c = 'T' :=
  upper_of_lower (by decide) (by decide +kernel) (by decide) (by decide) lowered

theorem upper_of_lower_c {c : Char} (lowered : lower c = 'c') : upper c = 'C' :=
  upper_of_lower (by decide) (by decide +kernel) (by decide) (by decide) lowered

end Text.CaseMap

-----------------------------------------------------------------------------------------
-- Offsets
-----------------------------------------------------------------------------------------

namespace Level

open Text.CaseMap (lower upper lowerText upperText upper_of_lower_t upper_of_lower_c)

/-- The texts of offsets and their values: none at all, or a sign and digits, with a value of 64
bits.
-/
inductive IsOffset : List Char → Int → Prop where
  | none : IsOffset [] 0
  | plus {digits : List Char} (nonempty : digits ≠ []) (decimal : ∀ c ∈ digits, c.isDigit = true)
      (fits : Nat.ofDigitChars 10 digits 0 < 2 ^ 63)
    : IsOffset ('+' :: digits) (Nat.ofDigitChars 10 digits 0)
  | minus {digits : List Char} (nonempty : digits ≠ []) (decimal : ∀ c ∈ digits, c.isDigit = true)
      (fits : Nat.ofDigitChars 10 digits 0 ≤ 2 ^ 63)
    : IsOffset ('-' :: digits) (-(Nat.ofDigitChars 10 digits 0 : Int))

/-- Digits are read exactly if all are digits and the value has 64 bits, by induction over them:
a value that has grown too large on the way does not become smaller again.
-/
theorem magnitude_eq_ok_iff {digits : List Char} {value n : Nat} (fits : value < 2 ^ 64)
    : magnitude value digits = .ok n
      ↔ (∀ c ∈ digits, c.isDigit = true)
        ∧ Nat.ofDigitChars 10 digits value = n
        ∧ n < 2 ^ 64 := by
  induction digits generalizing value with
  | nil =>
      simp only [magnitude, Except.ok.injEq, Nat.ofDigitChars_nil]
      constructor
      · rintro rfl
        exact ⟨by simp, rfl, fits⟩
      · exact fun read => read.2.1
  | cons c rest ih =>
      have next : Nat.ofDigitChars 10 (c :: rest) value
          = Nat.ofDigitChars 10 rest (value * 10 + (c.toNat - '0'.toNat)) := by
        rw [Nat.ofDigitChars_cons, Nat.mul_comm]
      rw [magnitude, next, List.forall_mem_cons, ← Text.isDigit_iff]
      by_cases digit : '0' ≤ c ∧ c ≤ '9'
      · rw [if_pos digit]
        dsimp only
        split
        · rename_i large
          constructor
          · intro read
            cases read
          · rintro ⟨_, rfl, small⟩
            have grown := Text.le_ofDigitChars rest (value * 10 + (c.toNat - '0'.toNat))
            omega
        · rename_i small
          rw [ih (by omega), and_iff_right digit]
      · rw [if_neg digit]
        constructor
        · intro read
          cases read
        · exact fun read => absurd read.1.1 digit

/-- A sign and digits are read in three steps: there are digits, they are read, and the value with
its sign has 64 bits.
-/
theorem integer_plus {digits : List Char} {n : Int}
    : integer ('+' :: digits) = .ok n
      ↔ digits ≠ []
        ∧ ∃ value : Nat, magnitude 0 digits = .ok value ∧ value < 2 ^ 63 ∧ value = n := by
  by_cases empty : digits = []
  · simp [integer, empty]
  · cases read : magnitude 0 digits with
    | error e => simp [integer, empty, read]
    | ok value =>
        by_cases large : 9223372036854775808 ≤ value
        · simp [integer, empty, read, large]
        · have small := Nat.lt_of_not_le large
          simp [integer, empty, read, large, small]

theorem integer_minus {digits : List Char} {n : Int}
    : integer ('-' :: digits) = .ok n
      ↔ digits ≠ []
        ∧ ∃ value : Nat, magnitude 0 digits = .ok value ∧ value ≤ 2 ^ 63 ∧ -(value : Int) = n := by
  by_cases empty : digits = []
  · simp [integer, empty]
  · cases read : magnitude 0 digits with
    | error e => simp [integer, empty, read]
    | ok value =>
        by_cases large : 9223372036854775808 < value
        · simp [integer, empty, read, large]
        · have small := Nat.le_of_not_lt large
          simp [integer, empty, read, large, small]

/-- A text that starts with a sign is read exactly if it is an offset. -/
theorem integer_eq_ok_iff {sign : Char} {digits : List Char} {n : Int}
    (isSign : startsOffset sign = true)
    : integer (sign :: digits) = .ok n ↔ IsOffset (sign :: digits) n := by
  have read {value : Nat} : magnitude 0 digits = .ok value ↔ _ := magnitude_eq_ok_iff (by decide)
  simp only [startsOffset, Bool.or_eq_true, decide_eq_true_eq] at isSign
  rcases isSign with rfl | rfl
  · rw [integer_plus]
    constructor
    · rintro ⟨nonempty, value, parsed, fits, rfl⟩
      obtain ⟨decimal, rfl, _⟩ := read.mp parsed
      exact .plus nonempty decimal fits
    · intro offset
      cases offset with
      | plus nonempty decimal fits =>
          exact ⟨nonempty, _, read.mpr ⟨decimal, rfl, by omega⟩, fits, rfl⟩
  · rw [integer_minus]
    constructor
    · rintro ⟨nonempty, value, parsed, fits, rfl⟩
      obtain ⟨decimal, rfl, _⟩ := read.mp parsed
      exact .minus nonempty decimal fits
    · intro offset
      cases offset with
      | minus nonempty decimal fits =>
          exact ⟨nonempty, _, read.mpr ⟨decimal, rfl, by omega⟩, fits, rfl⟩

-----------------------------------------------------------------------------------------
-- Names
-----------------------------------------------------------------------------------------

/-- The values of the names that take an offset. -/
def namedValues : List (String × Int) :=
  [("DEBUG", -4), ("INFO", 0), ("WARN", 4), ("ERROR", 8)]

/-- A name that is matched in upper case, and an offset that starts at the first sign of the text.
The value is that of the name and the offset, modulo 64 bits.
-/
def IsNamed (text : String) (value : Int) : Prop :=
  ∃ name offset base amount,
    text = name ++ offset
    ∧ (∀ c ∈ name.toList, c ≠ '+' ∧ c ≠ '-')
    ∧ (upperText name, base) ∈ namedValues
    ∧ IsOffset offset.toList amount
    ∧ value = (base + amount).bmod (2 ^ 64)

/-- A level is its value. -/
theorem ext_toInt {left right : Level} (same : left.value.toInt = right.value.toInt)
    : left = right := by
  cases left
  cases right
  exact congrArg mk (Int64.toInt_inj.mp same)

/-- A level is found for each listed name, and its value is the listed one. -/
theorem named?_of_mem {name : String} {base : Int} (member : (name, base) ∈ namedValues)
    : named? name = some ⟨Int64.ofInt base⟩ ∧ (Int64.ofInt base).toInt = base := by
  have listed : ∀ entry ∈ namedValues,
      named? entry.1 = some ⟨Int64.ofInt entry.2⟩ ∧ (Int64.ofInt entry.2).toInt = entry.2 := by
    decide
  exact listed _ member

/-- The names that take an offset, and their levels. -/
theorem named?_eq_some_iff {name : String} {level : Level}
    : named? name = some level ↔ (name, level.value.toInt) ∈ namedValues := by
  constructor
  · intro found
    have member := Text.mem_of_lookup found
    simp only [List.mem_cons, Prod.mk.injEq, List.not_mem_nil, or_false] at member
    rcases member with ⟨rfl, rfl⟩ | ⟨rfl, rfl⟩ | ⟨rfl, rfl⟩ | ⟨rfl, rfl⟩ <;> decide
  · intro member
    rw [(named?_of_mem member).1, Int64.ofInt_toInt]

/-- Shifting a level adds the offset modulo 64 bits. -/
theorem toInt_shift (level : Level) (offset : Int)
    : (level.shift offset).value.toInt = (level.value.toInt + offset).bmod (2 ^ 64) := by
  rw [shift, Int64.toInt_add, Int64.toInt_ofInt]
  exact Int.add_bmod_bmod

/-- An offset is empty or starts with a sign. -/
theorem IsOffset.starts {offset : List Char} {amount : Int} (isOffset : IsOffset offset amount)
    : ∀ c ∈ offset.head?, startsOffset c = true := by
  cases isOffset <;> simp [startsOffset]

/-- A name without signs and an offset are told apart at the first sign of their text. -/
theorem cut_of_offset {name offset : List Char} {amount : Int}
    (unsigned : ∀ c ∈ name, c ≠ '+' ∧ c ≠ '-') (isOffset : IsOffset offset amount)
    : (name ++ offset).takeWhile (fun c => !startsOffset c) = name
      ∧ (name ++ offset).dropWhile (fun c => !startsOffset c) = offset := by
  refine Text.cut_append ?_ ?_
  · intro c member
    simp [startsOffset, unsigned c member]
  · intro c first
    simp [isOffset.starts c first]

/-- What is left of a text from its first sign on is read exactly if it is an offset. -/
theorem amount_eq_ok_iff {offset : List Char} {amount : Int}
    (starts : ∀ c ∈ offset.head?, startsOffset c = true)
    : (if offset.isEmpty then .ok 0
        else (integer offset).mapError (ParseError.badOffset (String.ofList offset)))
        = .ok amount
      ↔ IsOffset offset amount := by
  cases offset with
  | nil =>
      constructor
      · rintro ⟨⟩
        exact .none
      · rintro ⟨⟩
        rfl
  | cons sign digits =>
      rw [← integer_eq_ok_iff (starts sign rfl), if_neg (by simp)]
      cases integer (sign :: digits) <;> simp [Except.mapError]

/-- Names with offsets, and nothing else, are read as such. -/
theorem parseNamed_eq_ok_iff {text : String} {level : Level}
    : parseNamed text = .ok level ↔ IsNamed text level.value.toInt := by
  constructor
  · intro parsed
    unfold parseNamed at parsed
    generalize takes : text.toList.takeWhile (fun c => !startsOffset c) = name at parsed
    generalize drops : text.toList.dropWhile (fun c => !startsOffset c) = offset at parsed
    have starts : ∀ c ∈ offset.head?, startsOffset c = true := by
      intro c first
      have head := List.head?_dropWhile_not (fun c => !startsOffset c) text.toList
      rw [drops, Option.mem_def.mp first] at head
      simpa using head
    dsimp only at parsed
    split at parsed
    · cases parsed
    · rename_i amount read
      split at parsed
      · rename_i base named
        cases parsed
        refine ⟨String.ofList name, String.ofList offset, _, amount, ?_, ?_,
          named?_eq_some_iff.mp named, ?_, toInt_shift base amount⟩
        · rw [← String.ofList_append, ← takes, ← drops, List.takeWhile_append_dropWhile,
            String.ofList_toList]
        · intro c member
          rw [String.toList_ofList, ← takes] at member
          have unsigned := List.mem_takeWhile_imp member
          simpa [startsOffset] using unsigned
        · rw [String.toList_ofList]
          exact (amount_eq_ok_iff starts).mp read
      · cases parsed
  · rintro ⟨name, offset, base, amount, rfl, unsigned, named, isOffset, value⟩
    obtain ⟨cutName, cutOffset⟩ := cut_of_offset unsigned isOffset
    obtain ⟨found, exact⟩ := named?_of_mem named
    have read := (amount_eq_ok_iff isOffset.starts).mpr isOffset
    rw [String.ofList_toList] at read
    simp only [parseNamed, String.toList_append, cutName, cutOffset, String.ofList_toList, read,
      found]
    refine congrArg Except.ok (ext_toInt ?_)
    rw [toInt_shift, value, exact]

-----------------------------------------------------------------------------------------
-- Levels
-----------------------------------------------------------------------------------------

/-- A text with a name that takes an offset does not start with a letter of those that do not. -/
theorem IsNamed.first {text : String} {value : Int} (isNamed : IsNamed text value)
    : ∃ c rest, text.toList = c :: rest ∧ upper c ∈ ['D', 'I', 'W', 'E'] := by
  obtain ⟨name, offset, base, amount, rfl, _, named, _, _⟩ := isNamed
  have letters : ((upperText name).toList.head?).all (· ∈ ['D', 'I', 'W', 'E']) = true
      ∧ (upperText name).toList ≠ [] := by
    simp only [namedValues, List.mem_cons, Prod.mk.injEq, List.not_mem_nil, or_false] at named
    rcases named with ⟨same, _⟩ | ⟨same, _⟩ | ⟨same, _⟩ | ⟨same, _⟩ <;> rw [same] <;> decide
  rw [upperText, String.toList_map] at letters
  cases characters : name.toList with
  | nil => simp [characters] at letters
  | cons c rest =>
      have letter : upper c ∈ ['D', 'I', 'W', 'E'] := by
        simpa [characters] using letters
      exact ⟨c, rest ++ offset.toList, by simp [characters], letter⟩

/-- No text with a name that takes an offset is one of the names that stand alone. The two case
mappings do not undo each other, but all that is mapped to the first letter of such a name is mapped
to its capital.
-/
theorem IsNamed.lowerText_ne {text : String} {value : Int} (isNamed : IsNamed text value)
    : lowerText text ≠ "trace" ∧ lowerText text ≠ "crit" := by
  obtain ⟨c, rest, characters, letter⟩ := isNamed.first
  have lowered {word : String} (same : lowerText text = word)
      : word.toList = lower c :: rest.map lower := by
    rw [← same, lowerText, String.toList_map, characters, List.map_cons]
  constructor
  · intro same
    have first : lower c = 't' := (List.cons.inj (lowered same)).1.symm
    rw [upper_of_lower_t first] at letter
    exact absurd letter (by decide)
  · intro same
    have first : lower c = 'c' := (List.cons.inj (lowered same)).1.symm
    rw [upper_of_lower_c first] at letter
    exact absurd letter (by decide)

/-- Every text is a name that stands alone or is read as a name with an offset. -/
theorem parse_cases (text : String)
    : lowerText text = "trace" ∧ parse text = .ok trace
      ∨ lowerText text = "crit" ∧ parse text = .ok crit
      ∨ (lowerText text ≠ "trace" ∧ lowerText text ≠ "crit") ∧ parse text = parseNamed text := by
  unfold parse
  by_cases isTrace : lowerText text = "trace"
  · exact .inl ⟨isTrace, by rw [isTrace]; rfl⟩
  · by_cases isCrit : lowerText text = "crit"
    · exact .inr (.inl ⟨isCrit, by rw [isCrit]; rfl⟩)
    · have other : outer? (lowerText text) = none := by
        simp [outer?, List.lookup, beq_false_of_ne isTrace, beq_false_of_ne isCrit]
      exact .inr (.inr ⟨⟨isTrace, isCrit⟩, by rw [other]⟩)

/-- What is read as a name with an offset is read so although two other names are tried before. -/
theorem parse_eq_ok_of_parseNamed {text : String} {level : Level}
    (parsed : parseNamed text = .ok level)
    : parse text = .ok level := by
  obtain ⟨notTrace, notCrit⟩ := (parseNamed_eq_ok_iff.mp parsed).lowerText_ne
  rcases parse_cases text with ⟨isTrace, _⟩ | ⟨isCrit, _⟩ | ⟨_, same⟩
  · exact absurd isTrace notTrace
  · exact absurd isCrit notCrit
  · rw [same, parsed]

/-- The texts that are levels. -/
theorem parse_eq_ok_iff {text : String} {level : Level}
    : parse text = .ok level
      ↔ (lowerText text = "trace" ∧ level.value.toInt = -8)
        ∨ (lowerText text = "crit" ∧ level.value.toInt = 12)
        ∨ IsNamed text level.value.toInt := by
  constructor
  · intro parsed
    rcases parse_cases text with ⟨isTrace, same⟩ | ⟨isCrit, same⟩ | ⟨_, same⟩
    · obtain rfl := Except.ok.inj (same.symm.trans parsed)
      exact .inl ⟨isTrace, rfl⟩
    · obtain rfl := Except.ok.inj (same.symm.trans parsed)
      exact .inr (.inl ⟨isCrit, rfl⟩)
    · exact .inr (.inr (parseNamed_eq_ok_iff.mp (same.symm.trans parsed)))
  · rintro (⟨isTrace, value⟩ | ⟨isCrit, value⟩ | isNamed)
    · rw [parse, isTrace]
      exact congrArg Except.ok (ext_toInt value.symm)
    · rw [parse, isCrit]
      exact congrArg Except.ok (ext_toInt value.symm)
    · exact parse_eq_ok_of_parseNamed (parseNamed_eq_ok_iff.mpr isNamed)

/-- The value of a name with an offset is one that a level can have. -/
theorem IsNamed.exists_level {text : String} {value : Int} (isNamed : IsNamed text value)
    : ∃ level : Level, level.value.toInt = value := by
  obtain ⟨_, _, base, amount, _, _, _, _, rfl⟩ := isNamed
  exact ⟨⟨Int64.ofInt (base + amount)⟩, Int64.toInt_ofInt⟩

/-- The texts that are no levels. -/
theorem parse_fails_iff {text : String}
    : (∃ e, parse text = .error e)
      ↔ lowerText text ≠ "trace" ∧ lowerText text ≠ "crit" ∧ ∀ value, ¬IsNamed text value := by
  have accepted : (∃ level, parse text = .ok level)
      ↔ lowerText text = "trace" ∨ lowerText text = "crit" ∨ ∃ value, IsNamed text value := by
    simp only [parse_eq_ok_iff]
    constructor
    · rintro ⟨level, ⟨isTrace, _⟩ | ⟨isCrit, _⟩ | isNamed⟩
      · exact .inl isTrace
      · exact .inr (.inl isCrit)
      · exact .inr (.inr ⟨_, isNamed⟩)
    · rintro (isTrace | isCrit | ⟨value, isNamed⟩)
      · exact ⟨trace, .inl ⟨isTrace, rfl⟩⟩
      · exact ⟨crit, .inr (.inl ⟨isCrit, rfl⟩)⟩
      · obtain ⟨level, rfl⟩ := isNamed.exists_level
        exact ⟨level, .inr (.inr isNamed)⟩
  have refused : (∃ e, parse text = .error e) ↔ ¬∃ level, parse text = .ok level := by
    cases parse text <;> simp
  rw [refused, accepted]
  simp only [not_or, not_exists]

/-- Levels are read from exactly these texts: a name that stands alone, in any case that is mapped
to lower case; or a name in any case that is mapped to upper case, with an offset from the first
sign on, whose value is that of the name plus the offset modulo 64 bits. The names that stand alone
hide no text that is read as a name with an offset. On every other text reading fails; and there is
a logger exactly for the texts that are levels, with that level as its threshold.
-/
theorem parse_language (text : String)
    : (∀ level,
        parse text = .ok level
        ↔ (lowerText text = "trace" ∧ level.value.toInt = -8)
          ∨ (lowerText text = "crit" ∧ level.value.toInt = 12)
          ∨ IsNamed text level.value.toInt)
      ∧ (∀ level, parseNamed text = .ok level ↔ IsNamed text level.value.toInt)
      ∧ (∀ level, parseNamed text = .ok level → parse text = .ok level)
      ∧ (∀ value, IsNamed text value → lowerText text ≠ "trace" ∧ lowerText text ≠ "crit")
      ∧ ((∃ e, parse text = .error e)
        ↔ lowerText text ≠ "trace" ∧ lowerText text ≠ "crit" ∧ ∀ value, ¬IsNamed text value)
      ∧ ∀ colors clock,
          (∀ level,
            parse text = .ok level
            ↔ ∃ logger,
                Log.create text colors clock = .ok logger ∧ logger.threshold = level)
          ∧ ∀ e,
              parse text = .error e
              → Log.create text colors clock = .error (.plain (e.message text)) := by
  refine ⟨fun _ => parse_eq_ok_iff, fun _ => parseNamed_eq_ok_iff,
    fun _ => parse_eq_ok_of_parseNamed, fun _ isNamed => isNamed.lowerText_ne, parse_fails_iff, ?_⟩
  intro colors clock
  unfold Log.create
  cases parse text <;> simp

/-- The largest offset takes a level around to the lowest ones. -/
theorem isNamed_wrapped : IsNamed "warn+9223372036854775807" (-9223372036854775805) := by
  have warn : upperText "warn" = "WARN" := by
    apply String.toList_injective
    rw [upperText, String.toList_map]
    decide
  have digits : "+9223372036854775807".toList = '+' :: Nat.toDigits 10 9223372036854775807 := by
    decide +kernel
  have value : Nat.ofDigitChars 10 (Nat.toDigits 10 9223372036854775807) 0 = 9223372036854775807 :=
    Nat.ofDigitChars_toDigits (by decide) (by decide)
  have offset : IsOffset "+9223372036854775807".toList 9223372036854775807 := by
    rw [digits]
    have read := IsOffset.plus (Nat.toDigits_ne_nil (n := 9223372036854775807) (b := 10))
      (fun c member => Nat.isDigit_of_mem_toDigits (by decide) (by decide) member)
      (by rw [value]; norm_num)
    rwa [value] at read
  refine ⟨"warn", "+9223372036854775807", 4, _, by decide +kernel, by simp, ?_, offset, by rfl⟩
  rw [warn]
  decide

/-- A sum that wraps around is a level although it is lower than all names, and a name that stands
alone makes no logger with an offset.
-/
theorem parse_language_wrapped
    : (IsNamed "warn+9223372036854775807" (-9223372036854775805)
        ∧ parse "warn+9223372036854775807" = .ok ⟨-9223372036854775805⟩)
      ∧ ∃ e,
          parse "trace+1" = .error e
          ∧ Log.create "trace+1" false "" = .error (.plain (e.message "trace+1")) := by
  have parsed := ((parse_language "warn+9223372036854775807").2.1 ⟨-9223372036854775805⟩).mpr
    isNamed_wrapped
  obtain ⟨_, _, _, _, fails, logger⟩ := parse_language "trace+1"
  have lowered (word : String) (short : word.length < 7) : lowerText "trace+1" ≠ word := by
    rintro rfl
    rw [lowerText, String.length_map] at short
    exact absurd short (by decide)
  have unnamed : ∀ value, ¬IsNamed "trace+1" value := by
    intro value isNamed
    obtain ⟨c, rest, characters, letter⟩ := isNamed.first
    obtain rfl : 't' = c := (List.cons.inj characters).1
    exact absurd letter (by decide)
  obtain ⟨e, failed⟩ := fails.mpr ⟨lowered _ (by decide), lowered _ (by decide), unnamed⟩
  exact ⟨⟨isNamed_wrapped, (parse_language _).2.2.1 _ parsed⟩, e, failed,
    (logger false "").2 e failed⟩

end Level

end GoldenSuite

import GoldenSuite.TestCase

/-! An input goes to the program with the longest matching name. Matching is stated on whole
texts, without the search that finds it; two names of one length that match the same stem
are the same name, so the longest is unique.
-/

namespace GoldenSuite

-----------------------------------------------------------------------------------------
-- Matching names
-----------------------------------------------------------------------------------------

/-- An input stem matches a program name if it is the name, alone or before a dash. -/
def Matches (base stem : String) : Prop :=
  stem = base ∨ ∃ rest, stem = base ++ "-" ++ rest

/-- A name in question that matches a stem, and that no other such name exceeds in bytes. -/
structure LongestMatch (isBase : String → Prop) (stem base : String) : Prop where
  member : isBase base
  matching : Matches base stem
  longest
    : ∀ other, isBase other → Matches other stem → other.utf8ByteSize ≤ base.utf8ByteSize

/-- A matching name starts its stem; witness: the empty rest, or the rest from the dash on. -/
theorem Matches.exists_suffix {base stem : String} (matching : Matches base stem)
    : ∃ suffix, stem = base ++ suffix := by
  rcases matching with same | ⟨rest, text⟩
  · exact ⟨"", by simp [same]⟩
  · exact ⟨"-" ++ rest, by rw [text, String.append_assoc]⟩

/-- A matching name is no longer than its stem. -/
theorem Matches.size_le {base stem : String} (matching : Matches base stem)
    : base.utf8ByteSize ≤ stem.utf8ByteSize := by
  obtain ⟨suffix, rfl⟩ := matching.exists_suffix
  simp

/-- Every name matches itself as a stem. -/
theorem Matches.self (base : String) : Matches base base :=
  Or.inl rfl

/-- Of two starts of one text, the one that is no longer is a start of the other. -/
theorem exists_append_of_size_le {left right suffix more : String}
    (same : left ++ suffix = right ++ more) (size : left.utf8ByteSize ≤ right.utf8ByteSize)
    : ∃ between, right = left ++ between := by
  have texts : left.toList ++ suffix.toList = right.toList ++ more.toList := by
    rw [← String.toList_append, ← String.toList_append, same]
  rcases List.append_eq_append_iff.mp texts with ⟨between, text, _⟩ | ⟨between, text, _⟩
  · exact ⟨String.ofList between, String.toList_injective (by simpa using text)⟩
  · have longer : left = right ++ String.ofList between :=
      String.toList_injective (by simpa using text)
    have nothing : (String.ofList between).utf8ByteSize = 0 := by
      rw [longer, String.utf8ByteSize_append] at size
      omega
    have empty : String.ofList between = "" := String.utf8ByteSize_eq_zero_iff.mp nothing
    exact ⟨"", by simp [longer, empty]⟩

/-- Two matching names of one length are equal, since both start the stem. -/
theorem Matches.eq_of_size_eq {left right stem : String} (hl : Matches left stem)
    (hr : Matches right stem) (size : left.utf8ByteSize = right.utf8ByteSize)
    : left = right := by
  obtain ⟨suffix, text⟩ := hl.exists_suffix
  obtain ⟨more, text'⟩ := hr.exists_suffix
  obtain ⟨between, rfl⟩ := exists_append_of_size_le (text.symm.trans text') (Nat.le_of_eq size)
  have nothing : between.utf8ByteSize = 0 := by
    rw [String.utf8ByteSize_append] at size
    omega
  simp [String.utf8ByteSize_eq_zero_iff.mp nothing]

/-- At most one name is the longest match of a stem. -/
theorem LongestMatch.unique {isBase : String → Prop} {stem left right : String}
    (hl : LongestMatch isBase stem left) (hr : LongestMatch isBase stem right)
    : left = right :=
  hl.matching.eq_of_size_eq hr.matching
    (Nat.le_antisymm (hr.longest left hl.member hl.matching)
      (hl.longest right hr.member hr.matching))

/-- A name is the longest match of itself, because no match is longer than its stem. -/
theorem LongestMatch.self {isBase : String → Prop} {base : String} (member : isBase base)
    : LongestMatch isBase base base where
  member := member
  matching := .self base
  longest := fun _ _ matching => matching.size_le

/-- The longest match depends only on which names are in question. -/
theorem LongestMatch.congr {isBase isName : String → Prop}
    (same : ∀ base, isBase base ↔ isName base) {stem base : String}
    : LongestMatch isBase stem base ↔ LongestMatch isName stem base := by
  have equal : isBase = isName := funext fun base => propext (same base)
  rw [equal]

-----------------------------------------------------------------------------------------
-- The variant of one name
-----------------------------------------------------------------------------------------

/-- What follows a start is found exactly when the text begins so. -/
theorem afterStart?_eq_some_iff {start text rest : List Char}
    : afterStart? start text = some rest ↔ text = start ++ rest := by
  unfold afterStart?
  split
  · rename_i begins
    obtain ⟨tail, rfl⟩ := List.isPrefixOf_iff_prefix.mp begins
    simp
  · rename_i differs
    constructor
    · intro found
      cases found
    · intro text
      exact absurd (List.isPrefixOf_iff_prefix.mpr ⟨rest, text.symm⟩) differs

/-- The variant of a name is the rest of the stem, and there is one exactly for matches.
Witness: the two ways to match are the two branches of the search.
-/
theorem variantOf?_eq_some_iff {stem base suffix : String}
    : variantOf? stem base = some suffix ↔ Matches base stem ∧ stem = base ++ suffix := by
  unfold variantOf?
  split
  · rename_i same
    subst same
    constructor
    · intro found
      cases found
      exact ⟨.self stem, by simp⟩
    · rintro ⟨_, text⟩
      have empty : suffix = "" := by simpa using text.symm
      rw [empty]
  · rename_i differs
    rw [Option.map_eq_some_iff]
    constructor
    · rintro ⟨rest, found, rfl⟩
      have text : stem = base ++ "-" ++ String.ofList rest :=
        String.toList_injective (by simpa using afterStart?_eq_some_iff.mp found)
      refine ⟨Or.inr ⟨_, text⟩, ?_⟩
      rw [text, String.append_assoc]
      exact congrArg (base ++ ·) (String.toList_injective (by simp))
    · rintro ⟨matching, text⟩
      rcases matching with same | ⟨rest, dashed⟩
      · exact absurd same differs
      · refine ⟨rest.toList, afterStart?_eq_some_iff.mpr (by simp [dashed]), ?_⟩
        rw [dashed, String.append_assoc] at text
        rw [← (String.append_right_inj _).mp text]
        exact String.toList_injective (by simp)

/-- A name has no variant exactly when it does not match. -/
theorem variantOf?_eq_none_iff {stem base : String}
    : variantOf? stem base = none ↔ ¬ Matches base stem := by
  constructor
  · intro missing matching
    obtain ⟨suffix, text⟩ := matching.exists_suffix
    rw [variantOf?_eq_some_iff.mpr ⟨matching, text⟩] at missing
    cases missing
  · intro unmatched
    cases found : variantOf? stem base with
    | none => rfl
    | some suffix => exact absurd (variantOf?_eq_some_iff.mp found).1 unmatched

-----------------------------------------------------------------------------------------
-- Contending for an input
-----------------------------------------------------------------------------------------

/-- What a claim says about the names that have tried for a stem so far: none matches, or the
holder is the longest match and its suffix is the rest of the stem.
-/
def Claim.Settled (stem : String) (tried : List String) : Option Claim → Prop
  | none => ∀ base ∈ tried, ¬ Matches base stem
  | some claim => LongestMatch (· ∈ tried) stem claim.base ∧ stem = claim.base ++ claim.suffix

/-- One more name keeps the claim settled; witness: cases on whether it matches, and on
whether it is longer than the holder.
-/
theorem Claim.Settled.contend {stem : String} {tried : List String} {held : Option Claim}
    (settled : Claim.Settled stem tried held) (base : String)
    : Claim.Settled stem (tried ++ [base]) (Claim.contend stem held base) := by
  unfold Claim.contend
  cases found : variantOf? stem base with
  | none =>
      have unmatched := variantOf?_eq_none_iff.mp found
      cases held with
      | none =>
          intro other member
          rcases List.mem_append.mp member with earlier | last
          · exact settled other earlier
          · exact List.mem_singleton.mp last ▸ unmatched
      | some claim =>
          obtain ⟨best, text⟩ := settled
          refine ⟨⟨List.mem_append_left _ best.member, best.matching, ?_⟩, text⟩
          intro other member matching
          rcases List.mem_append.mp member with earlier | last
          · exact best.longest other earlier matching
          · exact absurd (List.mem_singleton.mp last ▸ matching) unmatched
  | some suffix =>
      obtain ⟨matched, rest⟩ := variantOf?_eq_some_iff.mp found
      cases held with
      | none =>
          refine ⟨⟨by simp, matched, ?_⟩, rest⟩
          intro other member matching
          rcases List.mem_append.mp member with earlier | last
          · exact absurd matching (settled other earlier)
          · exact List.mem_singleton.mp last ▸ Nat.le_refl _
      | some claim =>
          obtain ⟨best, text⟩ := settled
          dsimp only
          split
          · rename_i shorter
            refine ⟨⟨List.mem_append_left _ best.member, best.matching, ?_⟩, text⟩
            intro other member matching
            rcases List.mem_append.mp member with earlier | last
            · exact best.longest other earlier matching
            · exact List.mem_singleton.mp last ▸ shorter
          · rename_i longer
            refine ⟨⟨by simp, matched, ?_⟩, rest⟩
            intro other member matching
            rcases List.mem_append.mp member with earlier | last
            · have bound := best.longest other earlier matching
              dsimp only
              omega
            · exact List.mem_singleton.mp last ▸ Nat.le_refl _

/-- The contest leaves a settled claim, by induction over the names that still try. -/
theorem Claim.Settled.foldl {stem : String} {tried : List String} {held : Option Claim}
    (settled : Claim.Settled stem tried held) (bases : List String)
    : Claim.Settled stem (tried ++ bases) (bases.foldl (Claim.contend stem) held) := by
  induction bases generalizing tried held with
  | nil => simpa using settled
  | cons base rest ih =>
      have next := ih (settled.contend base)
      rw [List.append_assoc, List.singleton_append] at next
      exact next

/-- The claim of a stem is settled among all program names. -/
theorem claimOf?_settled (stem : String) (bases : List String)
    : Claim.Settled stem bases (claimOf? stem bases) := by
  have settled : Claim.Settled stem [] none := fun base member => absurd member List.not_mem_nil
  exact settled.foldl bases

/-- A program has claimed an input exactly when it is the longest match, and then the suffix is
the rest of the stem.
-/
theorem claimOf?_eq_some_iff {stem base suffix : String} {bases : List String}
    : claimOf? stem bases = some ⟨base, suffix⟩
      ↔ LongestMatch (· ∈ bases) stem base ∧ stem = base ++ suffix := by
  have settled := claimOf?_settled stem bases
  constructor
  · intro found
    rw [found] at settled
    exact settled
  · rintro ⟨best, text⟩
    cases found : claimOf? stem bases with
    | none =>
        rw [found] at settled
        exact absurd best.matching (settled base best.member)
    | some claim =>
        rw [found] at settled
        obtain ⟨holder, holderText⟩ := settled
        have same : claim.base = base := holder.unique best
        have rest : claim.suffix = suffix := by
          rw [same, text] at holderText
          exact ((String.append_right_inj _).mp holderText).symm
        rw [← same, ← rest]

/-- No program has claimed an input exactly when none matches. -/
theorem claimOf?_eq_none_iff {stem : String} {bases : List String}
    : claimOf? stem bases = none ↔ ∀ base ∈ bases, ¬ Matches base stem := by
  have settled := claimOf?_settled stem bases
  constructor
  · intro missing
    rw [missing] at settled
    exact settled
  · intro unmatched
    cases found : claimOf? stem bases with
    | none => rfl
    | some claim =>
        rw [found] at settled
        exact absurd settled.1.matching (unmatched claim.base settled.1.member)

/-- If any of the names matches a stem, one of them is the longest match. -/
theorem exists_longestMatch {stem base : String} {bases : List String} (member : base ∈ bases)
    (matching : Matches base stem)
    : ∃ best, LongestMatch (· ∈ bases) stem best := by
  have settled := claimOf?_settled stem bases
  cases found : claimOf? stem bases with
  | none =>
      rw [found] at settled
      exact absurd matching (settled base member)
  | some claim =>
      rw [found] at settled
      exact ⟨claim.base, settled.1⟩

-----------------------------------------------------------------------------------------
-- Contests in any order
-----------------------------------------------------------------------------------------

/-- The claim of a stem depends only on which names contend for it. Witness: both outcomes of a
contest are told apart by membership alone.
-/
theorem claimOf?_congr {stem : String} {left right : List String}
    (same : ∀ base, base ∈ left ↔ base ∈ right)
    : claimOf? stem left = claimOf? stem right := by
  cases found : claimOf? stem right with
  | none =>
      refine claimOf?_eq_none_iff.mpr ?_
      intro base member
      exact claimOf?_eq_none_iff.mp found base ((same base).mp member)
  | some claim =>
      obtain ⟨base, suffix⟩ := claim
      obtain ⟨best, text⟩ := claimOf?_eq_some_iff.mp found
      exact claimOf?_eq_some_iff.mpr ⟨(LongestMatch.congr same).mpr best, text⟩

/-- There is a claim exactly when some name matches. -/
theorem isSome_claimOf?_iff {stem : String} {bases : List String}
    : (claimOf? stem bases).isSome ↔ ∃ base ∈ bases, Matches base stem := by
  have settled := claimOf?_settled stem bases
  cases found : claimOf? stem bases with
  | none =>
      rw [found] at settled
      simpa using fun base member => settled base member
  | some claim =>
      rw [found] at settled
      simpa using ⟨claim.base, settled.1.member, settled.1.matching⟩

/-- What follows a matching name in its stem is nothing, or starts with a dash. -/
theorem Matches.suffix_cases {base stem suffix : String} (matching : Matches base stem)
    (text : stem = base ++ suffix)
    : suffix = "" ∨ ∃ rest, suffix = "-" ++ rest := by
  subst text
  rcases matching with same | ⟨rest, dashed⟩
  · exact Or.inl (by simpa using same)
  · rw [String.append_assoc] at dashed
    exact Or.inr ⟨rest, (String.append_right_inj _).mp dashed⟩

/-- A match that is not the longest one is strictly shorter, since matches of one length are the
same name.
-/
theorem LongestMatch.size_lt_or_eq {isBase : String → Prop} {stem best other : String}
    (longest : LongestMatch isBase stem best) (member : isBase other)
    (matching : Matches other stem)
    : other.utf8ByteSize < best.utf8ByteSize ∨ other = best := by
  rcases Nat.lt_or_eq_of_le (longest.longest other member matching) with less | same
  · exact Or.inl less
  · exact Or.inr (matching.eq_of_size_eq longest.matching same)

/-- A contest is won by the one longest match, in whatever order and however often the names try.
There is a winner exactly when some name matches; it is one of the names, the stem is its name
and a suffix that is empty or starts with a dash, and all other matches are shorter. The names may
come in any order, and some of them again: the outcome is the same.
-/
theorem claimOf?_longest_in_any_order (stem : String) (bases : List String)
    : ((claimOf? stem bases).isSome ↔ ∃ base ∈ bases, Matches base stem)
      ∧ (∀ claim,
          claimOf? stem bases = some claim
          → claim.base ∈ bases
            ∧ stem = claim.base ++ claim.suffix
            ∧ (claim.suffix = "" ∨ ∃ rest, claim.suffix = "-" ++ rest)
            ∧ ∀ other ∈ bases,
                Matches other stem
                → other.utf8ByteSize < claim.base.utf8ByteSize ∨ other = claim.base)
      ∧ ∀ again others : List String,
          again ⊆ bases
          → others.Perm (bases ++ again)
          → claimOf? stem others = claimOf? stem bases := by
  refine ⟨isSome_claimOf?_iff, ?_, ?_⟩
  · rintro ⟨base, suffix⟩ found
    obtain ⟨best, text⟩ := claimOf?_eq_some_iff.mp found
    refine ⟨best.member, text, best.matching.suffix_cases text, ?_⟩
    intro other member matching
    exact best.size_lt_or_eq member matching
  · intro again others repeated permuted
    refine claimOf?_congr ?_
    intro base
    rw [permuted.mem_iff, List.mem_append]
    exact ⟨fun either => either.elim id fun member => repeated member, Or.inl⟩

/-- Of the empty name, a name that occurs twice and one that goes on after a dash, the last one
wins, and it still does if the others try again before it.
-/
theorem claimOf?_longest_in_any_order_dashed
    : claimOf? "-a--b" ["", "-a", "-a-", "-a"] = some ⟨"-a-", "-b"⟩
      ∧ claimOf? "-a--b" ["-a", "", "-a", "", "-a-", "-a"] = some ⟨"-a-", "-b"⟩ := by
  have found : claimOf? "-a--b" ["", "-a", "-a-", "-a"] = some ⟨"-a-", "-b"⟩ := by decide
  obtain ⟨_, _, same⟩ := claimOf?_longest_in_any_order "-a--b" ["", "-a", "-a-", "-a"]
  exact ⟨found, (same ["", "-a"] _ (by decide) (by decide)).trans found⟩

end GoldenSuite

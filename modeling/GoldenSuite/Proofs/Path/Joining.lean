import GoldenSuite.Path

/-! Joining a plain file name to a directory keeps the name as the end of the path. The text
before it depends on the directory alone, so different names give different paths.
-/

namespace GoldenSuite.Path

-----------------------------------------------------------------------------------------
-- Cutting at slashes
-----------------------------------------------------------------------------------------

/-- Cutting leaves at least one piece, by cases on the first character. -/
theorem segments_ne_nil (text : List Char) : segments text ≠ [] := by
  cases text with
  | nil => simp [segments]
  | cons c rest =>
      rw [segments]
      split
      · simp
      · split <;> simp

/-- A character that is no slash goes to the front of the first piece. -/
theorem segments_cons_of_ne {c : Char} (other : c ≠ '/') {rest piece : List Char}
    {pieces : List (List Char)} (cut : segments rest = piece :: pieces)
    : segments (c :: rest) = (c :: piece) :: pieces := by
  rw [segments, if_neg other, cut]

/-- A text without slashes is a single piece, by induction on the text. -/
theorem segments_eq_singleton {text : List Char} (unslashed : '/' ∉ text)
    : segments text = [text] := by
  induction text with
  | nil => rfl
  | cons c rest ih =>
      have other : c ≠ '/' := fun same => unslashed (by simp [same])
      have later : '/' ∉ rest := fun member => unslashed (by simp [member])
      exact segments_cons_of_ne other (ih later)

/-- A slash separates the pieces before it from those after it, by induction on the text
before it.
-/
theorem segments_append_slash (before after : List Char)
    : segments (before ++ '/' :: after) = segments before ++ segments after := by
  induction before with
  | nil => simp [segments]
  | cons c rest ih =>
      by_cases slash : c = '/'
      · simp only [List.cons_append, segments, if_pos slash, ih]
      · obtain ⟨piece, pieces, cut⟩ := List.exists_cons_of_ne_nil (segments_ne_nil rest)
        have whole : segments (rest ++ '/' :: after) = piece :: (pieces ++ segments after) := by
          rw [ih, cut, List.cons_append]
        rw [List.cons_append, segments_cons_of_ne slash whole, segments_cons_of_ne slash cut,
          List.cons_append]

-----------------------------------------------------------------------------------------
-- Names
-----------------------------------------------------------------------------------------

/-- A name along a path: one piece, not empty. It may also be `.` or `..`. -/
structure IsName (name : String) : Prop where
  nonempty : name ≠ ""
  unslashed : '/' ∉ name.toList

/-- A name that stands for an entry of its directory: one piece, not empty, neither `.` nor
`..`.
-/
structure IsPlain (name : String) : Prop where
  nonempty : name ≠ ""
  unslashed : '/' ∉ name.toList
  notSelf : name ≠ "."
  notParent : name ≠ ".."

instance (name : String) : Decidable (IsPlain name) :=
  decidable_of_iff (name ≠ "" ∧ '/' ∉ name.toList ∧ name ≠ "." ∧ name ≠ "..")
    ⟨fun ⟨nonempty, unslashed, notSelf, notParent⟩ =>
        ⟨nonempty, unslashed, notSelf, notParent⟩,
      fun plain => ⟨plain.nonempty, plain.unslashed, plain.notSelf, plain.notParent⟩⟩

/-- A plain name is a name along a path. -/
theorem IsPlain.isName {name : String} (plain : IsPlain name) : IsName name :=
  ⟨plain.nonempty, plain.unslashed⟩

/-- A name by itself is the only name along it. -/
theorem names_of_isName {name : String} (isName : IsName name) : names name = [name] := by
  have kept : name.toList ≠ [] := by simpa using isName.nonempty
  simp [names, segments_eq_singleton isName.unslashed, kept]

/-- A slash separates the names before it from those after it. -/
theorem names_append_slash (before after : String)
    : names (before ++ "/" ++ after) = names before ++ names after := by
  have slash : (before ++ "/" ++ after).toList = before.toList ++ '/' :: after.toList := by
    simp
  rw [names, names, names, slash, segments_append_slash, List.filter_append, List.map_append]

/-- A name by itself does not start at the root. -/
theorem isRooted_of_isName {name : String} (isName : IsName name) : isRooted name = false := by
  have kept : name.toList ≠ [] := by simpa using isName.nonempty
  obtain ⟨c, rest, text⟩ := List.exists_cons_of_ne_nil kept
  have other : c ≠ '/' := fun same => isName.unslashed (by simp [text, same])
  simp [isRooted, text, other]

/-- The names of a path below a directory are those of the directory and the last one;
witness: the slash between them separates the pieces.
-/
theorem names_append_plain (dir : String) {name : String} (plain : IsPlain name)
    : names (dir ++ "/" ++ name) = names dir ++ [name] := by
  rw [names_append_slash, names_of_isName plain.isName]

/-- A name after a directory does not decide whether the path starts at the root. -/
theorem isRooted_append {dir : String} (nonempty : dir ≠ "") (name : String)
    : isRooted (dir ++ "/" ++ name) = isRooted dir := by
  have kept : dir.toList ≠ [] := by simpa using nonempty
  obtain ⟨c, rest, text⟩ := List.exists_cons_of_ne_nil kept
  simp [isRooted, text]

/-- Working out `.` and `..` leaves a plain name at the end of a path in place. -/
theorem cleanNames_append_plain {dir name : String} (nonempty : dir ≠ "")
    (plain : IsPlain name)
    : cleanNames (dir ++ "/" ++ name) = cleanNames dir ++ [name] := by
  rw [cleanNames, cleanNames, names_append_plain dir plain, isRooted_append nonempty,
    List.foldl_append]
  simp [pushName, plain.notSelf, plain.notParent]

/-- The cleaned form of a plain name is the name itself. -/
theorem clean_plain {name : String} (plain : IsPlain name) : clean name = name := by
  simp [clean, cleanNames, names_of_isName plain.isName, isRooted_of_isName plain.isName, pushName,
    plain.notSelf, plain.notParent, render]

-----------------------------------------------------------------------------------------
-- Joining
-----------------------------------------------------------------------------------------

/-- The text that a written path has before its last name. -/
def lead (rooted : Bool) (parts : List String) : String :=
  (if rooted then "/" else "")
    ++ (if parts.isEmpty then "" else String.intercalate "/" parts ++ "/")

/-- A written path ends in its last name, by cases on the names before it. -/
theorem render_append_singleton (rooted : Bool) (parts : List String) (name : String)
    : render rooted (parts ++ [name]) = lead rooted parts ++ name := by
  cases parts with
  | nil => cases rooted <;> simp [render, lead]
  | cons first rest =>
      have cut : String.intercalate "/" (first :: (rest ++ [name]))
          = String.intercalate "/" (first :: rest) ++ "/" ++ name := by
        rw [← List.cons_append, String.intercalate_append_of_ne_nil (by simp) (by simp),
          String.intercalate_singleton]
      cases rooted <;> simp [render, lead, cut, String.append_assoc]

/-- The text before a plain name that is joined to a directory. -/
def leadOf (dir : String) : String :=
  if dir = "" then "" else lead (isRooted dir) (cleanNames dir)

/-- Joining puts a plain name after a text that depends on the directory alone. -/
theorem join_plain (dir : String) {name : String} (plain : IsPlain name)
    : join dir name = leadOf dir ++ name := by
  by_cases empty : dir = ""
  · simp [join, leadOf, empty, plain.nonempty, clean_plain plain]
  · rw [join, leadOf, if_neg empty, if_neg empty, clean, isRooted_append empty,
      cleanNames_append_plain empty plain, render_append_singleton]

/-- Different plain names give different paths in one directory. -/
theorem join_injective {dir left right : String} (hl : IsPlain left) (hr : IsPlain right)
    (same : join dir left = join dir right)
    : left = right := by
  rw [join_plain dir hl, join_plain dir hr] at same
  exact (String.append_right_inj _).mp same

/-- A path to a plain name is never empty. -/
theorem join_plain_ne_empty (dir : String) {name : String} (plain : IsPlain name)
    : join dir name ≠ "" := by
  rw [join_plain dir plain]
  intro empty
  exact plain.nonempty (String.append_eq_empty_iff.mp empty).2

end GoldenSuite.Path

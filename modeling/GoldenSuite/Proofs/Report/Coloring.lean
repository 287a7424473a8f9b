import GoldenSuite.Report

/-! Colours stand around the pieces of a text and change nothing in them. A text from which the
colour sequences are deleted is the text that is printed without colours, unless a name brings an
escape character of its own.
-/

namespace GoldenSuite

namespace Coloring

-----------------------------------------------------------------------------------------
-- Deleting colours
-----------------------------------------------------------------------------------------

def escape : Char := '\x1b'

/-- The characters of a list of colour codes. -/
def isParameter (c : Char) : Bool :=
  c.isDigit || c = ';'

/-- What follows a list of colour codes and the `m` that closes it, if a text begins with these. -/
def afterCodes? : List Char → Option (List Char)
  | [] => none
  | c :: rest =>
      if isParameter c then afterCodes? rest else if c = 'm' then some rest else none

/-- What follows a colour sequence, if a text begins with one after its escape character. -/
def afterSequence? : List Char → Option (List Char)
  | '[' :: rest => afterCodes? rest
  | _ => none

/-- Codes are cut off at the start of a text, by induction over it. -/
theorem length_of_afterCodes? {text rest : List Char} (cut : afterCodes? text = some rest)
    : rest.length < text.length := by
  induction text with
  | nil => cases cut
  | cons c text ih =>
      unfold afterCodes? at cut
      split at cut
      · exact Nat.lt_succ_of_lt (ih cut)
      · split at cut
        · obtain rfl := Option.some.inj cut
          exact Nat.lt_succ_self _
        · cases cut

/-- So are sequences. -/
theorem length_of_afterSequence? {text rest : List Char} (cut : afterSequence? text = some rest)
    : rest.length < text.length := by
  unfold afterSequence? at cut
  split at cut
  · exact Nat.lt_succ_of_lt (length_of_afterCodes? cut)
  · cases cut

/-- Characters without the colour sequences among them. -/
def erase : List Char → List Char
  | [] => []
  | c :: rest =>
      if c = escape then
        match _cut : afterSequence? rest with
        | some after => erase after
        | none => c :: erase rest
      else c :: erase rest
termination_by text => text.length
decreasing_by
  · exact Nat.lt_succ_of_lt (length_of_afterSequence? ‹_›)
  · exact Nat.lt_succ_self _
  · exact Nat.lt_succ_self _

/-- A text without its colour sequences. -/
def withoutColors (text : String) : String :=
  String.ofList (erase text.toList)

/-- Codes with the `m` that closes them are cut off whole, by induction over the codes. -/
theorem afterCodes?_append {codes : List Char} (valid : codes.all isParameter = true)
    (rest : List Char)
    : afterCodes? (codes ++ 'm' :: rest) = some rest := by
  induction codes with
  | nil => rfl
  | cons c codes ih =>
      rw [List.all_cons, Bool.and_eq_true] at valid
      rw [List.cons_append, afterCodes?, if_pos valid.1]
      exact ih valid.2

/-- A colour sequence is deleted. -/
theorem erase_sequence {codes : List Char} (valid : codes.all isParameter = true)
    (rest : List Char)
    : erase (escape :: '[' :: (codes ++ 'm' :: rest)) = erase rest := by
  rw [erase, if_pos rfl]
  split
  · rename_i after cut
    rw [afterSequence?, afterCodes?_append valid] at cut
    rw [Option.some.inj cut]
  · rename_i uncut
    rw [afterSequence?, afterCodes?_append valid] at uncut
    cases uncut

/-- Characters other than escape characters are kept, by induction over them. -/
theorem erase_append {text : List Char} (plain : escape ∉ text) (rest : List Char)
    : erase (text ++ rest) = text ++ erase rest := by
  induction text with
  | nil => rfl
  | cons c text ih =>
      rw [List.mem_cons, not_or] at plain
      obtain ⟨other, others⟩ := plain
      rw [List.cons_append, erase, if_neg (Ne.symm other), ih others, List.cons_append]

-----------------------------------------------------------------------------------------
-- Texts that lose their colours
-----------------------------------------------------------------------------------------

/-- A text without escape characters. -/
def Plain (text : String) : Prop :=
  escape ∉ text.toList

/-- A text that becomes another one when its colour sequences are deleted, whatever follows it. -/
def Fades (colored plain : String) : Prop :=
  ∀ rest, erase (colored.toList ++ rest) = plain.toList ++ erase rest

instance (text : String) : Decidable (Plain text) :=
  inferInstanceAs (Decidable (escape ∉ text.toList))

theorem Fades.withoutColors_eq {colored plain : String} (fades : Fades colored plain)
    : withoutColors colored = plain := by
  have whole := fades []
  rw [List.append_nil, erase, List.append_nil] at whole
  rw [withoutColors, whole, String.ofList_toList]

theorem Plain.fades {text : String} (plain : Plain text) : Fades text text :=
  erase_append plain

/-- Pieces lose their colours one by one. -/
theorem Fades.append {colored plain more rest : String} (first : Fades colored plain)
    (second : Fades more rest)
    : Fades (colored ++ more) (plain ++ rest) := by
  intro after
  rw [String.toList_append, List.append_assoc, first, second, String.toList_append,
    List.append_assoc]

/-- A painted text loses the sequences around it. -/
theorem fades_paint {codes text : String} (valid : codes.toList.all isParameter = true)
    (plain : Plain text)
    : Fades (Table.paint codes text) text := by
  intro rest
  have cut : (Table.paint codes text).toList ++ rest
      = escape :: '['
          :: (codes.toList
            ++ 'm' :: (text.toList ++ escape :: '[' :: (['0'] ++ 'm' :: rest))) := by
    simp [Table.paint, escape]
  rw [cut, erase_sequence valid, erase_append plain, erase_sequence (by decide)]

-- Other control sequences, here one that clears the line, are not colours and stay.
example : withoutColors "\x1b[31;1mno\x1b[0m\x1b[2K" = "no\x1b[2K" := by
  cbv

-----------------------------------------------------------------------------------------
-- Plain texts
-----------------------------------------------------------------------------------------

theorem Plain.append {first second : String} (plain : Plain first) (others : Plain second)
    : Plain (first ++ second) := by
  rw [Plain, String.toList_append, List.mem_append]
  exact not_or.mpr ⟨plain, others⟩

/-- Plain texts with a plain text between them are plain, by induction over them. -/
theorem plain_intercalate {between : String} {texts : List String} (plain : Plain between)
    (all : ∀ text ∈ texts, Plain text)
    : Plain (between.intercalate texts) := by
  induction texts with
  | nil => exact List.not_mem_nil
  | cons text texts ih =>
      have others := ih fun text member => all text (List.mem_cons_of_mem _ member)
      have first := all text List.mem_cons_self
      cases texts with
      | nil => simpa using first
      | cons next texts =>
          rw [String.intercalate_cons_cons]
          exact (first.append plain).append others

theorem plain_toString_nat (n : Nat) : Plain (toString n) := by
  rw [Nat.toString_eq_ofList_toDigits, Plain, String.toList_ofList]
  intro member
  exact absurd (Nat.isDigit_of_mem_toDigits (by decide) (by decide) member) (by decide)

theorem plain_toString_int (n : Int) : Plain (toString n) := by
  rw [Int.toString_eq_repr, Int.repr_eq_if]
  split
  · exact plain_toString_nat _
  · exact Plain.append (by decide) (plain_toString_nat _)

/-- Every kind of failure has a plain text. -/
theorem plain_kind (kind : FailureKind) : Plain kind.text := by
  cases kind with
  | unknown code =>
      exact Plain.append (Plain.append (by decide) (plain_toString_int code)) (by decide)
  | _ => decide

/-- Every signal is described by a plain text. -/
theorem plain_describe (signal : Signal) : Plain signal.describe := by
  have named : ∀ entry ∈ Signal.table, Plain entry.2 := by decide
  unfold Signal.describe
  split
  · split
    · rename_i entry listed
      exact named entry (List.mem_of_getElem? listed)
    · exact Plain.append (by decide) (plain_toString_nat _)
  · exact Plain.append (by decide) (plain_toString_int _)

/-- What there is to say about a result is plain. -/
theorem plain_details (result : CaseResult) : Plain (Reporter.details result) := by
  refine plain_intercalate (by decide) fun text member => ?_
  rcases List.mem_append.mp member with reason | ending
  · split at reason
    · cases reason
    · cases reason
    · obtain rfl := List.mem_singleton.mp reason
      exact plain_kind _
  · split at ending
    · obtain rfl := List.mem_singleton.mp ending
      exact Plain.append (by decide) (plain_describe _)
    · split at ending
      · obtain rfl := List.mem_singleton.mp ending
        exact Plain.append (by decide) (plain_toString_int _)
      · cases ending

end Coloring

-----------------------------------------------------------------------------------------
-- What is printed about a case
-----------------------------------------------------------------------------------------

namespace Reporter

open Coloring

variable {left right : Reporter}

/-- Every colour has a code. -/
theorem all_isParameter_code (color : Color) : color.code.toList.all isParameter = true := by
  cases color <;> decide

/-- With colours a plain text is painted, and without it is left as it is. -/
theorem fades_paint (colored : left.colors = true) (uncolored : right.colors = false)
    (color : Color) {text : String} (plain : Plain text)
    : Fades (left.paint color text) (right.paint color text) := by
  rw [paint, paint, if_pos colored, uncolored]
  exact Coloring.fades_paint (all_isParameter_code color) plain

/-- The line before a case loses its colours. -/
theorem fades_starting (colored : left.colors = true) (uncolored : right.colors = false)
    {tc : TestCase} (named : Plain tc.name)
    : Fades (left.starting tc) (right.starting tc) := by
  have label : Plain (if tc.hasInput then tc.name else tc.name ++ " (no input)") := by
    split
    · exact named
    · exact named.append (by decide)
  refine (fades_paint colored uncolored .blue (Plain.append ?_ label)).append (Plain.fades ?_)
  · decide
  · decide

/-- The line that says how a case ended loses its colours: those of the verdict, and those of what
there is to say about it.
-/
theorem fades_verdictLine (colored : left.colors = true) (uncolored : right.colors = false)
    {result : CaseResult} (named : Plain result.tc.name)
    : Fades (left.verdictLine result) (right.verdictLine result) := by
  have newline : Plain "\n" := by decide
  have more : Plain ("(" ++ details result ++ ")") :=
    (Plain.append (by decide) (plain_details result)).append (by decide)
  have line {head bare : String} (faded : Fades head bare)
      : Fades
          (if details result = "" then head ++ "\n"
            else head ++ " " ++ left.paint .yellow ("(" ++ details result ++ ")") ++ "\n")
          (if details result = "" then bare ++ "\n"
            else bare ++ " " ++ right.paint .yellow ("(" ++ details result ++ ")") ++ "\n") := by
    split
    · exact faded.append newline.fades
    · exact ((faded.append (Plain.fades (by decide))).append
        (fades_paint colored uncolored .yellow more)).append newline.fades
  unfold verdictLine
  cases result.verdict with
  | pass => exact line (fades_paint colored uncolored .green (Plain.append (by decide) named))
  | fail => exact line (fades_paint colored uncolored .red (Plain.append (by decide) named))

/-- Without differences only that line is printed after a case. -/
theorem finished_of_undiffed {reporter : Reporter} (off : reporter.showDiff = false)
    (tree : FileTree) (result : CaseResult)
    : reporter.finished tree result = reporter.verdictLine result := by
  simp [finished, off]

end Reporter

end GoldenSuite

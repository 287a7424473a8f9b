import GoldenSuite.Shell.Glob

/-! From worked-out words to fields. -/

namespace GoldenSuite.Shell

open Host (ByteText)

/-- What a word is made of once everything in it is worked out. -/
inductive Atom where
  /-- A character of the script itself, which is never split off. -/
  | fixed (letter : Letter)
  /-- A character that came out of something unquoted. -/
  | loose (char : Char)
  /-- Quotes, which make a field even of nothing. -/
  | quotes
  /-- The end of a field. -/
  | gap
  /-- A list of arguments that is empty, which leaves nothing even of quotes. -/
  | void
deriving DecidableEq

namespace Field

/-- The state of splitting: the fields so far and the present one, both backwards. -/
structure Splitting where
  fields : List (List Letter)
  current : List Letter
  /-- Whether the present field has begun. -/
  begun : Bool
  /-- Whether an empty list of arguments was part of the present field. -/
  voided : Bool
  /-- Whether the last field was ended by a blank separator. -/
  blankEnded : Bool

namespace Splitting

def add (s : Splitting) (letter : Letter) : Splitting :=
  { s with current := letter :: s.current, begun := true, blankEnded := false }

/-- Ends the present field, if it has begun. -/
def close (s : Splitting) : Splitting :=
  if s.begun && !(s.voided && s.current.isEmpty) then
    { s with fields := s.current.reverse :: s.fields, current := [], begun := false,
             voided := false }
  else { s with current := [], begun := false, voided := false }

/-- Goes on by one atom. Blank separators end a field that has begun; any other separator ends
a field in any case, with the blanks around it. -/
def step (separators : ByteText) (s : Splitting) : Atom → Splitting
  | .fixed letter => s.add letter
  | .quotes => { s with begun := true, blankEnded := false }
  | .void => { s with voided := true }
  | .gap => { s.close with blankEnded := true }
  | .loose c =>
      if !separators.contains c then s.add ⟨c, false⟩
      else if ByteText.isSpace c then
        if s.begun then { s.close with blankEnded := true } else s
      else if s.begun then { s.close with blankEnded := false }
      else if s.blankEnded then { s with blankEnded := false }
      else { s with fields := [] :: s.fields }

end Splitting

/-- The fields of a worked-out word. -/
def split (separators : ByteText) (atoms : List Atom) : List (List Letter) :=
  (atoms.foldl (Splitting.step separators) ⟨[], [], false, false, false⟩).close.fields.reverse

/-- The characters of a worked-out word that is not split. -/
def whole (atoms : List Atom) : List Letter :=
  atoms.flatMap fun
    | .fixed letter => [letter]
    | .loose c => [⟨c, false⟩]
    | .gap => [⟨' ', false⟩]
    | _ => []

-------------------------------------------------------------------------------
-- Lines of input
-------------------------------------------------------------------------------

/-- Cuts a line of input into as many values as there are names; the last one gets what is
left. -/
def share (separators : ByteText) : Nat → List Letter → List ByteText
  | 0, _ => []
  | 1, letters =>
      let isBlank (letter : Letter) : Bool :=
        !letter.quoted && separators.contains letter.char && ByteText.isSpace letter.char
      let kept := letters.dropWhile isBlank
      [Glob.text (kept.reverse.dropWhile isBlank).reverse]
  | names + 1, letters =>
      let isSeparator (letter : Letter) : Bool := !letter.quoted && separators.contains letter.char
      let isBlank (letter : Letter) : Bool := isSeparator letter && ByteText.isSpace letter.char
      let letters := letters.dropWhile isBlank
      let first := letters.takeWhile (fun letter => !isSeparator letter)
      let rest := (letters.dropWhile (fun letter => !isSeparator letter)).dropWhile isBlank
      let rest :=
        match rest with
        | letter :: behind => if isSeparator letter then behind else rest
        | [] => []
      Glob.text first :: share separators names rest

/-- A line of input in which backslashes guard the characters behind them. -/
def guarded : ByteText → List Letter
  | '\\' :: c :: rest => ⟨c, true⟩ :: guarded rest
  | ['\\'] => []
  | c :: rest => ⟨c, false⟩ :: guarded rest
  | [] => []

end Field

end GoldenSuite.Shell

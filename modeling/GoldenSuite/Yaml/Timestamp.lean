/-! Texts that are points in time: a date, or a date and a time of day. -/

namespace GoldenSuite.Yaml.Timestamp

/-- A number of one or two digits, and what follows it. -/
def number? (text : List Char) : Option (Nat × List Char) :=
  match text with
  | a :: rest =>
      if !a.isDigit then none
      else
        match rest with
        | b :: more =>
            if b.isDigit then some ((a.toNat - 48) * 10 + (b.toNat - 48), more)
            else some (a.toNat - 48, rest)
        | [] => some (a.toNat - 48, [])
  | [] => none

/-- A number of exactly two digits, and what follows it. -/
def twoDigits? (text : List Char) : Option (Nat × List Char) :=
  match text with
  | a :: b :: rest =>
      if a.isDigit && b.isDigit then some ((a.toNat - 48) * 10 + (b.toNat - 48), rest) else none
  | _ => none

/-- What follows a given character. -/
def after? (c : Char) (text : List Char) : Option (List Char) :=
  match text with
  | d :: rest => if d = c then some rest else none
  | [] => none

def isLeapYear (year : Nat) : Bool :=
  year % 4 = 0 && (year % 100 ≠ 0 || year % 400 = 0)

def daysIn (year month : Nat) : Nat :=
  if month = 2 then (if isLeapYear year then 29 else 28)
  else if month ∈ [4, 6, 9, 11] then 30
  else 31

/-- A date: a year of four digits, a month and a day. -/
def date? (text : List Char) : Option (List Char) := do
  let year := text.takeWhile Char.isDigit
  if year.length ≠ 4 then none
  let rest ← after? '-' (text.drop 4)
  let (month, rest) ← number? rest
  let rest ← after? '-' rest
  let (day, rest) ← number? rest
  let value := year.foldl (fun value c => value * 10 + (c.toNat - 48)) 0
  if month = 0 || 12 < month || day = 0 || daysIn value month < day then none else some rest

/-- A fraction of a second, if there is one. -/
def fraction (text : List Char) : List Char :=
  match text with
  | c :: d :: rest =>
      if (c = '.' || c = ',') && d.isDigit then rest.dropWhile Char.isDigit else text
  | _ => text

/-- A time of day: hours, minutes and seconds. -/
def clock? (text : List Char) : Option (List Char) := do
  let (hour, rest) ← number? text
  let (minute, rest) ← number? (← after? ':' rest)
  let (second, rest) ← number? (← after? ':' rest)
  if 24 ≤ hour || 60 ≤ minute || 60 ≤ second then none else some (fraction rest)

/-- A time zone at the end of a text. -/
def isZone (text : List Char) : Bool :=
  match text with
  | ['Z'] => true
  | sign :: rest =>
      (sign = '+' || sign = '-') &&
        match twoDigits? rest with
        | some (hours, ':' :: more) =>
            hours ≤ 24 &&
              match twoDigits? more with
              | some (minutes, []) => minutes ≤ 60
              | _ => false
        | _ => false
  | [] => false

/-- Whether a text is a point in time: a date alone, with a time of day after blanks, or with a
time of day and a zone after the letter T. -/
def isTimestamp (text : String) : Bool :=
  match date? text.toList with
  | none => false
  | some [] => true
  | some (c :: rest) =>
      if c = 'T' || c = 't' then
        match clock? rest with
        | some zone => isZone zone
        | none => false
      else if c = ' ' then clock? (rest.dropWhile (· = ' ')) == some []
      else false

end GoldenSuite.Yaml.Timestamp

import GoldenSuite.Host.Condition
import GoldenSuite.Host.Format
import GoldenSuite.Host.World

/-! The programs of the system, the shell and the one that sets the environment apart. -/

namespace GoldenSuite.Host

/-- One call of a program. -/
structure Call where
  /-- The name that the program was called by. -/
  name : ByteText
  arguments : List ByteText
  streams : Streams

namespace Call

def print (call : Call) (text : ByteText) : Act Unit :=
  Act.write call.streams.output text.toBytes

/-- Complains on the diagnostic stream, in the program's name. -/
def complain (call : Call) (text : String) : Act Unit :=
  Act.write call.streams.errors (call.name.toBytes ++ Bytes.ofString (": " ++ text ++ "\n"))

end Call

namespace Utility

-------------------------------------------------------------------------------
-- Messages
-------------------------------------------------------------------------------

/-- The system's own words for a refusal. -/
def reason (cause : Refusal) : String :=
  match cause.message.toList with
  | first :: rest => String.ofList (first.toUpper :: rest)
  | [] => ""

/-- Whether a name can be shown without quotes. -/
def isPlainName (name : ByteText) : Bool :=
  !name.isEmpty && name.all fun c =>
    c.isAlphanum || "/._-+,:@%".toList.contains c || 128 ≤ c.toNat

/-- A file name in a message, in quotes where it needs them. -/
def shownName (name : ByteText) : String :=
  if isPlainName name then name.toText
  else "'" ++ (name.toText.replace "'" "'\\''") ++ "'"

-------------------------------------------------------------------------------
-- Input
-------------------------------------------------------------------------------

/-- Reads one operand, where `-` is the standard input. -/
def readOperand (call : Call) (operand : ByteText) : Act (Option ByteText) := do
  if operand = ['-'] then
    match ← Act.readAll call.streams.input with
    | some data => return some (.ofBytes data)
    | none =>
        call.complain ("-: " ++ reason .isDirectory)
        return none
  else
    match ← Act.openInput operand.toText with
    | .error cause =>
        call.complain (shownName operand ++ ": " ++ reason cause)
        return none
    | .ok descriptor =>
        match ← Act.readAll descriptor with
        | some data => return some (.ofBytes data)
        | none =>
            call.complain (shownName operand ++ ": " ++ reason .isDirectory)
            return none

/-- The operands of a program that reads files: the standard input if none is named. -/
def operandsOr (operands : List ByteText) : List ByteText :=
  if operands.isEmpty then [['-']] else operands

/-- Does something with the text of each operand; the status tells whether all could be read. -/
def eachOperand (call : Call) (operands : List ByteText) (act : ByteText → ByteText → Act Unit)
    : Act Nat :=
  (operandsOr operands).foldlM
    (fun status operand => do
      match ← readOperand call operand with
      | some text =>
          act operand text
          return status
      | none => return 1)
    0

/-- Passes the text of all operands through a function. -/
def filtering (call : Call) (operands : List ByteText) (f : ByteText → ByteText) : Act Nat := do
  let texts ← (operandsOr operands).mapM (readOperand call)
  call.print (f (texts.filterMap id).flatten)
  return if texts.all Option.isSome then 0 else 1

/-- The options before the operands, without their dash, and the operands. -/
def splitOptions : List ByteText → List ByteText × List ByteText
  | [] => ([], [])
  | ['-', '-'] :: rest => ([], rest)
  | ('-' :: c :: letters) :: rest =>
      let (options, operands) := splitOptions rest
      ((c :: letters) :: options, operands)
  | operands => ([], operands)

-------------------------------------------------------------------------------
-- Programs
-------------------------------------------------------------------------------

/-- Prints its arguments; escapes are worked out only if asked for. -/
def echo (call : Call) : Act Nat := do
  let isOption (word : ByteText) : Bool :=
    match word with
    | '-' :: c :: rest => (c :: rest).all fun letter => "neE".toList.contains letter
    | _ => false
  let options := (call.arguments.takeWhile isOption).flatMap (·.drop 1)
  let words := call.arguments.dropWhile isOption
  let newline := !options.contains 'n'
  let escapes := (options.filter (· ≠ 'n')).getLast? = some 'e'
  if escapes then call.print (Escape.echo newline words)
  else call.print ([' '].intercalate words ++ if newline then ['\n'] else [])
  return 0

def printf (call : Call) : Act Nat := do
  match call.arguments with
  | [] =>
      call.complain "missing operand"
      return 1
  | format :: arguments =>
      let (text, complaints) := Format.print format arguments
      call.print text
      complaints.forM fun word =>
        call.complain ("'" ++ word.toText ++ "': expected a numeric value")
      return if complaints.isEmpty then 0 else 1

def cat (call : Call) : Act Nat :=
  eachOperand call (splitOptions call.arguments).2 fun _ text => call.print text

/-- A span of time in nanoseconds: a decimal number, perhaps with a unit. -/
def span? (word : ByteText) : Option Nat :=
  let digits := word.takeWhile Char.isDigit
  let (fraction, unit) :=
    match word.drop digits.length with
    | '.' :: rest => (rest.takeWhile Char.isDigit, rest.dropWhile Char.isDigit)
    | rest => ([], rest)
  let seconds? : Option Nat :=
    [([], 1), (['s'], 1), (['m'], 60), (['h'], 3600), (['d'], 86400)].lookup unit
  if digits.isEmpty && fraction.isEmpty then none
  else
    seconds?.map fun seconds =>
      let nine := (fraction ++ List.replicate 9 '0').take 9
      (ByteText.digitsValue 10 digits * 1000000000 + ByteText.digitsValue 10 nine) * seconds

def sleep (call : Call) : Act Nat := do
  let hint := "Try '" ++ call.name.toText ++ " --help' for more information.\n"
  let refuse (text : String) : Act Nat := do
    call.complain text
    Act.writeText call.streams.errors hint
    return 1
  if call.arguments.isEmpty then refuse "missing operand"
  else if call.arguments.contains "infinity".toList then Act.forever
  else
    match call.arguments.find? (fun word => (span? word).isNone) with
    | some word => refuse ("invalid time interval '" ++ word.toText ++ "'")
    | none =>
        Act.sleep ((call.arguments.filterMap span?).foldl (· + ·) 0)
        return 0

def test (call : Call) (words : List ByteText) : Act Nat := do
  match Condition.holds (← get).tree words with
  | .ok value => return if value then 0 else 1
  | .error message =>
      call.complain message
      return 2

/-- A condition between brackets. -/
def bracket (call : Call) : Act Nat := do
  if call.arguments.getLast? = some [']'] then test call call.arguments.dropLast
  else
    call.complain "missing ]"
    return 2

/-- The count that an option asks for, in either of its forms, and the operands. -/
def countOption : List ByteText → Nat × List ByteText
  | ['-', 'n'] :: count :: rest => ((count.toInt?.getD 10).toNat, rest)
  | ('-' :: 'n' :: count) :: rest => ((ByteText.toInt? count |>.getD 10).toNat, rest)
  | ('-' :: count) :: rest =>
      if !count.isEmpty && count.all Char.isDigit then (ByteText.digitsValue 10 count, rest)
      else (10, ('-' :: count) :: rest)
  | rest => (10, rest)

def head (call : Call) : Act Nat :=
  let (count, operands) := countOption call.arguments
  filtering call operands fun text =>
    let pieces := text.splitOnP (· = '\n')
    if pieces.length ≤ count then text else ByteText.unlines (pieces.take count)

def tail (call : Call) : Act Nat :=
  let (count, operands) := countOption call.arguments
  filtering call operands fun text =>
    let lines := text.lines
    let kept := ByteText.unlines (lines.drop (lines.length - count))
    if text.getLast? = some '\n' then kept else kept.dropLast

/-- Counts lines, words and bytes. -/
def wc (call : Call) : Act Nat := do
  let (options, operands) := splitOptions call.arguments
  let letters := options.flatten
  let chosen := if letters.isEmpty then ['l', 'w', 'c'] else
    ['l', 'w', 'c'].filter letters.contains
  let counts (text : ByteText) : List Nat := chosen.map fun
    | 'l' => text.count '\n'
    | 'w' => text.words.length
    | _ => text.length
  let show_ (width : Nat) (numbers : List Nat) (name : ByteText) : ByteText :=
    let cells := numbers.map fun n =>
      let digits := Nat.toDigits 10 n
      List.replicate (width - digits.length) ' ' ++ digits
    [' '].intercalate cells ++ (if name.isEmpty then [] else ' ' :: name) ++ ['\n']
  match operands with
  | [] =>
      let width := if chosen.length = 1 then 1 else 7
      eachOperand call [] fun _ text => call.print (show_ width (counts text) [])
  | _ =>
      let texts ← operands.mapM fun operand => do
        return (operand, ← readOperand call operand)
      let read := texts.filterMap fun (name, text) => text.map fun text => (name, text)
      let whole := (read.map fun entry => entry.2.length).foldl (· + ·) 0
      let width := if chosen.length = 1 && operands.length = 1 then 1
        else (Nat.toDigits 10 whole).length
      read.forM fun (name, text) => call.print (show_ width (counts text) name)
      if 1 < operands.length then
        let total := (read.map fun entry => counts entry.2).foldl
          (fun sums row => List.zipWith (· + ·) sums row) (chosen.map fun _ => 0)
        call.print (show_ width total "total".toList)
      return if read.length = operands.length then 0 else 1

/-- The numbers from a first to a last one, by steps. -/
def seq (call : Call) : Act Nat := do
  let numbers := call.arguments.map ByteText.toInt?
  let run (first step last : Int) : Act Nat := do
    let count := if step = 0 then 0 else ((last - first) / step + 1).toNat
    call.print (ByteText.unlines ((List.range count).map fun n =>
      ByteText.ofInt (first + step * Int.ofNat n)))
    return 0
  match numbers with
  | [some last] => run 1 1 last
  | [some first, some last] => run first 1 last
  | [some first, some step, some last] => run first step last
  | _ =>
      call.complain "invalid argument"
      return 1

/-- Single characters and ranges, written out. -/
def withRanges : ByteText → List Char
  | a :: '-' :: b :: rest =>
      (List.range (b.toNat + 1 - a.toNat)).map (fun n => Char.ofNat (a.toNat + n))
        ++ withRanges rest
  | c :: rest => c :: withRanges rest
  | [] => []

/-- The characters that a set names: single ones, escapes and ranges. -/
def charSet (text : ByteText) : List Char :=
  withRanges (Escape.interpret text).1

/-- Replaces or deletes characters. -/
def tr (call : Call) : Act Nat :=
  match call.arguments with
  | [['-', 'd'], set] =>
      let set := charSet set
      filtering call [] fun text => text.filter fun c => !set.contains c
  | [first, second] =>
      let source := charSet first
      let target := charSet second
      let image (c : Char) : Char :=
        match source.findIdx? (· = c) with
        | some index => (target[index]?.orElse fun _ => target.getLast?).getD c
        | none => c
      filtering call [] fun text => text.map image
  | _ => do
      call.complain "missing operand"
      return 1

/-- Sorts lines, by bytes or by number. -/
def sort (call : Call) : Act Nat :=
  let (options, operands) := splitOptions call.arguments
  let letters := options.flatten
  let key (line : ByteText) : Int :=
    let line := line.dropWhile ByteText.isBlank
    match line with
    | '-' :: rest => -(ByteText.digitsValue 10 (rest.takeWhile Char.isDigit) : Int)
    | _ => ByteText.digitsValue 10 (line.takeWhile Char.isDigit)
  let below (a b : ByteText) : Bool :=
    let plain := !decide (b.map Char.toNat < a.map Char.toNat)
    if letters.contains 'n' then key a < key b || key a = key b && plain else plain
  filtering call operands fun text =>
    let sorted := text.lines.mergeSort below
    let sorted := if letters.contains 'r' then sorted.reverse else sorted
    ByteText.unlines (if letters.contains 'u' then
      (sorted.splitBy (· == ·)).filterMap List.head? else sorted)

/-- Leaves out lines that repeat the one before. -/
def uniq (call : Call) : Act Nat :=
  let (options, operands) := splitOptions call.arguments
  filtering call operands fun text =>
    (text.lines.splitBy (· == ·)).flatMap fun
      | [] => []
      | line :: more =>
          let count := Nat.toDigits 10 (more.length + 1)
          (if options.contains ['c'] then List.replicate (7 - count.length) ' ' ++ count ++ [' ']
            else [])
          ++ line ++ ['\n']

def basename (call : Call) : Act Nat := do
  match call.arguments with
  | path :: ending =>
      let name := ByteText.ofString (Path.base path.toText)
      let ending := ending.headD []
      let cut := if ending.isSuffixOf name && ending ≠ name then
        name.take (name.length - ending.length) else name
      call.print (cut ++ ['\n'])
      return 0
  | [] =>
      call.complain "missing operand"
      return 1

def dirname (call : Call) : Act Nat := do
  match call.arguments with
  | path :: _ =>
      let parent := (Path.parentText? path).getD (if path.head? = some '/' then ['/'] else ['.'])
      call.print (parent ++ ['\n'])
      return 0
  | [] =>
      call.complain "missing operand"
      return 1

/-- Changes the file tree at each operand. -/
def eachPath (call : Call) (doing : String)
    (change : FileTree → String → Except Refusal FileTree)
    : Act Nat :=
  (splitOptions call.arguments).2.foldlM
    (fun status operand => do
      let world ← get
      match change world.tree operand.toText with
      | .ok tree =>
          set { world with tree }
          return status
      | .error cause =>
          call.complain ("cannot " ++ doing ++ " '" ++ operand.toText ++ "': " ++ reason cause)
          return 1)
    0

def mkdir (call : Call) : Act Nat :=
  let parents := ((splitOptions call.arguments).1.flatten).contains 'p'
  eachPath call "create directory" fun tree path =>
    if parents then .ok (tree.mkdirAll path).1 else tree.mkdir path

def rm (call : Call) : Act Nat :=
  let letters := (splitOptions call.arguments).1.flatten
  eachPath call "remove" fun tree path =>
    match tree.look false path with
    | .error cause => if letters.contains 'f' then .ok tree else .error cause
    | .ok (place, .directory) =>
        if letters.contains 'r' then .ok (tree.eraseBelow place) else .error .isDirectory
    | .ok (place, _) => .ok (tree.erase place)

def touch (call : Call) : Act Nat :=
  eachPath call "touch" fun tree path =>
    match tree.locate true path with
    | .error cause => .error cause
    | .ok place =>
        match tree.find? place with
        | none => .ok (tree.put place (.file [] FileTree.plainMode))
        | some _ => .ok tree

/-- Runs a program of the system. -/
def run (program : String) (call : Call) : Act Nat :=
  match program with
  | "true" => return 0
  | "false" => return 1
  | "echo" => echo call
  | "printf" => printf call
  | "cat" => cat call
  | "sleep" => sleep call
  | "test" => test call call.arguments
  | "[" => bracket call
  | "head" => head call
  | "tail" => tail call
  | "wc" => wc call
  | "seq" => seq call
  | "tr" => tr call
  | "sort" => sort call
  | "uniq" => uniq call
  | "basename" => basename call
  | "dirname" => dirname call
  | "mkdir" => mkdir call
  | "rm" => rm call
  | "touch" => touch call
  | _ => do
      call.complain "cannot be run"
      return 126

end Utility

end GoldenSuite.Host

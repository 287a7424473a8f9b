import GoldenSuite.Shell.Arithmetic
import GoldenSuite.Shell.Builtin
import GoldenSuite.Shell.Reader

/-! Carrying out commands. All functions take a depth, which bounds how far commands can be
nested; a shell that goes deeper runs out of stack. -/

namespace GoldenSuite.Shell

open Host

/-- How deep commands can be nested. -/
def depthLimit : Nat := 2000

/-- How many rounds all loops of a shell can go through before they are taken to be endless. -/
def roundLimit : Nat := 100000

/-- The process above the first one, and the first one. -/
def topProcess : Nat := 4000

/-- The first shell of a process. -/
def State.first (process parent : Nat) (bindings : List (String × ByteText)) (streams : Streams)
    : State where
  process := process
  parent := parent
  name := []
  arguments := []
  bindings := bindings
  exported := bindings.map Prod.fst
  functions := []
  documents := []
  descriptors := [(0, streams.input), (1, streams.output), (2, streams.errors)]
  traps := []
  saved := []
  status := 0
  line := 0
  loops := 0
  strict := false
  excused := false
  careful := false
  traced := false
  final := false

namespace Eval

/-- What becomes of a shell that runs out of stack. -/
def overflow {α : Type} : Eval α :=
  throw (.halt (.signal ⟨11⟩))

/-- The variables that programs are started with. -/
def environment (s : State) : List (String × ByteText) :=
  s.bindings.filter fun entry => s.exported.contains entry.1

/-- Goes through a source as long as there is more of it. -/
def follow (step : Source → Eval (Option Source)) : Nat → Source → Eval Unit
  | 0, _ => return
  | limit + 1, source => do
      match ← step source with
      | some next => follow step limit next
      | none => return

/-- Runs something that may fail without ending the shell. -/
def excusing (body : Eval Unit) : Eval Unit := do
  let before := (← shell).excused
  change fun s => { s with excused := true }
  body
  change fun s => { s with excused := before }

/-- Ends a strict shell after a failure that is not excused. -/
def insist : Eval Unit := do
  let s ← shell
  if s.strict && !s.excused && s.status ≠ 0 then throw .exit

/-- What a shell calls a refusal when it opens or creates something. -/
def refusalText (cause : Refusal) (whenMissing : String) : String :=
  if cause = .noEntry || cause = .notDirectory then whenMissing else Utility.reason cause

/-- The quoted or loose characters of a value. -/
def atomsOf (quoted : Bool) (value : ByteText) : List Atom :=
  if quoted then .quotes :: value.map fun c => .fixed ⟨c, true⟩ else value.map .loose

/-- All arguments, as fields of their own or, quoted as one, with a separator between them. -/
def argumentAtoms (s : State) (quoted asOne : Bool) : List Atom :=
  if quoted && asOne then
    let between := (s.separators.head?.map fun c => [c]).getD []
    atomsOf true (between.intercalate s.arguments)
  else if s.arguments.isEmpty then [.void]
  else [.gap].intercalate (s.arguments.map (atomsOf quoted))

/-- Takes away the newlines at the end of what commands have printed. -/
def chomp (text : ByteText) : ByteText :=
  ((text.reverse.dropWhile (· = '\n')).reverse).filter (· ≠ '\x00')

/-- Goes back to the values that variables had before a function. -/
def restoreSaved (s : State) (before : List (String × Option ByteText)) : State :=
  let restored := s.saved.foldl
    (fun s (name, value?) =>
      match value? with
      | some value => s.assign name value
      | none => s.unset name)
    s
  { restored with saved := before }

/-- Runs something with variables that are handed on, and that go back to their values
afterwards. -/
def temporarily (names : List String) (body : Eval Unit) : Eval Unit := do
  let before ← shell
  change fun s => { s with exported := names ++ s.exported }
  body
  if !names.isEmpty then
    change fun s =>
      let restored := names.foldl
        (fun s name =>
          match before.bindings.lookup name with
          | some value => s.assign name value
          | none => s.unset name)
        s
      { restored with exported := before.exported }

/-- The message of a shell about a child that was killed; some signals are passed over. -/
def obituary (signal : Signal) : String :=
  if signal.number = 2 || signal.number = 13 then ""
  else
    match signal.describe.toList with
    | first :: rest => String.ofList (first.toUpper :: rest) ++ "\n"
    | [] => ""

/-- Complains about a program that cannot be run. -/
def refusing (name : ByteText) (message : String) (status : Nat) : Eval Unit := do
  complain (name ++ .ofString (": " ++ message))
  setStatus status

/-- Says where a command is to be found. -/
def locate (sought : List ByteText) : Eval Unit := do
  let name := (sought.headD []).toText
  let running ← get
  let s := running.shell
  let known := (s.functions.lookup name).isSome || (Builtin.run? name []).isSome
    || Builtin.special.contains name || name = "kill" || name = "command"
  let found := if known then some name else search? running.world.tree name
  match found with
  | some path =>
      print (.ofString path ++ ['\n'])
      setStatus 0
  | none => setStatus 127

mutual

-------------------------------------------------------------------------------
-- Words
-------------------------------------------------------------------------------

/-- Works out a piece of a word. -/
def expandPiece : Nat → Piece → Eval (List Atom)
  | 0, _ => overflow
  | depth + 1, piece => do
      match piece with
      | .text quoted text =>
          if quoted then return atomsOf true text
          else return text.map fun c => .fixed ⟨c, false⟩
      | .parameter quoted name =>
          let s ← shell
          if name = "@" || name = "*" then return argumentAtoms s quoted (name = "*")
          match s.value? name with
          | some value => return atomsOf quoted value
          | none =>
              if s.careful then abort (.ofString (name ++ ": parameter not set"))
              return atomsOf quoted []
      | .length name =>
          let s ← shell
          let length := if name = "@" || name = "*" then s.arguments.length
            else ((s.value? name).getD []).length
          return atomsOf true (.ofInt length)
      | .adjusted quoted name how orEmpty word => adjust depth quoted name how orEmpty word
      | .substitution quoted source => return atomsOf quoted (← substitute depth source)
      | .arithmetic quoted body =>
          let text ← textOf depth body
          let s ← shell
          match Arithmetic.run (fun name => (s.value? name).getD []) text with
          | .error problem => abort (.ofString (problem.message text))
          | .ok (value, assigned) =>
              change fun s => assigned.foldl (fun s (name, value) => s.assign name value) s
              return atomsOf quoted (.ofInt value.toInt)

/-- Works out a parameter with what is done to it. -/
def adjust : Nat → Bool → String → Adjustment → Bool → Word → Eval (List Atom)
  | 0, _, _, _, _, _ => overflow
  | depth + 1, quoted, name, how, orEmpty, word => do
      let s ← shell
      let value? := if name = "@" || name = "*" then
        (if s.arguments.isEmpty then none else some ([' '].intercalate s.arguments))
        else s.value? name
      let missing := match value? with
        | some value => orEmpty && value.isEmpty
        | none => true
      let value := value?.getD []
      let plain := if name = "@" || name = "*" then argumentAtoms s quoted (name = "*")
        else atomsOf quoted value
      let other : Eval (List Atom) := do
        let atoms ← expandWord depth word
        return atoms.map fun
          | .fixed letter => if letter.quoted then .fixed letter else .loose letter.char
          | atom => atom
      match how with
      | .orElse => if missing then other else return plain
      | .ifSet => if missing then return (if quoted then [.quotes] else []) else other
      | .orAssign =>
          if missing then
            let text ← textOf depth word
            change (·.assign name text)
            return atomsOf quoted text
          else return plain
      | .orFail =>
          if missing then
            let text ← textOf depth word
            let reason := if text.isEmpty then
              ByteText.ofString (if orEmpty then "parameter not set or null"
                else "parameter not set")
              else text
            abort (.ofString (name ++ ": ") ++ reason)
          else return plain
      | .withoutStart longest =>
          return atomsOf quoted (Glob.withoutStart longest (← lettersOf depth word) value)
      | .withoutEnd longest =>
          return atomsOf quoted (Glob.withoutEnd longest (← lettersOf depth word) value)

/-- Works out a word. -/
def expandWord : Nat → Word → Eval (List Atom)
  | 0, _ => overflow
  | depth + 1, word => do
      return (← word.mapM (expandPiece depth)).flatten

/-- The letters of a word that is not split. -/
def lettersOf : Nat → Word → Eval (List Letter)
  | 0, _ => overflow
  | depth + 1, word => do
      return Field.whole (← expandWord depth word)

/-- The text of a word that is not split. -/
def textOf : Nat → Word → Eval ByteText
  | 0, _ => overflow
  | depth + 1, word => do
      return Glob.text (← lettersOf depth word)

/-- The fields of words: split, and patterns replaced by the paths that match them. -/
def fieldsOf : Nat → List Word → Eval (List ByteText)
  | 0, _ => overflow
  | depth + 1, words => do
      let found ← words.mapM fun word => do
        let atoms ← expandWord depth word
        let s ← shell
        let tree := (← get).world.tree
        return (Field.split s.separators atoms).flatMap (Glob.paths tree)
      return found.flatten

/-- What commands print, without the newlines at the end. -/
def substitute : Nat → ByteText → Eval ByteText
  | 0, _ => overflow
  | depth + 1, source => do
      let sink ← act Act.openSink
      separately depth (withDescriptors [(1, sink)] (script depth source))
      return chomp (.ofBytes (← act (Act.collected sink)))

-------------------------------------------------------------------------------
-- Scripts
-------------------------------------------------------------------------------

/-- Runs the commands of a text, line by line. -/
def script : Nat → ByteText → Eval Unit
  | 0, _ => overflow
  | depth + 1, text => do
      let step (source : Source) : Eval (Option Source) := do
        match Reading.nextLine.run source with
        | .error complaint =>
            change fun s => { s with line := complaint.line }
            abort (.ofString complaint.message)
        | .ok (none, _) => return none
        | .ok (some command, rest) =>
            change fun s => { s with documents := rest.documents }
            run depth command
            return some rest
      follow step (text.length + 1) (.ofText text 1 (← shell).documents)

/-- Runs the command for the end of the shell. -/
def farewell : Nat → Eval Unit
  | 0 => overflow
  | depth + 1 => do
      let s ← shell
      match s.traps.lookup 0 with
      | none => return
      | some command =>
          change fun s => { s with traps := s.traps.filter fun entry => entry.1 ≠ 0 }
          script depth command
          setStatus s.status

/-- Runs something in a copy of the shell, up to the copy's own end. -/
def separately : Nat → Eval Unit → Eval Unit
  | 0, _ => overflow
  | depth + 1, body =>
      inCopy do
        tryCatch body fun
          | .halt cause => throw (.halt cause)
          | _ => return
        farewell depth

-------------------------------------------------------------------------------
-- Redirections
-------------------------------------------------------------------------------

/-- Makes a redirection; tells whether it could be made. -/
def redirect : Nat → Redirection → Eval Bool
  | 0, _ => overflow
  | depth + 1, redirection => do
      let target ← textOf depth redirection.target
      let opened (result : Except Refusal Descriptor) (doing whenMissing : String)
          : Eval Bool := do
        match result with
        | .ok descriptor =>
            change (·.connect redirection.descriptor descriptor)
            return true
        | .error cause =>
            complain (.ofString ("cannot " ++ doing ++ " ") ++ target
              ++ .ofString (": " ++ refusalText cause whenMissing))
            return false
      match redirection.direction with
      | .input => opened (← act (Act.openInput target.toText)) "open" "No such file"
      | .output =>
          opened (← act (Act.openOutput target.toText false)) "create" "Directory nonexistent"
      | .continued =>
          opened (← act (Act.openOutput target.toText true)) "create" "Directory nonexistent"
      | .duplicate =>
          if target = ['-'] then
            change (·.connect redirection.descriptor .nothing)
            return true
          match ((← shell).descriptors.lookup (ByteText.digitsValue 10 target)) with
          | some descriptor =>
              change (·.connect redirection.descriptor descriptor)
              return true
          | none =>
              complain (target ++ .ofString ": Bad file descriptor")
              return false
      | .document index =>
          let body := ((← shell).documents.lookup index).getD []
          let text ← textOf depth body
          let source ← act (Act.openSource text.toBytes)
          change (·.connect redirection.descriptor source)
          return true

/-- Makes redirections up to the first that cannot be made. -/
def redirectAll : Nat → List Redirection → Eval Bool
  | 0, _ => overflow
  | depth + 1, redirections =>
      redirections.foldlM
        (fun made redirection => if made then redirect depth redirection else return false) true

/-- Runs something with redirections, which are taken back afterwards. -/
def redirecting : Nat → List Redirection → Eval Unit → Eval Unit
  | 0, _, _ => overflow
  | depth + 1, redirections, body =>
      withDescriptors [] do
        if ← redirectAll depth redirections then body else setStatus failure

-------------------------------------------------------------------------------
-- Commands
-------------------------------------------------------------------------------

/-- Runs a command. -/
def run : Nat → Command → Eval Unit
  | 0, _ => overflow
  | depth + 1, command => do
      match command with
      | .simple line assignments words redirections =>
          change fun s => { s with line }
          simple depth assignments words redirections
          insist
      | .sequence commands =>
          if commands.isEmpty then setStatus 0
          commands.forM (run depth)
      | .pipeline stages =>
          pipe depth (← shell).streams.input stages
          insist
      | .negated inner =>
          excusing (run depth inner)
          let status := (← shell).status
          setStatus (if status = 0 then 1 else 0)
      | .both first second =>
          excusing (run depth first)
          if (← shell).status = 0 then run depth second
      | .either first second =>
          excusing (run depth first)
          if (← shell).status ≠ 0 then run depth second
      | .choice condition positive negative =>
          excusing (run depth condition)
          if (← shell).status = 0 then run depth positive else run depth negative
      | .loop untilTrue condition body =>
          let step : Eval Bool := do
            let status := (← shell).status
            let goesOn ← round (excusing (run depth condition))
            if !goesOn then
              setStatus 0
              return false
            if ((← shell).status = 0) = untilTrue then
              setStatus status
              return false
            round (run depth body)
          setStatus 0
          looping (repeating step)
      | .each line name words body =>
          change fun s => { s with line }
          let fields ← match words with
            | some words => fieldsOf depth words
            | none => pure (← shell).arguments
          setStatus 0
          looping do
            let _ ← fields.foldlM
              (fun goesOn field => do
                if goesOn then
                  change (·.assign name field)
                  round (run depth body)
                else return false)
              true
      | .selection line word arms =>
          change fun s => { s with line }
          let subject ← textOf depth word
          let chosen ← arms.foldlM
            (fun chosen (patterns, body) => do
              match chosen with
              | some _ => return chosen
              | none =>
                  let letters ← patterns.mapM (lettersOf depth)
                  return if letters.any (Glob.matchesText · subject) then some body else none)
            none
          match chosen with
          | some body => run depth body
          | none => setStatus 0
      | .apart body =>
          separately depth (run depth body)
          insist
      | .background body =>
          let clock := (← get).world.clock
          separately depth (withDescriptors [(0, .nothing)] (run depth body))
          modify fun running => { running with world := { running.world with clock } }
          setStatus 0
      | .define name body =>
          change fun s => { s with functions := (name, body) :: s.functions }
          setStatus 0
      | .redirected body redirections => redirecting depth redirections (run depth body)

/-- Runs commands, each of which reads what the one before has printed. -/
def pipe : Nat → Descriptor → List Command → Eval Unit
  | 0, _, _ => overflow
  | _, _, [] => return
  | depth + 1, input, [last] => separately depth (withDescriptors [(0, input)] (run depth last))
  | depth + 1, input, stage :: rest => do
      let sink ← act Act.openSink
      separately depth (withDescriptors [(0, input), (1, sink)] (run depth stage))
      let source ← act (Act.openSource (← act (Act.collected sink)))
      pipe depth source rest

/-- Runs a simple command. -/
def simple : Nat → List (String × Word) → List Word → List Redirection → Eval Unit
  | 0, _, _, _ => overflow
  | depth + 1, assignments, words, redirections => do
      let assignAll : Eval Unit := assignments.forM fun (name, word) => do
        let value ← textOf depth word
        if words.isEmpty then trace [.ofString name ++ '=' :: value]
        change (·.assign name value)
      let fields ← fieldsOf depth words
      if !fields.isEmpty then trace fields
      match fields with
      | [] =>
          let substitutes := (assignments.map Prod.snd ++ words).any fun word =>
            word.any fun
              | .substitution _ _ => true
              | _ => false
          if ← redirectApart depth redirections then
            assignAll
            if !substitutes then setStatus 0
          else setStatus failure
      | name :: arguments =>
          let text := name.toText
          if text = "exec" then
            if ← redirectAll depth redirections then replace depth arguments
            else
              setStatus failure
              throw .exit
          else if Builtin.special.contains text
              && ((← shell).functions.lookup text).isNone then
            assignAll
            withDescriptors [] do
              if ← redirectAll depth redirections then invoke depth false name arguments
              else
                setStatus failure
                throw .exit
          else
            redirecting depth redirections (temporarily (assignments.map Prod.fst) do
              assignAll
              invoke depth false name arguments)

/-- Makes redirections for nothing but their effect on files. -/
def redirectApart : Nat → List Redirection → Eval Bool
  | 0, _ => overflow
  | depth + 1, redirections => do
      let before := (← shell).descriptors
      let made ← redirectAll depth redirections
      change fun s => { s with descriptors := before }
      return made

/-- Runs a function, a command of the shell itself, or a program; `plainly` passes functions
over. -/
def invoke : Nat → Bool → ByteText → List ByteText → Eval Unit
  | 0, _, _, _ => overflow
  | depth + 1, plainly, name, arguments => do
      let text := name.toText
      let before ← shell
      match if plainly then none else before.functions.lookup text with
      | some body =>
          change fun s => { s with arguments, saved := [], loops := 0 }
          tryCatch (run depth body) fun
            | .functionEnd => return
            | leave => throw leave
          change fun s =>
            { restoreSaved s before.saved with arguments := before.arguments,
                                               loops := before.loops }
      | none =>
          match text with
          | "eval" =>
              if arguments.isEmpty then setStatus 0
              else script depth ([' '].intercalate arguments)
          | "." => source depth arguments
          | "kill" =>
              let (status, commands) ← Builtin.kill topProcess arguments
              setStatus status
              commands.forM fun command => do
                script depth command
                setStatus status
          | "command" =>
              match arguments with
              | [] => setStatus 0
              | ['-', 'v'] :: sought => locate sought
              | name :: arguments => invoke depth true name arguments
          | _ =>
              match Builtin.run? text arguments with
              | some body => setStatus (← body)
              | none => program depth (refusing name) (name :: arguments)

/-- Runs the commands of a file in the present shell. -/
def source : Nat → List ByteText → Eval Unit
  | 0, _ => overflow
  | depth + 1, arguments => do
      let path := arguments.headD []
      if !path.contains '/' then Builtin.abort "." (path.toText ++ ": not found")
      match (← get).world.tree.readFile path.toText with
      | .ok data =>
          tryCatch (script depth (.ofBytes data)) fun
            | .functionEnd => return
            | leave => throw leave
      | .error _ => Builtin.abort "." ("cannot open " ++ path.toText ++ ": No such file")

/-- Puts a program in the shell's place. -/
def replace : Nat → List ByteText → Eval Unit
  | 0, _ => overflow
  | depth + 1, words => do
      if words.isEmpty then setStatus 0
      else
        change fun s =>
          { s with traps := s.traps.filter (fun entry => entry.1 ≠ 0), final := true }
        program depth (refusing (.ofString "exec: " ++ words.headD [])) words
        throw .exit

-------------------------------------------------------------------------------
-- Programs
-------------------------------------------------------------------------------

/-- Runs a program with its arguments, and keeps its status. `refuse` is told why a program
cannot be run. -/
def program : Nat → (String → Nat → Eval Unit) → List ByteText → Eval Unit
  | 0, _, _ => overflow
  | depth + 1, refuse, words => do
      let name := words.headD []
      let tree := (← get).world.tree
      let path? := if name.contains '/' then some name.toText else search? tree name.toText
      match path? with
      | none => refuse (if name.isEmpty then "Permission denied" else "not found") 127
      | some path =>
          match load tree interpreterDepth path words with
          | .ok image => execute depth image
          | .error .execFormat =>
              execute depth ⟨"sh", .ofString "sh" :: .ofString path :: words.drop 1⟩
          | .error .noEntry => refuse "not found" 127
          | .error .notDirectory => refuse "not found" 127
          | .error cause => refuse (Utility.reason cause) 126

/-- Runs a program of the system. -/
def execute : Nat → Image → Eval Unit
  | 0, _ => overflow
  | depth + 1, image => do
      let s ← shell
      match image.program with
      | "sh" => child depth s image.arguments
      | "dash" => child depth s image.arguments
      | "env" =>
          let isAssignment (word : ByteText) : Bool := word.contains '='
          let given := (image.arguments.drop 1).takeWhile isAssignment
          let words := (image.arguments.drop 1).dropWhile isAssignment
          let bindings := given.map fun word =>
            (String.ofList (word.takeWhile (· ≠ '=')), (word.dropWhile (· ≠ '=')).drop 1)
          inCopy do
            change fun s => bindings.foldl (fun s (name, value) => s.assign name value)
              { s with exported := bindings.map Prod.fst ++ s.exported }
            if words.isEmpty then
              (environment (← shell)).forM fun (name, value) =>
                print (.ofString name ++ '=' :: value ++ ['\n'])
              setStatus 0
            else
              let refuse (_ : String) (status : Nat) : Eval Unit := do
                let front := (image.arguments.headD []).toText ++ ": '"
                act (Act.writeText s.streams.errors
                  (front ++ (words.headD []).toText ++ "': No such file or directory\n"))
                setStatus status
              program depth refuse words
      | name =>
          let call : Call := ⟨image.arguments.headD [], image.arguments.drop 1, s.streams⟩
          setStatus (← act (Utility.run name call))

/-- Runs another shell, as a process of its own unless it takes the place of the one above. -/
def child : Nat → State → List ByteText → Eval Unit
  | 0, _, _ => overflow
  | depth + 1, above, arguments => do
      let running ← get
      let home := running.world.tree.home
      let process := if above.final then above.process else above.process + 1
      let parent := if above.final then above.parent else above.process
      set { running with
        shell := State.first process parent (environment above) above.streams }
      let killed? ← tryCatch (do main depth arguments; return none) fun
        | .halt (.signal signal) =>
            if above.final then throw (.halt (.signal signal)) else return some signal
        | .halt .endless => throw (.halt .endless)
        | _ => return none
      let status ← match killed? with
        | some signal => do
            act (Act.writeText (above.descriptor 2) (obituary signal))
            pure (128 + signal.number.toNat)
        | none => pure (← shell).status
      modify fun after =>
        { after with
          shell := { above with status }
          world := { after.world with tree := { after.world.tree with home } } }

/-- Runs a shell from its arguments to its end. -/
def main : Nat → List ByteText → Eval Unit
  | 0, _ => overflow
  | depth + 1, arguments => do
      tryCatch (interpret depth (arguments.headD []) (arguments.drop 1)) fun
        | .halt cause => throw (.halt cause)
        | _ => return
      tryCatch (farewell depth) fun
        | .halt cause => throw (.halt cause)
        | _ => return

/-- Runs what a shell's arguments ask for: a command line, a file, or the standard input. -/
def interpret : Nat → ByteText → List ByteText → Eval Unit
  | 0, _, _ => overflow
  | depth + 1, called, arguments => do
      match arguments with
      | ['-', 'c'] :: text :: rest =>
          change fun s => { s with name := rest.headD called, arguments := rest.drop 1 }
          script depth text
      | ('-' :: letter :: letters) :: rest =>
          let _ ← Builtin.setOptions [('-' :: letter :: letters)]
          interpret depth called rest
      | path :: rest =>
          change fun s => { s with name := called, arguments := rest }
          let tree := (← get).world.tree
          match tree.openPath path.toText with
          | .ok (.contents data) =>
              change fun s => { s with name := path }
              script depth (.ofBytes data)
          | .ok .directory => setStatus 0
          | .error _ => abort (.ofString "cannot open " ++ path ++ .ofString ": No such file")
      | [] =>
          change fun s => { s with name := called }
          let data ← act (Act.readAll (← shell).streams.input)
          script depth (.ofBytes (data.getD []))

end

end Eval

end GoldenSuite.Shell

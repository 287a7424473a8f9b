import GoldenSuite.Command.Flag

/-! What a call of the program asks for: a run, a help text, or the version. -/

namespace GoldenSuite

/-- A switch with a long and a short name. -/
structure Toggle where
  on : Bool := false
  byLongName : Bool := false
  byShortName : Bool := false
deriving DecidableEq, Inhabited

namespace Toggle

/-- The flags of a toggle that is part of a larger state. -/
def takers {σ : Type} (long short : String) (get : σ → Toggle) (put : σ → Toggle → σ)
    : List (String × Taker σ) :=
  [ (long, .switch fun s on => put s { get s with on, byLongName := true }),
    (short, .switch fun s on => put s { get s with on, byShortName := true }) ]

/-- Both names must not be used at once. -/
def check (toggle : Toggle) (long short : String) : Except UsageError Unit :=
  if toggle.byLongName && toggle.byShortName then .error (.twoForms short long) else .ok ()

end Toggle

/-- A text about how to use the program. -/
inductive HelpText where
  | program
  /-- The command that gives help. -/
  | command
  /-- The same with the commands it takes. -/
  | commandWithCommands
deriving DecidableEq

/-- What a call asks for. -/
inductive Request where
  | run (settings : Settings) (rest : List String)
  | help (text : HelpText)
  | version
  | unknownTopic (topic : String)
  /-- A wrong call, and the help that goes with it. -/
  | misuse (error : UsageError) (text : HelpText)
deriving DecidableEq

namespace Request

/-- What flags say before it is decided what is asked for. -/
structure Flags where
  settings : Settings := {}
  help : Toggle := {}
  version : Toggle := {}

def takers : List (String × Taker Flags) :=
  (Flag.all.map fun flag =>
    (flag.name,
      match flag.taker with
      | .switch put => .switch fun s value => { s with settings := put s.settings value }
      | .text put => .text fun s value => { s with settings := put s.settings value }
      | .duration put => .duration fun s value => { s with settings := put s.settings value }))
  ++ Toggle.takers "help" "h" (·.help) (fun s help => { s with help })
  ++ Toggle.takers "version" "v" (·.version) (fun s version => { s with version })

/-- Reads variables and then flags. -/
def readFlags (environment : String → Option String) (arguments : List String)
    : Except UsageError (Flags × List String) := do
  let settings ← Flag.readVariables environment Flag.all {}
  let (flags, rest) ← Taker.readAll takers { settings } arguments
  flags.help.check "help" "h"
  flags.version.check "version" "v"
  return (flags, rest)

/-- The names of the command that gives help. -/
def isHelpName (name : String) : Bool :=
  name = "help" || name = "h"

/-- The help on what the arguments name, `named` being the help on the help command. -/
def helpOn (named : HelpText) (arguments : List String) : Request :=
  match arguments with
  | [] => .help .program
  | topic :: _ =>
      if topic = "" then .help .program
      else if isHelpName topic then .help named
      else .unknownTopic topic

/-- Reads the flags of the help command. -/
def readHelpFlags (arguments : List String) : Except UsageError (Toggle × List String) :=
  Taker.readAll (Toggle.takers "help" "h" id (fun _ toggle => toggle)) {} arguments

/-- What the help command asks for with its arguments. Named as a topic, it is called again with
the arguments that follow, and then gives help on itself. -/
def ofHelpCommand (unnamed : HelpText) (arguments : List String) : Request :=
  match h : readHelpFlags arguments with
  | .error e => .misuse e .commandWithCommands
  | .ok (toggle, topics) =>
      match toggle.check "help" "h" with
      | .error e => .misuse e .commandWithCommands
      | .ok () =>
          match topics with
          | [] => .help unnamed
          | topic :: later =>
              if topic = "" then .help unnamed
              else if !isHelpName topic then .unknownTopic topic
              else if toggle.on then .help .commandWithCommands
              else
                have : later.length < arguments.length := Taker.length_le_of_readAll h
                ofHelpCommand .command later
termination_by arguments.length

/-- What a call asks for: a wrong call first, then help, then the version. -/
def of (environment : String → Option String) (arguments : List String) : Request :=
  match readFlags environment arguments with
  | .error e => .misuse e .program
  | .ok (flags, rest) =>
      if flags.help.on then helpOn .commandWithCommands rest
      else if flags.version.on then .version
      else
        match rest with
        | [] => .run flags.settings []
        | name :: more =>
            if isHelpName name then ofHelpCommand .program more
            else .run flags.settings (name :: more)

end Request

end GoldenSuite

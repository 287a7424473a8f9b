import GoldenSuite.Command.Settings
import GoldenSuite.Text.Quoted

/-! Flags: how they are written on the command line, and the variables that stand for them. -/

namespace GoldenSuite

/-- What a flag takes and what it does with it. -/
inductive Taker (σ : Type) where
  | switch (put : σ → Bool → σ)
  | text (put : σ → String → σ)
  | duration (put : σ → Duration → σ)

/-- What is wrong with the way the program is called. -/
inductive UsageError where
  | badSyntax (argument : String)
  | undefinedFlag (name : String)
  | missingArgument (name : String)
  | badSwitch (value name : String)
  | badValue (value name : String)
  | badSwitchVariable (value envName name : String)
  | badDurationVariable (value envName name : String) (cause : Duration.ParseError)
  | twoForms (second first : String)
deriving DecidableEq

namespace UsageError

def source (envName : String) : String :=
  " from environment variable " ++ Text.Quoted.ofString envName ++ " for flag "

def message : UsageError → String
  | .badSyntax argument => "bad flag syntax: " ++ argument
  | .undefinedFlag name => "flag provided but not defined: -" ++ name
  | .missingArgument name => "flag needs an argument: -" ++ name
  | .badSwitch value name =>
      "invalid boolean value " ++ Text.Quoted.ofString value ++ " for -" ++ name
        ++ ": parse error"
  | .badValue value name =>
      "invalid value " ++ Text.Quoted.ofString value ++ " for flag -" ++ name ++ ": parse error"
  | .badSwitchVariable value envName name =>
      "could not parse " ++ Text.Quoted.ofString value ++ " as bool value" ++ source envName ++ name
        ++ ": strconv.ParseBool: parsing " ++ Text.Quoted.ofString value ++ ": invalid syntax"
  | .badDurationVariable value envName name cause =>
      "could not parse " ++ Text.Quoted.ofString value ++ " as duration value" ++ source envName
        ++ name ++ ": " ++ cause.message value
  | .twoForms second first =>
      "Cannot use two forms of the same flag: " ++ second ++ " " ++ first

end UsageError

namespace Taker

variable {σ : Type}

/-- The truth value that a text stands for. -/
def switch? (text : String) : Option Bool :=
  if text ∈ ["1", "t", "T", "TRUE", "true", "True"] then some true
  else if text ∈ ["0", "f", "F", "FALSE", "false", "False"] then some false
  else none

-------------------------------------------------------------------------------
-- The command line
-------------------------------------------------------------------------------

/-- The name in a flag, and the value after an equals sign. The name has at least one
character. -/
def nameAndValue (text : List Char) : String × Option String :=
  match text with
  | [] => ("", none)
  | first :: rest =>
      let name := String.ofList (first :: rest.takeWhile (· ≠ '='))
      match rest.dropWhile (· ≠ '=') with
      | [] => (name, none)
      | _ :: value => (name, some (String.ofList value))

/-- What an argument is. -/
inductive Argument where
  /-- Not a flag: here the flags end. -/
  | plain
  /-- Two dashes alone: the flags end behind it. -/
  | terminator
  | bad
  | flag (name : String) (value : Option String)

def argument (text : String) : Argument :=
  match text.toList with
  | '-' :: '-' :: [] => .terminator
  | '-' :: '-' :: c :: rest =>
      if c = '-' || c = '=' then .bad
      else .flag (nameAndValue (c :: rest)).1 (nameAndValue (c :: rest)).2
  | '-' :: c :: rest =>
      if c = '=' then .bad else .flag (nameAndValue (c :: rest)).1 (nameAndValue (c :: rest)).2
  | _ => .plain

/-- Gives a value to a flag that needs one. -/
def take (taker : Taker σ) (name value : String) (state : σ) : Except UsageError σ :=
  match taker with
  | .switch put =>
      match switch? value with
      | some flag => .ok (put state flag)
      | none => .error (.badSwitch value name)
  | .text put => .ok (put state value)
  | .duration put =>
      match Duration.parse value with
      | .ok time => .ok (put state time)
      | .error _ => .error (.badValue value name)

/-- Reads flags up to the first argument that is none; gives the arguments from there on. A flag
may come more than once, and the last one counts. -/
def readAll (takers : List (String × Taker σ)) (state : σ)
    : List String → Except UsageError (σ × List String)
  | [] => .ok (state, [])
  | word :: rest =>
      match argument word with
      | .plain => .ok (state, word :: rest)
      | .terminator => .ok (state, rest)
      | .bad => .error (.badSyntax word)
      | .flag name value =>
          match takers.lookup name, value with
          | none, _ => .error (.undefinedFlag name)
          | some taker, some value =>
              match taker.take name value state with
              | .error e => .error e
              | .ok state => readAll takers state rest
          | some (.switch put), none => readAll takers (put state true) rest
          | some taker, none =>
              match rest with
              | [] => .error (.missingArgument name)
              | value :: rest =>
                  match taker.take name value state with
                  | .error e => .error e
                  | .ok state => readAll takers state rest
termination_by arguments => arguments.length

/-- The arguments that are left are no more than there were. -/
theorem length_le_of_readAll {takers : List (String × Taker σ)} {state last : σ}
    {arguments rest : List String} (h : readAll takers state arguments = .ok (last, rest))
    : rest.length ≤ arguments.length := by
  fun_induction readAll takers state arguments <;> simp_all <;> omega

end Taker

-------------------------------------------------------------------------------
-- The flags of a run
-------------------------------------------------------------------------------

/-- A flag of a run: its name, the variable that stands for it, and what it sets. -/
structure Flag where
  name : String
  envName : String
  taker : Taker Settings

namespace Flag

/-- All flags of a run, in the order of their variables. -/
def all : List Flag :=
  [ ⟨"no-colors", "GRADESCRIPT_NO_COLORS", .switch fun s flag => { s with noColors := some flag }⟩,
    ⟨"machine", "GRADESCRIPT_MACHINE", .text fun s text => { s with machine := some text }⟩,
    ⟨"tests-dir", "GRADESCRIPT_TESTS_DIR", .text fun s text => { s with testsDir := some text }⟩,
    ⟨"config", "GRADESCRIPT_CONFIG", .text fun s text => { s with config := some text }⟩,
    ⟨"timeout", "GRADESCRIPT_TIMEOUT", .duration fun s time => { s with timeout := some time }⟩,
    ⟨"strict-exit", "GRADESCRIPT_STRICT_EXIT",
      .switch fun s flag => { s with strictExit := some flag }⟩,
    ⟨"run", "GRADESCRIPT_RUN", .text fun s text => { s with run := some text }⟩,
    ⟨"diff", "GRADESCRIPT_DIFF", .switch fun s flag => { s with diff := some flag }⟩,
    ⟨"table", "GRADESCRIPT_TABLE", .switch fun s flag => { s with table := some flag }⟩,
    ⟨"log.level", "GRADESCRIPT_LOG_LEVEL", .text fun s text => { s with logLevel := some text }⟩ ]

/-- Sets a flag from its variable. An empty variable switches off, sets an empty text, and says
nothing about a duration. -/
def readVariable (flag : Flag) (value : String) (settings : Settings)
    : Except UsageError Settings :=
  match flag.taker with
  | .switch put =>
      if value = "" then .ok (put settings false)
      else
        match Taker.switch? value with
        | some on => .ok (put settings on)
        | none => .error (.badSwitchVariable value flag.envName flag.name)
  | .text put => .ok (put settings value)
  | .duration put =>
      if value = "" then .ok settings
      else
        match Duration.parse value with
        | .ok duration => .ok (put settings duration)
        | .error cause => .error (.badDurationVariable value flag.envName flag.name cause)

/-- Sets flags from the variables that exist, up to the first that is wrong. -/
def readVariables (environment : String → Option String)
    : List Flag → Settings → Except UsageError Settings
  | [], settings => .ok settings
  | flag :: rest, settings =>
      match environment flag.envName with
      | none => readVariables environment rest settings
      | some value =>
          match flag.readVariable value settings with
          | .error e => .error e
          | .ok settings => readVariables environment rest settings

end Flag

end GoldenSuite

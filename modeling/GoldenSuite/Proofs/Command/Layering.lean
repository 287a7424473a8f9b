import GoldenSuite.Command.Flag
import GoldenSuite.Proofs.FileTree.Walking
import Mathlib

/-! How a configuration comes about, field by field. Every field has the value of its flag if that
is set, else the value that the file gives it over the defaults. There are two ways to fail: a file
that cannot be loaded, and a merged configuration that is not accepted.
-/

namespace GoldenSuite

-----------------------------------------------------------------------------------------
-- Files
-----------------------------------------------------------------------------------------

namespace Config

/-- A configuration that is accepted: nothing that a run needs is empty, and the time for a case is
not negative.
-/
structure Valid (config : Config) : Prop where
  machine : config.machine ≠ ""
  programs : config.layout.programs ≠ ""
  inputs : config.layout.inputs ≠ ""
  references : config.layout.references ≠ ""
  scratch : config.layout.scratch ≠ ""
  programExt : config.layout.programExt ≠ ""
  timeout : 0 ≤ config.timeout.ns

/-- Nothing is found wrong with the accepted configurations, and with no others. -/
theorem invalid?_eq_none_iff (config : Config) : config.invalid? = none ↔ config.Valid := by
  constructor
  · intro none
    simp only [invalid?, Bool.or_eq_true, decide_eq_true_eq] at none
    grind [Valid, Int64.not_lt]
  · rintro ⟨machine, programs, inputs, references, scratch, programExt, timeout⟩
    simp [invalid?, *, Int64.not_lt.mpr timeout]

/-- What is found wrong with a configuration is a reason not to accept it. -/
theorem not_valid_of_invalid? {config : Config} {invalid : Invalid}
    (found : config.invalid? = some invalid)
    : ¬config.Valid := by
  intro valid
  rw [(invalid?_eq_none_iff config).mpr valid] at found
  cases found

/-- The configuration that the file at a path gives over the defaults, if it is accepted. -/
structure Loads (tree : FileTree) (path : String) (config : Config) : Prop where
  decoded : ∃ data, tree.readFile path = .ok data ∧ Yaml.decode fileShape data default = .ok config
  valid : config.Valid

/-- The file at a path cannot be read, or is no document with fields of a configuration, or gives a
configuration that is not accepted.
-/
inductive Unloadable (tree : FileTree) (path : String) : Prop where
  | unreadable {fault : Fault} (unread : tree.readFile path = .error fault)
  | undecodable {data : Bytes} {unusable : Yaml.Unusable} (read : tree.readFile path = .ok data)
      (undecoded : Yaml.decode fileShape data default = .error unusable)
  | invalid {data : Bytes} {config : Config} (read : tree.readFile path = .ok data)
      (decoded : Yaml.decode fileShape data default = .ok config) (invalid : ¬config.Valid)

/-- Loading gives what the file gives over the defaults. -/
theorem load_eq_ok_iff {tree : FileTree} {path : String} {config : Config}
    : load tree path = .ok config ↔ Loads tree path config := by
  unfold load
  constructor
  · intro loaded
    split at loaded
    next => cases loaded
    next data read =>
      split at loaded
      next => cases loaded
      next decoded =>
        split at loaded
        next => cases loaded
        next none =>
          cases loaded
          exact ⟨⟨data, read, decoded⟩, (invalid?_eq_none_iff config).mp none⟩
  · rintro ⟨⟨data, read, decoded⟩, valid⟩
    simp only [read, decoded, (invalid?_eq_none_iff config).mpr valid]

/-- Loading fails on the files that cannot be loaded. -/
theorem load_fails_iff {tree : FileTree} {path : String}
    : (∃ fault, load tree path = .error fault) ↔ Unloadable tree path := by
  constructor
  · rintro ⟨fault, failed⟩
    unfold load at failed
    split at failed
    next unread => exact .unreadable unread
    next data read =>
      split at failed
      next undecoded => exact .undecodable read undecoded
      next decoded =>
        split at failed
        next found => exact .invalid read decoded (not_valid_of_invalid? found)
        next => cases failed
  · intro unloadable
    cases loaded : load tree path with
    | error fault => exact ⟨fault, rfl⟩
    | ok config =>
        obtain ⟨⟨data, read, decoded⟩, valid⟩ := load_eq_ok_iff.mp loaded
        cases unloadable with
        | unreadable unread => simp [unread] at read
        | undecodable read' undecoded => simp_all
        | invalid read' decoded' invalid => simp_all

-----------------------------------------------------------------------------------------
-- Fields
-----------------------------------------------------------------------------------------

/-- The fields of a configuration. -/
inductive Field where
  | machine
  | programs
  | inputs
  | references
  | scratch
  | programExt
  | timeout
  | strictExit
  | noColors
  | run
  | showDiff
  | showTable
deriving DecidableEq

namespace Field

/-- What a field holds. -/
abbrev Value : Field → Type
  | .machine | .programs | .inputs | .references | .scratch | .programExt | .run => String
  | .timeout => Duration
  | .strictExit | .noColors | .showDiff | .showTable => Bool

/-- The name of the flag for a field. Four of the fields share one, and one has none. -/
def flag? : Field → Option String
  | .machine => some "machine"
  | .programs | .inputs | .references | .scratch => some "tests-dir"
  | .programExt => none
  | .timeout => some "timeout"
  | .strictExit => some "strict-exit"
  | .noColors => some "no-colors"
  | .run => some "run"
  | .showDiff => some "diff"
  | .showTable => some "table"

end Field

def get (config : Config) : (field : Field) → field.Value
  | .machine => config.machine
  | .programs => config.layout.programs
  | .inputs => config.layout.inputs
  | .references => config.layout.references
  | .scratch => config.layout.scratch
  | .programExt => config.layout.programExt
  | .timeout => config.timeout
  | .strictExit => config.strictExit
  | .noColors => config.noColors
  | .run => config.run
  | .showDiff => config.showDiff
  | .showTable => config.showTable

/-- A configuration is all its fields. -/
theorem eq_of_get_eq {left right : Config} (same : ∀ field, left.get field = right.get field)
    : left = right := by
  obtain ⟨_, ⟨_, _, _, _, _⟩, _, _, _, _, _, _⟩ := left
  obtain ⟨_, ⟨_, _, _, _, _⟩, _, _, _, _, _, _⟩ := right
  simp only [mk.injEq, Layout.mk.injEq]
  exact ⟨same .machine,
    ⟨same .programs, same .inputs, same .references, same .scratch, same .programExt⟩,
    same .timeout, same .strictExit, same .noColors, same .run, same .showDiff, same .showTable⟩

end Config

-----------------------------------------------------------------------------------------
-- Layers
-----------------------------------------------------------------------------------------

namespace Settings

open Config (Field Loads Unloadable)

/-- The path of the configuration file, empty without one. -/
def configPath (settings : Settings) : String :=
  settings.config.getD ""

/-- The value that a field gets by its flag, if the flag is set. A tests directory gives all
directories of the standard layout below it, and no extension.
-/
def given? (settings : Settings) : (field : Field) → Option field.Value
  | .machine => settings.machine
  | .programs => settings.testsDir.map fun dir => (Layout.under dir).programs
  | .inputs => settings.testsDir.map fun dir => (Layout.under dir).inputs
  | .references => settings.testsDir.map fun dir => (Layout.under dir).references
  | .scratch => settings.testsDir.map fun dir => (Layout.under dir).scratch
  | .programExt => none
  | .timeout => settings.timeout
  | .strictExit => settings.strictExit
  | .noColors => settings.noColors
  | .run => settings.run
  | .showDiff => settings.diff
  | .showTable => settings.table

/-- What is below the settings: the defaults if no file is named, and else what the file gives over
them.
-/
inductive Below (tree : FileTree) (settings : Settings) : Config → Prop where
  | default (unnamed : settings.configPath = "") : Below tree settings .default
  | file {config : Config} (named : settings.configPath ≠ "")
      (loads : Loads tree settings.configPath config)
    : Below tree settings config

/-- Every field of a configuration is as its flag says, and as below where the flag is not set. -/
def Merges (settings : Settings) (below config : Config) : Prop :=
  ∀ field, config.get field = (settings.given? field).getD (below.get field)

/-- What is set is laid over what is below, field by field, and nothing else. -/
theorem merges_iff {settings : Settings} {below config : Config}
    : settings.Merges below config ↔ config = settings.applyTo below := by
  have laid : settings.Merges below (settings.applyTo below) := by
    obtain ⟨_, _, testsDir, _, _, _, _, _, _, _⟩ := settings
    intro field
    cases field <;> cases testsDir <;> rfl
  constructor
  · intro merges
    apply Config.eq_of_get_eq
    intro field
    rw [merges field, laid field]
  · rintro rfl
    exact laid

theorem base_eq (tree : FileTree) (settings : Settings)
    : settings.base tree
      = if settings.configPath = "" then .ok .default
        else Config.load tree settings.configPath := by
  unfold base configPath
  cases settings.config <;> simp

/-- The configuration below the settings. -/
theorem base_eq_ok_iff {tree : FileTree} {settings : Settings} {below : Config}
    : settings.base tree = .ok below ↔ settings.Below tree below := by
  rw [base_eq]
  split
  next unnamed =>
    constructor
    · rintro ⟨⟩
      exact .default unnamed
    · rintro (_ | ⟨named, _⟩)
      · rfl
      · exact absurd unnamed named
  next named =>
    rw [Config.load_eq_ok_iff]
    constructor
    · exact .file named
    · rintro (unnamed | ⟨_, loads⟩)
      · exact absurd unnamed named
      · exact loads

/-- There is nothing below the settings if a file is named and cannot be loaded. -/
theorem base_fails_iff {tree : FileTree} {settings : Settings}
    : (∃ fault, settings.base tree = .error fault)
      ↔ settings.configPath ≠ "" ∧ Unloadable tree settings.configPath := by
  rw [base_eq]
  split
  next unnamed => simp [unnamed]
  next named => simp [named, Config.load_fails_iff]

/-- Settings give a configuration exactly if it is their merge with what is below and is
accepted.
-/
theorem configure_eq_ok_iff {tree : FileTree} {settings : Settings} {config : Config}
    : settings.configure tree = .ok config
      ↔ ∃ below, settings.Below tree below ∧ settings.Merges below config ∧ config.Valid := by
  simp only [← base_eq_ok_iff, merges_iff]
  unfold configure
  constructor
  · intro configured
    split at configured
    next => cases configured
    next below based =>
      dsimp only at configured
      split at configured
      next => cases configured
      next none =>
        cases configured
        exact ⟨below, based, rfl, (Config.invalid?_eq_none_iff _).mp none⟩
  · rintro ⟨below, based, rfl, valid⟩
    simp only [based, (Config.invalid?_eq_none_iff _).mpr valid]

/-- Settings give no configuration exactly if there is nothing below them or their merge is not
accepted.
-/
theorem configure_fails_iff {tree : FileTree} {settings : Settings}
    : (∃ fault, settings.configure tree = .error fault)
      ↔ (settings.configPath ≠ "" ∧ Unloadable tree settings.configPath)
        ∨ ∃ below config,
            settings.Below tree below ∧ settings.Merges below config ∧ ¬config.Valid := by
  simp only [← base_fails_iff, ← base_eq_ok_iff, merges_iff]
  unfold configure
  constructor
  · rintro ⟨fault, failed⟩
    split at failed
    next fault based => exact .inl ⟨fault, based⟩
    next below based =>
      dsimp only at failed
      split at failed
      next found => exact .inr ⟨below, _, based, rfl, Config.not_valid_of_invalid? found⟩
      next => cases failed
  · rintro (⟨fault, based⟩ | ⟨below, config, based, rfl, invalid⟩)
    · exact ⟨fault, by simp only [based]⟩
    · rw [← Config.invalid?_eq_none_iff] at invalid
      obtain ⟨found, some⟩ := Option.ne_none_iff_exists'.mp invalid
      exact ⟨.plain found.message, by simp only [based, some]⟩

end Settings

-----------------------------------------------------------------------------------------
-- Flags
-----------------------------------------------------------------------------------------

/-- A flag takes one state to another by some value. -/
inductive Taker.Sets {σ : Type} : Taker σ → σ → σ → Prop where
  | switch (put : σ → Bool → σ) (state : σ) (on : Bool)
    : Sets (.switch put) state (put state on)
  | text (put : σ → String → σ) (state : σ) (text : String)
    : Sets (.text put) state (put state text)
  | duration (put : σ → Duration → σ) (state : σ) (time : Duration)
    : Sets (.duration put) state (put state time)

namespace Flag

open Config (Field)

variable {flag : Flag} {settings after : Settings}

/-- A flag gives values to its own fields alone. -/
theorem given?_of_sets (known : flag ∈ all) (sets : flag.taker.Sets settings after)
    {field : Field} (others : field.flag? ≠ some flag.name)
    : after.given? field = settings.given? field := by
  simp only [all, List.mem_cons, List.not_mem_nil, or_false] at known
  rcases known with rfl | rfl | rfl | rfl | rfl | rfl | rfl | rfl | rfl | rfl <;> cases sets
    <;> cases field <;> first | rfl | exact absurd rfl others

/-- A flag other than that for the configuration file leaves its path. -/
theorem configPath_of_sets (known : flag ∈ all) (sets : flag.taker.Sets settings after)
    (others : flag.name ≠ "config")
    : after.configPath = settings.configPath := by
  simp only [all, List.mem_cons, List.not_mem_nil, or_false] at known
  rcases known with rfl | rfl | rfl | rfl | rfl | rfl | rfl | rfl | rfl | rfl <;> cases sets
    <;> first | rfl | exact absurd rfl others

end Flag

namespace Settings

/-- Configurations are layered field by field. Settings give a configuration exactly if every field
of it is as its flag says, or as what is below where the flag is not set, and the whole is accepted.
They fail exactly if the file that they name cannot be loaded or the merged configuration is not
accepted. One more flag, that for the file apart, changes the fields of its own alone.
-/
theorem configure_layers (tree : FileTree) (settings : Settings)
    : (∀ config,
        settings.configure tree = .ok config
        ↔ ∃ below, settings.Below tree below ∧ settings.Merges below config ∧ config.Valid)
      ∧ ((∃ fault, settings.configure tree = .error fault)
        ↔ (settings.configPath ≠ "" ∧ Config.Unloadable tree settings.configPath)
          ∨ ∃ below config,
              settings.Below tree below ∧ settings.Merges below config ∧ ¬config.Valid)
      ∧ ∀ flag ∈ Flag.all,
          flag.name ≠ "config"
          → ∀ after config result,
              flag.taker.Sets settings after
              → settings.configure tree = .ok config
              → after.configure tree = .ok result
              → ∀ field, field.flag? ≠ some flag.name → result.get field = config.get field := by
  refine ⟨fun config => configure_eq_ok_iff, configure_fails_iff, ?_⟩
  intro flag known unnamed after config result sets configured configured' field others
  obtain ⟨below, isBelow, merges, _⟩ := configure_eq_ok_iff.mp configured
  obtain ⟨below', isBelow', merges', _⟩ := configure_eq_ok_iff.mp configured'
  have same : below' = below := by
    rw [← base_eq_ok_iff, base_eq] at isBelow isBelow'
    rw [Flag.configPath_of_sets known sets unnamed, isBelow] at isBelow'
    exact (Except.ok.inj isBelow').symm
  rw [merges' field, merges field, Flag.given?_of_sets known sets others, same]

/-- A directory with a configuration file that asks for differences and has an extension. -/
def configuredHome : FileTree where
  nodes := [(["c"], .file (Bytes.ofString "diff: true\nlayout:\n  program_ext: .x\n") 0o644)]
  home := []

/-- What the file says over the defaults. -/
def configuredBelow : Config :=
  { Config.default with
    layout := { Config.default.layout with programExt := ".x" }
    showDiff := true }

theorem configuredHome_loads : Config.Loads configuredHome "c" configuredBelow := by
  have located : configuredHome.locate true "c" = .ok ["c"] := by
    rw [FileTree.locate_relative (by decide) (by decide) (by decide) (by decide)
      (by decide : FileTree.stepsOf "c" = ["c"])]
    cbv
  have decoded
      : (Yaml.decode Config.fileShape
            (Bytes.ofString "diff: true\nlayout:\n  program_ext: .x\n") .default).toOption
        = some configuredBelow := by
    decide +kernel
  refine ⟨⟨_, FileTree.readFile_eq_ok_iff.mpr ⟨["c"], located, rfl⟩, ?_⟩,
    (Config.invalid?_eq_none_iff _).mp (by decide)⟩
  generalize Yaml.decode _ _ _ = result at decoded
  cases result <;> simp_all [Except.toOption]

/-- Settings with a file, a tests directory, no limit of time, and no differences. -/
def overriding : Settings where
  config := some "c"
  testsDir := some "T"
  timeout := some .zero
  diff := some false

/-- Differences that are explicitly off stay off, the extension of the file stays, one more flag
leaves the time as it is, and an empty program under test is refused.
-/
theorem configure_layers_overriding
    : overriding.configure configuredHome
        = .ok { Config.default with
            layout := { Layout.under "T" with programExt := ".x" }
            timeout := .zero }
      ∧ (∀ result,
          ({ overriding with strictExit := some true } : Settings).configure configuredHome
            = .ok result
          → result.timeout = .zero)
      ∧ ∃ fault,
          ({ overriding with machine := some "" } : Settings).configure configuredHome
          = .error fault := by
  obtain ⟨layers, _, others⟩ := configure_layers configuredHome overriding
  have configured :=
    (layers _).mpr ⟨configuredBelow, .file (by decide) configuredHome_loads, merges_iff.mpr rfl,
      (Config.invalid?_eq_none_iff _).mp (by decide)⟩
  have refused :=
    (configure_layers configuredHome { overriding with machine := some "" }).2.1.mpr
      (.inr ⟨configuredBelow, _, .file (by decide) configuredHome_loads, merges_iff.mpr rfl,
        fun valid => valid.machine rfl⟩)
  refine ⟨configured, ?_, refused⟩
  intro result configured'
  have strictExit : Flag.all[5] ∈ Flag.all := List.getElem_mem _
  exact others _ strictExit (by decide) _ _ _ (.switch _ _ true) configured configured' .timeout
    (by decide)

end Settings

end GoldenSuite

import GoldenSuite.Proofs.Command.Fatal
import GoldenSuite.Proofs.Report.Coloring
import GoldenSuite.Proofs.Run.Twins

/-! How a run is presented does not change what it does. Two calls whose configurations differ in
colours, differences, the table or the log level alone record the same results, make the same
invocations, leave the same tree and end with the same code; and what the one prints about its cases
with colours, the other prints without.
-/

namespace GoldenSuite

variable {σ τ : Type}

-----------------------------------------------------------------------------------------
-- Runs
-----------------------------------------------------------------------------------------

namespace Harness

open Coloring

variable {related : σ → τ → Prop} {left : Harness σ} {right : Harness τ} {s : Session σ}
  {t : Session τ}

/-- Twin runs that judge equally strictly have the same tally and the same fault, leave the same
tree, and make the same invocations.
-/
theorem Twins.run_eq (twins : left.Twins related right)
    (strict : left.config.strictExit = right.config.strictExit) (sessions : s.Twins related t)
    : (left.run s).tally = (right.run t).tally
      ∧ (left.run s).fault = (right.run t).fault
      ∧ (left.run s).session.tree = (right.run t).session.tree
      ∧ (left.calls s).map Exchange.invocation = (right.calls t).map Exchange.invocation := by
  obtain ⟨fault, tree, invocations, tally⟩ := twins.run sessions id (by simp [strict])
  refine ⟨?_, fault, tree, invocations⟩
  rcases tally with ⟨none, none'⟩ | ⟨results, recorded, recorded'⟩
  · rw [none, none']
  · rw [recorded, recorded', List.map_id]

/-- Two outputs have grown by texts of which the first becomes the second without its colours. -/
def GrownAlike (first second : String) (colored plain : String) : Prop :=
  ∃ text bare, colored = first ++ text ∧ plain = second ++ bare ∧ Fades text bare

/-- Outputs go on to grow alike. -/
theorem GrownAlike.append {first second colored plain text bare : String}
    (grown : GrownAlike first second colored plain) (fades : Fades text bare)
    : GrownAlike first second (colored ++ text) (plain ++ bare) := by
  obtain ⟨before, bareBefore, rfl, rfl, faded⟩ := grown
  exact ⟨before ++ text, bareBefore ++ bare, String.append_assoc, String.append_assoc,
    faded.append fades⟩

/-- Of twin runs that show no differences, over cases with plain names, the one with colours prints
what the other prints, once its colours are deleted.
-/
theorem Twins.output_withoutColors (twins : left.Twins related right)
    (strict : left.config.strictExit = right.config.strictExit) (sessions : s.Twins related t)
    (colored : left.reporter.colors = true) (uncolored : right.reporter.colors = false)
    (undiffed : left.reporter.showDiff = false) (undiffed' : right.reporter.showDiff = false)
    (named
      : ∀ tree cases,
          Scratch.reset t.tree right.config.layout.scratch = (tree, none)
          → Discovery.discover tree right.config.layout right.selects = .ok cases
          → ∀ tc ∈ cases, Plain tc.name)
    : ∃ text,
        (left.run s).session.output = s.output ++ text
        ∧ (right.run t).session.output = t.output ++ withoutColors text := by
  have parallel
      : left.Parallel (.oneTree related (GrownAlike s.output t.output)) id
          (fun tc => Plain tc.name) right := {
    interrupts := twins.interrupts
    answers := twins.answers.parallel _
    judges := by simp [strict]
    starts := fun grown tc plain =>
      GrownAlike.append grown (Reporter.fades_starting colored uncolored plain)
    finishes := by
      intro first second tree other grown trees result plain
      rw [Reporter.finished_of_undiffed undiffed, Reporter.finished_of_undiffed undiffed']
      exact GrownAlike.append grown (Reporter.fades_verdictLine colored uncolored plain)
  }
  have begun : GrownAlike s.output t.output s.output t.output :=
    ⟨"", "", by simp, by simp, Plain.fades (by decide)⟩
  obtain ⟨text, bare, printed, printed', fades⟩ :=
    (parallel.run (twins.outset sessions begun named)).session.output
  exact ⟨text, printed, by rw [printed', fades.withoutColors_eq]⟩

end Harness

-----------------------------------------------------------------------------------------
-- Calls
-----------------------------------------------------------------------------------------

/-- A configuration without what it says about colours, differences and the table. -/
def Config.bare (config : Config) : Config :=
  { config with noColors := false, showDiff := false, showTable := false }

/-- Configurations that differ in presentation alone have the same directories and filter, and judge
equally strictly.
-/
theorem Config.of_bare_eq {left right : Config} (same : left.bare = right.bare)
    : left.layout = right.layout
      ∧ left.run = right.run
      ∧ left.strictExit = right.strictExit := by
  simp only [bare, mk.injEq] at same
  obtain ⟨_, layout, _, strict, _, filter, _⟩ := same
  exact ⟨layout, filter, strict⟩

namespace Command

open Coloring

/-- A call that asks for a run, with a configuration that can be read and a log level that there
is.
-/
structure Configured (around : Surroundings σ) (arguments : List String) (s : Session σ)
    (settings : Settings) (config : Config)
    : Prop where
  asked : ∃ rest, Request.of around.environment arguments = .run settings rest
  configured : settings.configure s.tree = .ok config
  leveled : ∃ level, Level.parse settings.level = .ok level

/-- Two configurations for the same task: they differ in presentation alone, executors give the same
answers under both, and the request to stop comes at the same looks.
-/
structure SameTask (related : σ → τ → Prop) (left : Surroundings σ) (right : Surroundings τ)
    (config other : Config)
    : Prop where
  bare : config.bare = other.bare
  answers : (left.executor config).SameAnswers related (right.executor other)
  interrupts : left.interrupts = right.interrupts

/-- What a configured call gets ready. -/
theorem Configured.prepare_eq {around : Surroundings σ} {arguments : List String} {s : Session σ}
    {settings : Settings} {config : Config}
    (call : Configured around arguments s settings config)
    : ∃ logger,
        prepare around settings s
        = (s.log logger (configRecord config),
            Harness.create config logger (some (around.executor config))
              (colors around config around.outputIsTerminal) around.interrupts) := by
  obtain ⟨level, leveled⟩ := call.leveled
  simp only [prepare, call.configured, log_create_eq, leveled]
  exact ⟨_, rfl⟩

/-- A configured call carries out its run. -/
theorem Configured.run_eq {around : Surroundings σ} {arguments : List String} {s : Session σ}
    {settings : Settings} {config : Config}
    (call : Configured around arguments s settings config)
    : run around arguments s = runWith around settings s
      ∧ calls around arguments s = callsOf (prepare around settings s) := by
  obtain ⟨rest, asked⟩ := call.asked
  exact ⟨by rw [run, asked, perform], calls_eq_callsOf s asked⟩

@[simp] theorem tree_finish (around : Surroundings σ) (h : Harness σ) (ending : Harness.Ending σ)
    : (finish around h ending).session.tree = ending.session.tree := by
  unfold finish
  split
  · split <;> rfl
  · rfl
  · rfl

/-- The code of a call is told by the fault and the tally of its run. -/
theorem code_finish {left : Surroundings σ} {right : Surroundings τ} {h : Harness σ}
    {other : Harness τ} {ending : Harness.Ending σ} {ending' : Harness.Ending τ}
    (fault : ending.fault = ending'.fault) (tally : ending.tally = ending'.tally)
    : (finish left h ending).code = (finish right other ending').code := by
  unfold finish
  rw [fault, tally]
  split
  · split <;> rfl
  · rfl
  · rfl

/-- The harness that is made for a configuration and its filter. -/
def harnessFor (around : Surroundings σ) (config : Config) (logger : Log.Logger)
    (selects : String → Bool)
    : Harness σ where
  config := config
  logger := logger
  selects := selects
  executor := around.executor config
  reporter := ⟨colors around config around.outputIsTerminal, config.showDiff⟩
  interrupts := around.interrupts

/-- Harnesses for the same task are twins. -/
theorem SameTask.twins {related : σ → τ → Prop} {left : Surroundings σ} {right : Surroundings τ}
    {config other : Config} (task : SameTask related left right config other)
    (logger logger' : Log.Logger) (selects : String → Bool)
    : (harnessFor left config logger selects).Twins related
        (harnessFor right other logger' selects) where
  layout := (Config.of_bare_eq task.bare).1
  selects := rfl
  interrupts := task.interrupts
  answers := task.answers

/-- How a run is presented does not change what it does. Two calls for the same task, in sessions
that agree in all but what has been printed and logged, end with the same code, leave the same tree
and make the same invocations. Unless the filter is refused, both runs have the same tally and the
same fault; and if the one is to use colours and the other is not, neither shows differences, and no
name of a case has an escape character in it, then what the one has printed is, once the colour
sequences are deleted, what the other has printed.
-/
theorem run_presentation {related : σ → τ → Prop} {left : Surroundings σ} {right : Surroundings τ}
    {arguments others : List String} {settings settings' : Settings} {config other : Config}
    {s : Session σ} {t : Session τ} (call : Configured left arguments s settings config)
    (call' : Configured right others t settings' other)
    (task : SameTask related left right config other) (sessions : s.Twins related t)
    : (run left arguments s).code = (run right others t).code
      ∧ (run left arguments s).session.tree = (run right others t).session.tree
      ∧ (calls left arguments s).map Exchange.invocation
        = (calls right others t).map Exchange.invocation
      ∧ ((∃ fault, Harness.selector config.run = .error fault)
        ∨ ∃ selects h ready h' ready',
            Harness.selector config.run = .ok selects
            ∧ prepare left settings s = (ready, .ok h)
            ∧ prepare right settings' t = (ready', .ok h')
            ∧ (h.run ready).tally = (h'.run ready').tally
            ∧ (h.run ready).fault = (h'.run ready').fault
            ∧ (colors left config left.outputIsTerminal = true
              → colors right other right.outputIsTerminal = false
              → config.showDiff = false
              → other.showDiff = false
              → (∀ tree cases,
                  Scratch.reset t.tree other.layout.scratch = (tree, none)
                  → Discovery.discover tree other.layout selects = .ok cases
                  → ∀ tc ∈ cases, Plain tc.name)
              → ∃ text,
                  (h.run ready).session.output = s.output ++ text
                  ∧ (h'.run ready').session.output = t.output ++ withoutColors text)) := by
  obtain ⟨logger, prepared⟩ := call.prepare_eq
  obtain ⟨logger', prepared'⟩ := call'.prepare_eq
  obtain ⟨carried, called⟩ := call.run_eq
  obtain ⟨carried', called'⟩ := call'.run_eq
  obtain ⟨_, filter, strict⟩ := Config.of_bare_eq task.bare
  rw [carried, carried', called, called', runWith_eq_prepare, runWith_eq_prepare]
  cases selected : Harness.selector config.run with
  | error fault =>
      -- Neither call has a harness, so neither runs anything.
      have refused : Harness.selector other.run = .error fault := by rw [← filter, selected]
      rw [prepared, prepared']
      simp only [Harness.create, selected, refused]
      exact ⟨rfl, sessions.tree, rfl, Or.inl ⟨fault, rfl⟩⟩
  | ok selects =>
      have selected' : Harness.selector other.run = .ok selects := by rw [← filter, selected]
      simp only [Harness.create, selected] at prepared
      simp only [Harness.create, selected'] at prepared'
      have twins := task.twins logger logger' selects
      have ready : (s.log logger (configRecord config)).Twins related
          (t.log logger' (configRecord other)) :=
        { sessions with }
      obtain ⟨tally, fault, tree, invocations⟩ := twins.run_eq strict ready
      rw [prepared, prepared']
      refine ⟨code_finish fault tally, ?_, invocations,
        Or.inr ⟨selects, _, _, _, _, rfl, rfl, rfl, tally, fault, ?_⟩⟩
      · rw [tree_finish, tree_finish]
        exact tree
      · intro colored uncolored undiffed undiffed' named
        exact twins.output_withoutColors strict ready colored uncolored undiffed undiffed' named

-----------------------------------------------------------------------------------------
-- Two presentations of one run
-----------------------------------------------------------------------------------------

/-- Surroundings in which both streams go to a terminal. -/
def terminalSurroundings : Surroundings Scripted.State :=
  { plainSurroundings with outputIsTerminal := true, diagnosticsIsTerminal := true }

/-- A tests directory with one program. -/
def soloTests : FileTree where
  nodes := [(["v"], .directory), (["v", "a.v"], .file [65] 0o644)]
  home := []

/-- The same without colours and with a table. -/
def plainConfig : Config :=
  { homeConfig with noColors := true, showTable := true }

/-- The settings of a call that asks for these, and for more in the log. -/
def plainSettings : Settings where
  testsDir := some "."
  noColors := some true
  table := some true
  logLevel := some "debug"

/-- The cases of the tests directory have plain names. -/
theorem plain_of_discover_soloTests {tree : FileTree} {cases : List TestCase}
    (reset : Scratch.reset soloTests homeConfig.layout.scratch = (tree, none))
    (found : Discovery.discover tree homeConfig.layout (fun _ => true) = .ok cases)
    : ∀ tc ∈ cases, Plain tc.name := by
  have cleared : Scratch.reset soloTests homeConfig.layout.scratch
      = ({ soloTests with nodes := (["our"], .directory) :: soloTests.nodes }, none) := by
    cbv
  obtain rfl := congrArg Prod.fst (cleared.symm.trans reset)
  have listed : Discovery.discover
      { soloTests with nodes := (["our"], .directory) :: soloTests.nodes } homeConfig.layout
      (fun _ => true)
      = .ok [Discovery.caseAt homeConfig.layout "a" "" ""] := by
    cbv
  obtain rfl := Except.ok.inj (listed.symm.trans found)
  decide

/-- A run in colours, and the same run without them, with a table and with more in the log: both
end with the same code and the same tally, and what the first prints about its cases is, without its
colours, what the second prints.
-/
theorem run_presentation_soloTests
    : Configured terminalSurroundings ["--tests-dir", "."] (.start soloTests ⟨[], []⟩ false)
        { testsDir := some "." } homeConfig
      ∧ Configured terminalSurroundings
          ["--tests-dir", ".", "--no-colors", "--table", "--log.level", "debug"]
          (.start soloTests ⟨[], []⟩ false) plainSettings plainConfig
      ∧ SameTask Eq terminalSurroundings terminalSurroundings homeConfig plainConfig
      ∧ (run terminalSurroundings ["--tests-dir", "."] (.start soloTests ⟨[], []⟩ false)).code
        = (run terminalSurroundings
            ["--tests-dir", ".", "--no-colors", "--table", "--log.level", "debug"]
            (.start soloTests ⟨[], []⟩ false)).code
      ∧ ∃ h ready h' ready' text,
          prepare terminalSurroundings { testsDir := some "." } (.start soloTests ⟨[], []⟩ false)
            = (ready, .ok h)
          ∧ prepare terminalSurroundings plainSettings (.start soloTests ⟨[], []⟩ false)
            = (ready', .ok h')
          ∧ (h.run ready).tally = (h'.run ready').tally
          ∧ (h.run ready).session.output = text
          ∧ (h'.run ready').session.output = withoutColors text := by
  have call
      : Configured terminalSurroundings ["--tests-dir", "."] (.start soloTests ⟨[], []⟩ false)
          { testsDir := some "." } homeConfig :=
    ⟨⟨[], by cbv⟩, by cbv, ⟨_, by cbv⟩⟩
  have call'
      : Configured terminalSurroundings
          ["--tests-dir", ".", "--no-colors", "--table", "--log.level", "debug"]
          (.start soloTests ⟨[], []⟩ false) plainSettings plainConfig :=
    ⟨⟨[], by cbv⟩, by cbv, ⟨_, by cbv⟩⟩
  have task : SameTask Eq terminalSurroundings terminalSurroundings homeConfig plainConfig :=
    ⟨rfl, .refl _, rfl⟩
  obtain ⟨code, _, _, ⟨_, refused⟩ | ⟨selects, h, ready, h', ready', selected, prepared, prepared',
    tally, _, faded⟩⟩ := run_presentation call call' task ⟨rfl, rfl, rfl, rfl⟩
  · cases refused
  · obtain rfl := Except.ok.inj selected
    obtain ⟨text, printed, printed'⟩ := faded rfl rfl rfl rfl
      fun tree cases reset found => plain_of_discover_soloTests reset found
    refine ⟨call, call', task, code, h, ready, h', ready', text, prepared, prepared', tally, ?_, ?_⟩
    · simpa [Session.start] using printed
    · simpa [Session.start] using printed'

end Command

end GoldenSuite

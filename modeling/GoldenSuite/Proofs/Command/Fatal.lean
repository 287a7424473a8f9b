import GoldenSuite.Proofs.Command.ExitCode
import GoldenSuite.Proofs.Run.Abort

/-! Fatal failures come before the first case. A call that ends with the code of a run that could
not be carried out, and not for a request to stop, has never called its executor and has printed
nothing; and as long as there is no harness, nothing in the file tree has been touched.
-/

namespace GoldenSuite

variable {σ : Type}

-----------------------------------------------------------------------------------------
-- The calls that a call of the program makes of its executor
-----------------------------------------------------------------------------------------

/-- The same surroundings, in which executors note their calls. -/
def Surroundings.recording (around : Surroundings σ)
    : Surroundings (σ × List (Exchange σ)) where
  environment := around.environment
  executor config := (around.executor config).recording
  interrupts := around.interrupts
  runId := around.runId
  clock := around.clock
  outputIsTerminal := around.outputIsTerminal
  diagnosticsIsTerminal := around.diagnosticsIsTerminal

/-- The outcome with the calls that have been noted. -/
def Outcome.noting (outcome : Outcome σ) (noted : List (Exchange σ))
    : Outcome (σ × List (Exchange σ)) where
  code := outcome.code
  session := outcome.session.noting noted

namespace Command

/-- The calls that one call of the program makes of its executor, in order. -/
def calls (around : Surroundings σ) (arguments : List String) (s : Session σ)
    : List (Exchange σ) :=
  (run around.recording arguments (s.noting [])).session.host.2

/-- A harness that is made to note its calls is the harness that notes them. -/
theorem create_recording (config : Config) (logger : Log.Logger) (executor : Executor σ)
    (colors : Bool) (interrupts : Nat → Bool)
    : Harness.create config logger (some executor.recording) colors interrupts
      = (Harness.create config logger (some executor) colors interrupts).map
          Harness.recording := by
  unfold Harness.create
  cases Harness.selector config.run <;> rfl

/-- Getting ready does not look at the noted calls. -/
theorem prepare_recording (around : Surroundings σ) (settings : Settings) (s : Session σ)
    (noted : List (Exchange σ))
    : prepare around.recording settings (s.noting noted)
      = ((prepare around settings s).1.noting noted,
        (prepare around settings s).2.map Harness.recording) := by
  have sameColors (config : Config) (isTerminal : Bool)
      : colors around.recording config isTerminal = colors around config isTerminal :=
    rfl
  simp only [prepare, Session.tree_noting, sameColors]
  cases settings.configure s.tree with
  | error fault => rfl
  | ok config =>
      dsimp only
      have sameLog
          : Log.create settings.level
              (colors around config around.recording.diagnosticsIsTerminal) around.recording.clock
            = Log.create settings.level (colors around config around.diagnosticsIsTerminal)
                around.clock :=
        rfl
      rw [sameLog]
      cases Log.create settings.level (colors around config around.diagnosticsIsTerminal)
        around.clock with
      | error fault => rfl
      | ok logger => exact Prod.ext rfl (create_recording config _ _ _ _)

/-- The end of a call does not look at the noted calls. -/
theorem finish_recording (around : Surroundings σ) (h : Harness σ) (ending : Harness.Ending σ)
    (noted : List (Exchange σ))
    : finish around.recording h.recording (ending.noting noted)
      = (finish around h ending).noting noted := by
  obtain ⟨s, tally, fault⟩ := ending
  cases fault with
  | none => cases tally <;> rfl
  | some fault =>
      simp only [finish, Harness.Ending.noting]
      split <;> rfl

/-- The calls of a call of the program are those of its run, and none if there is no run. -/
def callsOf : Session σ × Except Fault (Harness σ) → List (Exchange σ)
  | (ready, .ok h) => h.calls ready
  | (_, .error _) => []

/-- A call that notes what it calls ends as the call itself does. -/
theorem runWith_recording (around : Surroundings σ) (settings : Settings) (s : Session σ)
    : runWith around.recording settings (s.noting [])
      = (runWith around settings s).noting (callsOf (prepare around settings s)) := by
  rw [runWith_eq_prepare, runWith_eq_prepare, prepare_recording]
  cases prepare around settings s with
  | mk ready made =>
      cases made with
      | error fault => rfl
      | ok h =>
          simp only [Except.map, callsOf, Harness.run_recording]
          exact finish_recording around h (h.run ready) (h.calls ready)

/-- The calls of a call that asks for a run. -/
theorem calls_eq_callsOf {around : Surroundings σ} {arguments : List String} {settings : Settings}
    {rest : List String} (s : Session σ)
    (asked : Request.of around.environment arguments = .run settings rest)
    : calls around arguments s = callsOf (prepare around settings s) := by
  have carried : run around.recording arguments (s.noting [])
      = runWith around.recording settings (s.noting []) := by
    have asked' : Request.of around.recording.environment arguments = .run settings rest := asked
    rw [run, asked', perform]
  rw [calls, carried, runWith_recording]
  rfl

-----------------------------------------------------------------------------------------
-- Fatal failures
-----------------------------------------------------------------------------------------

/-- A call whose run was asked to stop. -/
def Interrupted (around : Surroundings σ) (settings : Settings) (s : Session σ) : Prop :=
  ∃ h ready,
    prepare around settings s = (ready, .ok h) ∧ (h.run ready).fault = some (.mark .canceled)

/-- A call whose configuration, log level or filter is wrong. -/
inductive Misconfigured (settings : Settings) (tree : FileTree) : Prop
  | configuration {fault : Fault} (refused : settings.configure tree = .error fault)
  | logLevel {error : Level.ParseError} (refused : Level.parse settings.level = .error error)
  | filter {config : Config} {fault : Fault} (configured : settings.configure tree = .ok config)
    (refused : Harness.selector config.run = .error fault)

/-- Getting ready touches neither the file tree nor the executor. -/
theorem prepare_untouched (around : Surroundings σ) (settings : Settings) (s : Session σ)
    : (prepare around settings s).1.tree = s.tree
      ∧ (prepare around settings s).1.host = s.host := by
  unfold prepare
  split
  · exact ⟨rfl, rfl⟩
  · split <;> exact ⟨rfl, rfl⟩

/-- There is no harness for a wrong configuration, log level or filter. -/
theorem prepare_of_misconfigured (around : Surroundings σ) {settings : Settings} {s : Session σ}
    (wrong : Misconfigured settings s.tree)
    : ∃ ready fault, prepare around settings s = (ready, .error fault) := by
  cases wrong with
  | @configuration fault refused => exact ⟨s, fault, by simp only [prepare, refused]⟩
  | logLevel refused =>
      cases configured : settings.configure s.tree with
      | error fault => exact ⟨s, fault, by simp only [prepare, configured]⟩
      | ok config =>
          simp only [prepare, configured, log_create_eq, refused]
          exact ⟨_, _, rfl⟩
  | @filter config fault configured refused =>
      simp only [prepare, configured, log_create_eq]
      cases Level.parse settings.level with
      | error error => exact ⟨_, _, rfl⟩
      | ok level =>
          simp only [Harness.create, refused]
          exact ⟨_, _, rfl⟩

/-- A run that ends with a fault of its own has called nothing and printed nothing. Witness: of the
three courses of a run, only the last comes to its cases, and it ends with the request to stop or
without a fault.
-/
theorem run_quiet_of_fault {h : Harness σ} {s : Session σ} {fault : Fault}
    (broken : (h.run s).fault = some fault) (own : fault ≠ .mark .canceled)
    : h.calls s = []
      ∧ (h.run s).session.output = s.output
      ∧ (h.run s).session.host = s.host := by
  have course := h.run_course s
  generalize h.run s = out at broken course ⊢
  cases course with
  | unreset reset =>
      refine ⟨?_, rfl, rfl⟩
      simp only [Harness.calls, Harness.run, Harness.recording, Session.tree_noting, reset]
      rfl
  | undiscovered reset found =>
      refine ⟨?_, rfl, rfl⟩
      simp only [Harness.calls, Harness.run, Harness.recording, Session.tree_noting, reset, found]
      rfl
  | @ran tree cases reset found =>
      obtain ⟨_, none | canceled⟩ :=
        h.ending_fault (h.runCases (h.opening s tree cases) .empty cases)
      · rw [none] at broken
        cases broken
      · rw [canceled] at broken
        exact absurd (Option.some.inj broken).symm own

/-- The end of a call after a fault adds to the log alone. -/
theorem finish_quiet_of_fault (around : Surroundings σ) (h : Harness σ)
    {ending : Harness.Ending σ} {fault : Fault} (broken : ending.fault = some fault)
    : (finish around h ending).session.output = ending.session.output
      ∧ (finish around h ending).session.host = ending.session.host := by
  simp only [finish, broken]
  split <;> exact ⟨rfl, rfl⟩

/-- Fatal failures come before the first case. If a call that asks for a run ends with the code 2,
and not because the run was asked to stop, then the executor was never called and nothing was
printed. If its configuration, its log level or its filter is wrong, the file tree is unchanged as
well.
-/
theorem run_fatal_quiet {around : Surroundings σ} {arguments : List String} {settings : Settings}
    {rest : List String} {s : Session σ}
    (asked : Request.of around.environment arguments = .run settings rest)
    (fatal : (run around arguments s).code = 2) (unasked : ¬Interrupted around settings s)
    : calls around arguments s = []
      ∧ (run around arguments s).session.output = s.output
      ∧ (run around arguments s).session.host = s.host
      ∧ (Misconfigured settings s.tree → (run around arguments s).session.tree = s.tree) := by
  have carried : run around arguments s = runWith around settings s := by
    rw [run, asked, perform]
  rw [carried] at fatal ⊢
  rw [calls_eq_callsOf s asked]
  have output := output_prepare around settings s
  obtain ⟨tree, host⟩ := prepare_untouched around settings s
  have unfinished : Unfinished around settings s := by
    refine (completed_or_unfinished around settings s).resolve_left ?_
    rintro ⟨h, ready, tally, completed⟩
    exact completed.facts.2.2.1 fatal
  rcases unfinished.cause with ⟨ready, fault, refused⟩ | ⟨ready, h, fault, prepared, broken⟩
  · rw [refused] at output tree host
    rw [runWith_eq_prepare, refused]
    exact ⟨rfl, output, host, fun _ => tree⟩
  · have own : fault ≠ .mark .canceled := by
      rintro rfl
      exact unasked ⟨h, ready, prepared, broken⟩
    obtain ⟨uncalled, printed, untouched⟩ := run_quiet_of_fault broken own
    obtain ⟨closing, kept⟩ := finish_quiet_of_fault around h broken
    rw [prepared] at output host
    rw [runWith_eq_prepare, prepared]
    refine ⟨uncalled, closing.trans (printed.trans output), kept.trans (untouched.trans host), ?_⟩
    intro wrong
    obtain ⟨_, _, refused⟩ := prepare_of_misconfigured around wrong
    rw [prepared] at refused
    cases refused

/-- A tests directory in which an earlier run has left an output. -/
def usedTests : Session Scripted.State :=
  .start
    { nodes :=
        [(["Tests"], .directory), (["Tests", "our"], .directory),
          (["Tests", "our", "a.txt"], .file [65] 0o644)]
      home := [] }
    ⟨[], []⟩ false

/-- A log level that does not exist ends the call before that output is removed. -/
theorem run_fatal_quiet_usedTests
    : Request.of plainSurroundings.environment ["--log.level", "loud"]
        = .run { logLevel := some "loud" } []
      ∧ (run plainSurroundings ["--log.level", "loud"] usedTests).code = 2
      ∧ ¬Interrupted plainSurroundings { logLevel := some "loud" } usedTests
      ∧ calls plainSurroundings ["--log.level", "loud"] usedTests = []
      ∧ (run plainSurroundings ["--log.level", "loud"] usedTests).session.tree
        = usedTests.tree := by
  have asked : Request.of plainSurroundings.environment ["--log.level", "loud"]
      = .run { logLevel := some "loud" } [] := by
    cbv
  have level : Level.parse "loud" = .error .unknownName := by cbv
  have wrong : Misconfigured { logLevel := some "loud" } usedTests.tree := .logLevel level
  obtain ⟨ready, fault, refused⟩ := prepare_of_misconfigured plainSurroundings wrong
  have code : (run plainSurroundings ["--log.level", "loud"] usedTests).code = 2 := by
    rw [run, asked, perform]
    exact (runWith_of_prepare_error refused).1
  have unasked : ¬Interrupted plainSurroundings { logLevel := some "loud" } usedTests := by
    rintro ⟨h, other, prepared, _⟩
    rw [refused] at prepared
    cases prepared
  obtain ⟨uncalled, _, _, unchanged⟩ := run_fatal_quiet asked code unasked
  exact ⟨asked, code, unasked, uncalled, unchanged wrong⟩

end Command

end GoldenSuite

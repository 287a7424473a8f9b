import GoldenSuite.Command.Run
import GoldenSuite.Proofs.Run.Passing
import GoldenSuite.Proofs.Run.Printing

/-! The exit code of a call, what it prints last, and the results of its run agree. A call either
makes its run ready, carries it to its end and concludes it by the verdicts of all cases, or it is
left unfinished, and then it prints no summary.
-/

namespace GoldenSuite

-----------------------------------------------------------------------------------------
-- Complete runs
-----------------------------------------------------------------------------------------

/-- A run without a fault has a tally, in which a result is recorded for every case that it has
found.
-/
theorem Harness.of_run_unbroken {σ : Type} {h : Harness σ} {s : Session σ}
    (unbroken : (h.run s).fault = none)
    : ∃ tree cases results,
        Scratch.reset s.tree h.config.layout.scratch = (tree, none)
        ∧ Discovery.discover tree h.config.layout h.selects = .ok cases
        ∧ (h.run s).tally = some (Tally.empty.recordAll results)
        ∧ results.map CaseResult.tc = cases := by
  have course := h.run_course s
  generalize h.run s = ending at unbroken course ⊢
  cases course with
  | unreset reset => cases unbroken
  | undiscovered reset found => cases unbroken
  | @ran tree cases reset found =>
      obtain ⟨ran, rest, results, reached, rfl, steps, finish⟩ :=
        h.runCases_steps (h.opening s tree cases) .empty cases
      obtain ⟨tallied, complete, _⟩ := finish.ending_facts
      refine ⟨tree, ran ++ rest, results, reset, found, tallied, ?_⟩
      rw [steps.results_tc, complete.mp unbroken, List.append_nil]

namespace Command

variable {σ : Type}

-----------------------------------------------------------------------------------------
-- Getting ready
-----------------------------------------------------------------------------------------

/-- What a call gets ready for its run: the session, in which the log speaks of the configuration,
and the harness or the fault for which there is none.
-/
def prepare (around : Surroundings σ) (settings : Settings) (s : Session σ)
    : Session σ × Except Fault (Harness σ) :=
  match settings.configure s.tree with
  | .error fault => (s, .error fault)
  | .ok config =>
      match Log.create settings.level (colors around config around.diagnosticsIsTerminal)
        around.clock with
      | .error fault => (s, .error fault)
      | .ok logger =>
          let logger := logger.extend "run" (.text around.runId)
          (s.log logger (configRecord config),
            Harness.create config logger (some (around.executor config))
              (colors around config around.outputIsTerminal) around.interrupts)

/-- A call runs the harness that it has got ready, and is refused if there is none. -/
theorem runWith_eq_prepare (around : Surroundings σ) (settings : Settings) (s : Session σ)
    : runWith around settings s
      = match prepare around settings s with
        | (ready, .error fault) => refuse ready fault
        | (ready, .ok h) => finish around h (h.run ready) := by
  unfold runWith prepare
  cases settings.configure s.tree with
  | error fault => rfl
  | ok config =>
      dsimp only
      cases Log.create settings.level (colors around config around.diagnosticsIsTerminal)
        around.clock with
      | error fault => rfl
      | ok logger =>
          dsimp only
          split <;> simp_all

/-- Getting ready prints nothing. -/
theorem output_prepare (around : Surroundings σ) (settings : Settings) (s : Session σ)
    : (prepare around settings s).1.output = s.output := by
  unfold prepare
  split
  · rfl
  · split <;> rfl

/-- A harness is refused for its filter alone. -/
theorem create_eq_error_iff {config : Config} {logger : Log.Logger} {executor : Executor σ}
    {colors : Bool} {interrupts : Nat → Bool}
    : (∃ fault, Harness.create config logger (some executor) colors interrupts = .error fault)
      ↔ ∃ fault, Harness.selector config.run = .error fault := by
  unfold Harness.create
  cases Harness.selector config.run <;> simp

/-- A logger is refused for the name of its level alone. -/
theorem log_create_eq (level : String) (colors : Bool) (clock : String)
    : Log.create level colors clock
      = match Level.parse level with
        | .ok threshold => .ok { threshold, colors, clock }
        | .error e => .error (.plain (e.message level)) :=
  rfl

-----------------------------------------------------------------------------------------
-- Completed and unfinished calls
-----------------------------------------------------------------------------------------

/-- A call has carried its run to the end: the harness was got ready and has run without a fault,
and this is its tally.
-/
structure Completed (around : Surroundings σ) (settings : Settings) (s : Session σ)
    (h : Harness σ) (ready : Session σ) (tally : Tally)
    : Prop where
  prepared : prepare around settings s = (ready, .ok h)
  unbroken : (h.run ready).fault = none
  tallied : (h.run ready).tally = some tally

/-- A call is completed in one way. -/
theorem Completed.unique {around : Surroundings σ} {settings : Settings} {s ready : Session σ}
    {ready' : Session σ} {h h' : Harness σ} {tally tally' : Tally}
    (completed : Completed around settings s h ready tally)
    (again : Completed around settings s h' ready' tally')
    : h = h' ∧ ready = ready' ∧ tally = tally' := by
  obtain ⟨rfl, same⟩ := Prod.mk.inj (completed.prepared.symm.trans again.prepared)
  obtain rfl := Except.ok.inj same
  exact ⟨rfl, rfl, Option.some.inj (completed.tallied.symm.trans again.tallied)⟩

/-- A call has not carried its run to the end: its configuration, its log level or its filter is
wrong, the scratch directory cannot be reset, no cases can be found, or the request to stop came
before the last case was recorded.
-/
inductive Unfinished (around : Surroundings σ) (settings : Settings) (s : Session σ) : Prop
  | configuration {fault : Fault} (refused : settings.configure s.tree = .error fault)
  | logLevel {config : Config} {error : Level.ParseError}
    (configured : settings.configure s.tree = .ok config)
    (refused : Level.parse settings.level = .error error)
  | filter {config : Config} {level : Level} {fault : Fault}
    (configured : settings.configure s.tree = .ok config)
    (leveled : Level.parse settings.level = .ok level)
    (refused : Harness.selector config.run = .error fault)
  | scratch {h : Harness σ} {ready : Session σ} {tree : FileTree} {fault : Fault}
    (prepared : prepare around settings s = (ready, .ok h))
    (refused : Scratch.reset ready.tree h.config.layout.scratch = (tree, some fault))
  | discovery {h : Harness σ} {ready : Session σ} {tree : FileTree} {fault : Fault}
    (prepared : prepare around settings s = (ready, .ok h))
    (reset : Scratch.reset ready.tree h.config.layout.scratch = (tree, none))
    (refused : Discovery.discover tree h.config.layout h.selects = .error fault)
  | interrupted {h : Harness σ} {ready : Session σ} {tree : FileTree} {cases : List TestCase}
    {tally : Tally} (prepared : prepare around settings s = (ready, .ok h))
    (reset : Scratch.reset ready.tree h.config.layout.scratch = (tree, none))
    (found : Discovery.discover tree h.config.layout h.selects = .ok cases)
    (cut : (h.run ready).fault = some (.mark .canceled))
    (tallied : (h.run ready).tally = some tally)
    (short : tally.results.length < cases.length)

/-- A call without a harness has a wrong configuration, log level or filter. -/
theorem unfinished_of_prepare_error {around : Surroundings σ} {settings : Settings}
    {s ready : Session σ} {fault : Fault}
    (refused : prepare around settings s = (ready, .error fault))
    : Unfinished around settings s := by
  unfold prepare at refused
  split at refused
  · rename_i cause bad
    exact .configuration bad
  · rename_i config configured
    rw [log_create_eq] at refused
    cases leveled : Level.parse settings.level with
    | error error => exact .logLevel configured leveled
    | ok level =>
        rw [leveled] at refused
        obtain ⟨_, bad⟩ := create_eq_error_iff.mp ⟨fault, (Prod.mk.inj refused).2⟩
        exact .filter configured leveled bad

/-- A run that has a fault leaves its call unfinished. Witness: the three courses of a run, of
which the last has a fault only if it was asked to stop.
-/
theorem unfinished_of_run_fault {around : Surroundings σ} {settings : Settings}
    {s ready : Session σ} {h : Harness σ} {fault : Fault}
    (prepared : prepare around settings s = (ready, .ok h))
    (broken : (h.run ready).fault = some fault)
    : Unfinished around settings s := by
  have course := h.run_course ready
  generalize taken : h.run ready = ending at course broken
  cases course with
  | unreset reset => exact .scratch prepared reset
  | undiscovered reset found => exact .discovery prepared reset found
  | @ran tree cases reset found =>
      obtain ⟨ran, rest, results, reached, rfl, steps, finish⟩ :=
        h.runCases_steps (h.opening ready tree cases) .empty cases
      obtain ⟨tallied, complete, cut⟩ := finish.ending_facts
      have left : rest ≠ [] := by
        intro empty
        rw [complete.mpr empty] at broken
        cases broken
      rw [← taken] at tallied cut
      refine .interrupted prepared reset found (cut ?_).1 tallied ?_
      · rw [taken, broken]
        simp
      · have many := congrArg List.length steps.results_tc
        have some := List.length_pos_iff.mpr left
        simp only [Tally.results_recordAll, Tally.empty, List.nil_append, List.length_map,
          List.length_append] at many ⊢
        omega

/-- Every call is completed or unfinished: what came of getting ready decides, and then the fault
of the run.
-/
theorem completed_or_unfinished (around : Surroundings σ) (settings : Settings) (s : Session σ)
    : (∃ h ready tally, Completed around settings s h ready tally)
      ∨ Unfinished around settings s := by
  cases prepared : prepare around settings s with
  | mk ready outcome =>
      cases outcome with
      | error fault => exact Or.inr (unfinished_of_prepare_error prepared)
      | ok h =>
          cases broken : (h.run ready).fault with
          | some fault => exact Or.inr (unfinished_of_run_fault prepared broken)
          | none =>
              obtain ⟨_, _, _, _, _, tallied, _⟩ := Harness.of_run_unbroken broken
              exact Or.inl ⟨h, ready, _, prepared, broken, tallied⟩

-----------------------------------------------------------------------------------------
-- What comes of a call
-----------------------------------------------------------------------------------------

/-- A call that is refused a harness prints nothing and ends with the code of a run that could not
be carried out.
-/
theorem runWith_of_prepare_error {around : Surroundings σ} {settings : Settings}
    {s ready : Session σ} {fault : Fault}
    (refused : prepare around settings s = (ready, .error fault))
    : (runWith around settings s).code = 2
      ∧ (runWith around settings s).session.output = s.output := by
  have silent := output_prepare around settings s
  rw [refused] at silent
  rw [runWith_eq_prepare, refused]
  exact ⟨rfl, silent⟩

/-- A call that is completed prints the table, if it is asked for, and the summary of its tally,
and ends with the code of the tally.
-/
theorem runWith_of_completed {around : Surroundings σ} {settings : Settings} {s ready : Session σ}
    {h : Harness σ} {tally : Tally} (completed : Completed around settings s h ready tally)
    : (runWith around settings s).code = tally.exitCode.toNat
      ∧ (runWith around settings s).session.output
        = (h.run ready).session.output
          ++ ((if h.config.showTable then h.reporter.table tally around.runId else "")
            ++ Reporter.summary tally) := by
  rw [runWith_eq_prepare, completed.prepared]
  simp only [finish, completed.unbroken, completed.tallied]
  exact ⟨rfl, rfl⟩

/-- An unfinished call has no harness, or its run has a fault; by cases on what left it
unfinished.
-/
theorem Unfinished.cause {around : Surroundings σ} {settings : Settings} {s : Session σ}
    (unfinished : Unfinished around settings s)
    : (∃ ready fault, prepare around settings s = (ready, .error fault))
      ∨ ∃ ready h fault,
          prepare around settings s = (ready, .ok h) ∧ (h.run ready).fault = some fault := by
  cases unfinished with
  | @configuration fault refused => exact Or.inl ⟨s, fault, by simp only [prepare, refused]⟩
  | logLevel configured refused =>
      left
      simp only [prepare, configured, log_create_eq, refused]
      exact ⟨_, _, rfl⟩
  | @filter config level fault configured leveled refused =>
      left
      simp only [prepare, configured, log_create_eq, leveled, Harness.create, refused]
      exact ⟨_, _, rfl⟩
  | @scratch h ready tree fault prepared refused =>
      exact Or.inr ⟨ready, h, .runtime fault, prepared, by simp only [Harness.run, refused]⟩
  | @discovery h ready tree fault prepared reset refused =>
      exact Or.inr ⟨ready, h, .runtime fault, prepared, by simp only [Harness.run, reset, refused]⟩
  | @interrupted h ready _ _ _ prepared _ _ cut _ _ =>
      exact Or.inr ⟨ready, h, _, prepared, cut⟩

/-- The code of a tally: 1 if some result is a failure, and 0 if all are passes. -/
theorem exitCode_recordAll (results : List CaseResult)
    : ((Tally.empty.recordAll results).exitCode.toNat = 0
        ↔ ∀ result ∈ results, result.verdict = .pass)
      ∧ ((Tally.empty.recordAll results).exitCode.toNat = 1
        ↔ ∃ result ∈ results, result.verdict = .fail) := by
  have failing : (∃ result ∈ results, result.verdict = .fail)
      ↔ 0 < (Tally.empty.recordAll results).failed := by
    simp [Tally.recordAll_empty, List.countP_pos_iff]
  have passing : (∀ result ∈ results, result.verdict = .pass)
      ↔ ¬∃ result ∈ results, result.verdict = .fail := by
    refine ⟨?_, fun none result member => ?_⟩
    · rintro all ⟨result, member, failed⟩
      rw [all result member] at failed
      cases failed
    · cases verdict : result.verdict with
      | pass => rfl
      | fail => exact absurd ⟨result, member, verdict⟩ none
  rw [passing, failing, Tally.exitCode, Tally.shouldFail]
  by_cases some : 0 < (Tally.empty.recordAll results).failed <;> simp [some, ExitCode.toNat]

/-- What the table of a run shows, with the two numbers in its last row. -/
def tableContents (runId : String) (results : List CaseResult) (passes total : Nat)
    : Table.Contents where
  title := "Results (run " ++ runId ++ ")"
  columns := Reporter.columns
  rows := results.map Reporter.row
  footer := ["TOTAL", "", toString passes ++ "/" ++ toString total, "", "", ""]

/-- What a completed call prints after the texts about its cases: the table if it is asked for,
and the line with the number of passes and the number of results.
-/
def closingText (around : Surroundings σ) (h : Harness σ) (results : List CaseResult)
    (passes total : Nat)
    : String :=
  (if h.config.showTable then
    Table.render (h.reporter.style (Tally.empty.recordAll results))
      (tableContents around.runId results passes total)
  else "")
    ++ "\n" ++ (toString passes ++ " correct out of " ++ toString total) ++ "\n"

/-- The table and the summary of a tally show the number of passes among its results and the
number of its results.
-/
theorem closingText_recordAll (around : Surroundings σ) (h : Harness σ)
    (results : List CaseResult)
    : (if h.config.showTable then
          h.reporter.table (Tally.empty.recordAll results) around.runId
        else "")
        ++ Reporter.summary (Tally.empty.recordAll results)
      = closingText around h results (results.countP fun result => result.verdict = .pass)
          results.length := by
  have passes : (Tally.empty.recordAll results).passed
      = results.countP (fun result => result.verdict = .pass) := by
    rw [Tally.recordAll_empty]
  have listed : (Tally.empty.recordAll results).results = results := by
    rw [Tally.recordAll_empty]
  simp only [closingText, tableContents, Reporter.table, Reporter.summary, Tally.summary,
    Tally.total_recordAll_empty, passes, listed, String.append_assoc]

/-- A completed call has recorded all discovered cases, its code is told by the verdicts, and it
prints the closing text after the texts about the cases.
-/
theorem Completed.facts {around : Surroundings σ} {settings : Settings} {s ready : Session σ}
    {h : Harness σ} {tally : Tally} (completed : Completed around settings s h ready tally)
    : ((runWith around settings s).code = 0 ↔ ∀ result ∈ tally.results, result.verdict = .pass)
      ∧ ((runWith around settings s).code = 1
        ↔ ∃ result ∈ tally.results, result.verdict = .fail)
      ∧ (runWith around settings s).code ≠ 2
      ∧ ∃ tree cases texts,
          Scratch.reset ready.tree h.config.layout.scratch = (tree, none)
          ∧ Discovery.discover tree h.config.layout h.selects = .ok cases
          ∧ tally.results.map CaseResult.tc = cases
          ∧ (∀ text ∈ texts, h.IsCaseText text)
          ∧ (runWith around settings s).session.output
            = s.output ++ String.join texts
              ++ closingText around h tally.results
                  (tally.results.countP fun result => result.verdict = .pass) cases.length := by
  obtain ⟨tree, cases, results, reset, found, tallied, recorded⟩ :=
    Harness.of_run_unbroken completed.unbroken
  obtain rfl : tally = Tally.empty.recordAll results :=
    Option.some.inj (completed.tallied.symm.trans tallied)
  have listed : (Tally.empty.recordAll results).results = results := by
    rw [Tally.recordAll_empty]
  obtain ⟨code, printed⟩ := runWith_of_completed completed
  obtain ⟨texts, about, more⟩ := h.run_printsCases ready
  have silent := output_prepare around settings s
  rw [completed.prepared] at silent
  obtain ⟨passing, failing⟩ := exitCode_recordAll results
  rw [code, listed]
  refine ⟨passing, failing, ?_, tree, cases, texts, reset, found, recorded, about, ?_⟩
  · rw [Tally.exitCode]
    split <;> decide
  · rw [printed, closingText_recordAll, more, silent, ← recorded, List.length_map]

/-- What a call finds around it if there is nothing special: no variables, no terminal, no request
to stop, and programs that print their own text and then what they read.
-/
def plainSurroundings : Surroundings Scripted.State where
  environment := fun _ => none
  executor := fun _ => Scripted.executor
  interrupts := fun _ => false
  runId := ""
  clock := ""
  outputIsTerminal := false
  diagnosticsIsTerminal := false

-----------------------------------------------------------------------------------------
-- A call for one program and its reference
-----------------------------------------------------------------------------------------

open FileTree

/-- The configuration for tests in the working directory. -/
def homeConfig : Config :=
  { Config.default with layout := ⟨"v", "input", "output", "our", ".v"⟩ }

end Command

end GoldenSuite

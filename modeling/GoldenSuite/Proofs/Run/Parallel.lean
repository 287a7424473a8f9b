import GoldenSuite.Proofs.Run.Recording

/-! Two runs side by side. Their harnesses may print, log and judge differently, and their
executors may be different ones; as long as these answer alike, both runs take the same steps, and
what is related in the beginning is related in the end.
-/

namespace GoldenSuite

variable {σ τ : Type}

-----------------------------------------------------------------------------------------
-- Sessions and executors side by side
-----------------------------------------------------------------------------------------

/-- How the trees, the states of the executors and the outputs of two sessions are related. In
related trees paths are opened the same, and files are refused the same or written to trees that are
related again.
-/
structure Likeness (σ τ : Type) where
  trees : FileTree → FileTree → Prop
  hosts : σ → τ → Prop
  outputs : String → String → Prop
  opens
    : ∀ {left right},
        trees left right → ∀ path, FileTree.openPath left path = FileTree.openPath right path
  writes
    : ∀ {left right},
        trees left right
        → ∀ path data,
            (∃ cause,
              FileTree.writeFile left path data = .error cause
              ∧ FileTree.writeFile right path data = .error cause)
            ∨ ∃ first second,
                FileTree.writeFile left path data = .ok first
                ∧ FileTree.writeFile right path data = .ok second
                ∧ trees first second

/-- In related trees the same is read. -/
theorem Likeness.reads (like : Likeness σ τ) {left right : FileTree}
    (trees : like.trees left right) (path : String)
    : left.readFile path = right.readFile path := by
  rw [FileTree.readFile, FileTree.readFile, like.opens trees]

/-- Two sessions whose trees, hosts and outputs are related, and that agree in all else but the
log.
-/
structure Session.Parallel (like : Likeness σ τ) (left : Session σ) (right : Session τ)
    : Prop where
  tree : like.trees left.tree right.tree
  host : like.hosts left.host right.host
  cancelled : left.cancelled = right.cancelled
  polls : left.polls = right.polls
  output : like.outputs left.output right.output

/-- Two sessions side by side, and the same answer. -/
def ParallelWith {α : Type} (like : Likeness σ τ) (left : Session σ × α) (right : Session τ × α)
    : Prop :=
  left.1.Parallel like right.1 ∧ left.2 = right.2

/-- Two answers of executors that differ at most in related trees and states, and in what was
written to the diagnostic stream.
-/
structure Reply.Parallel (like : Likeness σ τ) (left : Reply σ) (right : Reply τ) : Prop where
  execution : left.execution = right.execution
  fault : left.fault = right.fault
  cancels : left.cancels = right.cancels
  tree : like.trees left.tree right.tree
  host : like.hosts left.host right.host

/-- Two executors answer alike in related trees and states. -/
def Executor.Parallel (like : Likeness σ τ) (left : Executor σ) (right : Executor τ) : Prop :=
  ∀ invocation tree other cancelled first second,
    like.trees tree other
    → like.hosts first second
    → (left invocation tree cancelled first).Parallel like
        (right invocation other cancelled second)

namespace Session.Parallel

variable {like : Likeness σ τ} {left : Session σ} {right : Session τ}

/-- The logs are not looked at. -/
theorem log (sessions : left.Parallel like right) (logger other : Log.Logger)
    (record second : Log.Record)
    : (left.log logger record).Parallel like (right.log other second) :=
  { sessions with }

/-- The request to stop is found in both or in none. -/
theorem poll (sessions : left.Parallel like right) (interrupts : Nat → Bool)
    : (left.poll interrupts).1 = (right.poll interrupts).1
      ∧ (left.poll interrupts).2.Parallel like (right.poll interrupts).2 := by
  have stop : (left.cancelled || interrupts left.polls)
      = (right.cancelled || interrupts right.polls) := by
    rw [sessions.cancelled, sessions.polls]
  exact ⟨stop, { sessions with cancelled := stop, polls := congrArg (· + 1) sessions.polls }⟩

end Session.Parallel

-----------------------------------------------------------------------------------------
-- Harnesses side by side
-----------------------------------------------------------------------------------------

/-- A case is judged by its output and its reference alone. -/
theorem Finding.of_congr {left right : FileTree} {tc : TestCase}
    (actual : left.readFile tc.actual = right.readFile tc.actual)
    (reference : left.readFile tc.reference = right.readFile tc.reference) (strictExit : Bool)
    (execution : Execution) (fault : Option Fault)
    : Finding.of strictExit left tc execution fault
      = Finding.of strictExit right tc execution fault := by
  unfold Finding.of Verdict.ofFiles
  rw [actual, reference]

namespace Harness

/-- Two harnesses that go through cases side by side. Their executors answer alike, the results of
the left one are those of the right one under a view, and what they print about the covered cases
keeps the outputs related.
-/
structure Parallel (like : Likeness σ τ) (view : CaseResult → CaseResult)
    (covered : TestCase → Prop) (left : Harness σ) (right : Harness τ)
    : Prop where
  interrupts : left.interrupts = right.interrupts
  answers : left.executor.Parallel like right.executor
  judges
    : ∀ tree tc execution fault,
        (Finding.of left.config.strictExit tree tc execution fault).result tc execution
        = view ((Finding.of right.config.strictExit tree tc execution fault).result tc execution)
  starts
    : ∀ {first second},
        like.outputs first second
        → ∀ tc,
            covered tc
            → like.outputs (first ++ left.reporter.starting tc)
                (second ++ right.reporter.starting tc)
  finishes
    : ∀ {first second tree other},
        like.outputs first second
        → like.trees tree other
        → ∀ result,
            covered result.tc
            → like.outputs (first ++ left.reporter.finished tree (view result))
                (second ++ right.reporter.finished other result)

section Parallel

variable {like : Likeness σ τ} {view : CaseResult → CaseResult} {covered : TestCase → Prop}
  {left : Harness σ} {right : Harness τ} {s : Session σ} {t : Session τ}

/-- The same input is opened. -/
theorem openInput_parallel {tree other : FileTree} (trees : like.trees tree other)
    (tc : TestCase)
    : openInput tree tc = openInput other tc := by
  rw [openInput, openInput, like.opens trees]

/-- A call is answered alike. -/
theorem Parallel.call (parallel : left.Parallel like view covered right)
    (sessions : s.Parallel like t) (invocation : Invocation)
    : ParallelWith like (left.call s invocation) (right.call t invocation) := by
  have reply : (left.executor invocation s.tree s.cancelled s.host).Parallel like
      (right.executor invocation t.tree t.cancelled t.host) := by
    rw [← sessions.cancelled]
    exact parallel.answers invocation _ _ _ _ _ sessions.tree sessions.host
  refine ⟨⟨reply.tree, reply.host, ?_, sessions.polls, sessions.output⟩, ?_⟩
  · simp only [Harness.call]
    rw [reply.cancels, sessions.cancelled]
  · exact Prod.ext reply.execution reply.fault

/-- An output is kept alike. -/
theorem keepOutput_parallel (sessions : s.Parallel like t) (tc : TestCase) (stdout : Bytes)
    (fault : Option Fault)
    : ParallelWith like (keepOutput s tc stdout fault) (keepOutput t tc stdout fault) := by
  unfold keepOutput
  rcases like.writes sessions.tree tc.actual stdout with
    ⟨cause, first, second⟩ | ⟨tree, other, first, second, trees⟩
  · rw [first, second]
    exact ⟨sessions, rfl⟩
  · rw [first, second]
    exact ⟨{ sessions with tree := trees }, rfl⟩

/-- A case is executed alike. -/
theorem Parallel.execute (parallel : left.Parallel like view covered right)
    (sessions : s.Parallel like t) (tc : TestCase)
    : ParallelWith like (left.execute s tc) (right.execute t tc) := by
  unfold Harness.execute
  rw [openInput_parallel sessions.tree]
  cases openInput t.tree tc with
  | error fault => exact ⟨sessions, rfl⟩
  | ok stdin =>
      obtain ⟨called, answer⟩ := parallel.call sessions ⟨tc.program, stdin⟩
      dsimp only
      generalize left.call s ⟨tc.program, stdin⟩ = first at called answer ⊢
      generalize right.call t ⟨tc.program, stdin⟩ = second at called answer ⊢
      obtain ⟨after, execution, fault⟩ := first
      obtain ⟨other, _, _⟩ := second
      obtain ⟨rfl, rfl⟩ := Prod.mk.inj answer
      obtain ⟨stop, polled⟩ := called.poll right.interrupts
      rw [parallel.interrupts]
      dsimp only at stop polled ⊢
      generalize after.poll right.interrupts = first at stop polled ⊢
      generalize other.poll right.interrupts = second at stop polled ⊢
      obtain ⟨asked, after⟩ := first
      obtain ⟨_, other⟩ := second
      obtain rfl := stop
      cases asked with
      | true => exact ⟨polled, rfl⟩
      | false =>
          obtain ⟨kept, same⟩ := keepOutput_parallel polled tc execution.stdout fault
          exact ⟨kept, congrArg (fun fault => some (execution, fault)) same⟩

/-- Nothing but the log takes note of how a case came out. -/
theorem concluded_parallel (sessions : s.Parallel like t) (tc : TestCase) (execution : Execution)
    (finding other : Finding)
    : (left.concluded s tc execution finding).Parallel like
        (right.concluded t tc execution other) := by
  unfold concluded
  split
  · split
    · exact sessions.log _ _ _ _
    · exact { sessions with }
  · split
    · exact { sessions with }
    · exact sessions

/-- A case is run alike, and its results are the same under the view. -/
theorem Parallel.runCase (parallel : left.Parallel like view covered right)
    (sessions : s.Parallel like t) (tc : TestCase)
    : (left.runCase s tc).1.Parallel like (right.runCase t tc).1
      ∧ (left.runCase s tc).2 = (right.runCase t tc).2.map view := by
  have announced : (left.announced s tc).Parallel like (right.announced t tc) :=
    sessions.log _ _ _ _
  obtain ⟨executed, answer⟩ := parallel.execute announced tc
  rw [runCase_eq, runCase_eq]
  generalize left.execute (left.announced s tc) tc = first at executed answer ⊢
  generalize right.execute (right.announced t tc) tc = second at executed answer ⊢
  obtain ⟨after, outcome⟩ := first
  obtain ⟨other, _⟩ := second
  obtain rfl := answer
  cases outcome with
  | none => exact ⟨executed, rfl⟩
  | some ended =>
      obtain ⟨execution, fault⟩ := ended
      obtain ⟨stop, polled⟩ := executed.poll right.interrupts
      rw [parallel.interrupts]
      dsimp only at stop polled ⊢
      generalize after.poll right.interrupts = first at stop polled ⊢
      generalize other.poll right.interrupts = second at stop polled ⊢
      obtain ⟨asked, after⟩ := first
      obtain ⟨_, other⟩ := second
      obtain rfl := stop
      cases asked with
      | true => exact ⟨polled, rfl⟩
      | false =>
          refine ⟨concluded_parallel polled tc execution _ _, ?_⟩
          have judged : left.finding after tc execution fault
              = Finding.of left.config.strictExit other.tree tc execution fault :=
            Finding.of_congr (like.reads polled.tree _) (like.reads polled.tree _) _ _ _
          simp only [judged, Option.map_some, parallel.judges]
          rfl

/-- A step is taken alike. -/
theorem Parallel.step (parallel : left.Parallel like view covered right)
    (sessions : s.Parallel like t) {tc : TestCase} (covers : covered tc)
    : (left.step s tc).1.Parallel like (right.step t tc).1
      ∧ (left.step s tc).2 = (right.step t tc).2.map view := by
  obtain ⟨stop, polled⟩ := sessions.poll right.interrupts
  unfold Harness.step
  rw [parallel.interrupts]
  generalize s.poll right.interrupts = first at stop polled ⊢
  generalize t.poll right.interrupts = second at stop polled ⊢
  obtain ⟨asked, after⟩ := first
  obtain ⟨_, other⟩ := second
  obtain rfl := stop
  cases asked with
  | true => exact ⟨polled, rfl⟩
  | false =>
      dsimp only at polled ⊢
      have started
          : (after.print (left.reporter.starting tc)).Parallel like
              (other.print (right.reporter.starting tc)) :=
        { polled with output := parallel.starts polled.output tc covers }
      obtain ⟨ran, same⟩ := parallel.runCase started tc
      cases came : right.runCase (other.print (right.reporter.starting tc)) tc with
      | mk finished outcome =>
          rw [came] at ran same
          generalize left.runCase (after.print (left.reporter.starting tc)) tc = first
            at ran same ⊢
          obtain ⟨after, _⟩ := first
          obtain rfl := same
          cases outcome with
          | none => exact ⟨ran, rfl⟩
          | some result =>
              have own : covered result.tc := by
                rw [tc_of_runCase_some came]
                exact covers
              exact ⟨{ ran with output := parallel.finishes ran.output ran.tree result own }, rfl⟩

/-- Cases are run alike, by induction over them. -/
theorem Parallel.runCases (parallel : left.Parallel like view covered right)
    (sessions : s.Parallel like t) (first second : Tally) {cases : List TestCase}
    (covers : ∀ tc ∈ cases, covered tc)
    : ∃ results cut,
        (left.runCases s first cases).1.Parallel like (right.runCases t second cases).1
        ∧ (left.runCases s first cases).2 = (first.recordAll (results.map view), cut)
        ∧ (right.runCases t second cases).2 = (second.recordAll results, cut) := by
  induction cases generalizing s t first second with
  | nil => exact ⟨[], false, sessions, rfl, rfl⟩
  | cons tc rest ih =>
      obtain ⟨taken, same⟩ := parallel.step sessions (covers tc List.mem_cons_self)
      rw [runCases_cons, runCases_cons]
      generalize left.step s tc = one at taken same ⊢
      generalize right.step t tc = other at taken same ⊢
      obtain ⟨after, _⟩ := one
      obtain ⟨reached, outcome⟩ := other
      obtain rfl := same
      cases outcome with
      | none => exact ⟨[], true, taken, rfl, rfl⟩
      | some result =>
          obtain ⟨results, cut, ended, recorded, recorded'⟩ :=
            ih taken (first.record (view result)) (second.record result)
              fun tc member => covers tc (List.mem_cons_of_mem _ member)
          exact ⟨result :: results, cut, ended, recorded, recorded'⟩

end Parallel

-----------------------------------------------------------------------------------------
-- Whole runs side by side
-----------------------------------------------------------------------------------------

/-- Two runs that begin alike: the resets of their scratch directories end alike, the same covered
cases are found, and the sessions are related in all else.
-/
structure Outset (like : Likeness σ τ) (covered : TestCase → Prop) (left : Harness σ)
    (right : Harness τ) (s : Session σ) (t : Session τ)
    : Prop where
  tree
    : like.trees (Scratch.reset s.tree left.config.layout.scratch).1
        (Scratch.reset t.tree right.config.layout.scratch).1
  fault
    : (Scratch.reset s.tree left.config.layout.scratch).2
      = (Scratch.reset t.tree right.config.layout.scratch).2
  found
    : Discovery.discover (Scratch.reset s.tree left.config.layout.scratch).1 left.config.layout
        left.selects
      = Discovery.discover (Scratch.reset t.tree right.config.layout.scratch).1
          right.config.layout right.selects
  covers
    : ∀ cases,
        (Scratch.reset t.tree right.config.layout.scratch).2 = none
        → Discovery.discover (Scratch.reset t.tree right.config.layout.scratch).1
            right.config.layout right.selects = .ok cases
        → ∀ tc ∈ cases, covered tc
  host : like.hosts s.host t.host
  cancelled : s.cancelled = t.cancelled
  polls : s.polls = t.polls
  output : like.outputs s.output t.output

/-- Two endings with related sessions and the same fault, whose tallies record the same results
under a view, or are both missing.
-/
structure Ending.Parallel (like : Likeness σ τ) (view : CaseResult → CaseResult)
    (left : Ending σ) (right : Ending τ)
    : Prop where
  session : left.session.Parallel like right.session
  fault : left.fault = right.fault
  tally
    : left.tally = none ∧ right.tally = none
      ∨ ∃ results,
          left.tally = some (Tally.empty.recordAll (results.map view))
          ∧ right.tally = some (Tally.empty.recordAll results)

section Outset

variable {like : Likeness σ τ} {view : CaseResult → CaseResult} {covered : TestCase → Prop}
  {left : Harness σ} {right : Harness τ} {s : Session σ} {t : Session τ}

/-- Runs that begin alike end alike. -/
theorem Parallel.run (parallel : left.Parallel like view covered right)
    (outset : Outset like covered left right s t)
    : (left.run s).Parallel like view (right.run t) := by
  obtain ⟨tree, fault, found, covers, host, cancelled, polls, output⟩ := outset
  unfold Harness.run
  dsimp only
  generalize Scratch.reset s.tree left.config.layout.scratch = first at tree fault found ⊢
  generalize Scratch.reset t.tree right.config.layout.scratch = second
    at tree fault found covers ⊢
  obtain ⟨cleared, refusal⟩ := first
  obtain ⟨other, _⟩ := second
  obtain rfl := fault
  have begun
      : Session.Parallel like { s with tree := cleared } { t with tree := other } :=
    ⟨tree, host, cancelled, polls, output⟩
  cases refusal with
  | some cause => exact ⟨begun, rfl, Or.inl ⟨rfl, rfl⟩⟩
  | none =>
      dsimp only at found covers ⊢
      rw [found]
      cases listed : Discovery.discover other right.config.layout right.selects with
      | error cause => exact ⟨begun, rfl, Or.inl ⟨rfl, rfl⟩⟩
      | ok cases =>
          obtain ⟨results, cut, ended, recorded, recorded'⟩ :=
            parallel.runCases (begun.log left.logger right.logger
              ⟨.info, "Discovered test cases",
                [⟨"count", .int cases.length⟩, ⟨"programs", .text left.config.layout.programs⟩]⟩
              ⟨.info, "Discovered test cases",
                [⟨"count", .int cases.length⟩, ⟨"programs", .text right.config.layout.programs⟩]⟩)
              .empty .empty (covers cases rfl listed)
          dsimp only
          generalize left.runCases _ .empty cases = one at ended recorded ⊢
          generalize right.runCases _ .empty cases = another at ended recorded' ⊢
          obtain ⟨after, _⟩ := one
          obtain ⟨reached, _⟩ := another
          obtain rfl := recorded
          obtain rfl := recorded'
          cases cut with
          | true => exact ⟨ended, rfl, Or.inr ⟨results, rfl, rfl⟩⟩
          | false => exact ⟨ended.log _ _ _ _, rfl, Or.inr ⟨results, rfl, rfl⟩⟩

end Outset

end Harness

-----------------------------------------------------------------------------------------
-- The invocations of both runs
-----------------------------------------------------------------------------------------

/-- The likeness of sessions in which, besides, the same invocations have been noted. -/
def Likeness.noting (like : Likeness σ τ)
    : Likeness (σ × List (Exchange σ)) (τ × List (Exchange τ)) where
  trees := like.trees
  hosts first second :=
    like.hosts first.1 second.1
    ∧ first.2.map Exchange.invocation = second.2.map Exchange.invocation
  outputs := like.outputs
  opens := like.opens
  writes := like.writes

namespace Harness

variable {like : Likeness σ τ} {view : CaseResult → CaseResult} {covered : TestCase → Prop}
  {left : Harness σ} {right : Harness τ} {s : Session σ} {t : Session τ}

/-- Harnesses side by side stay so while their executors note the calls. -/
theorem Parallel.recording (parallel : left.Parallel like view covered right)
    : left.recording.Parallel like.noting view covered right.recording where
  interrupts := parallel.interrupts
  answers := by
    intro invocation tree other cancelled first second trees hosts
    have reply := parallel.answers invocation tree other cancelled _ _ trees hosts.1
    refine ⟨reply.execution, reply.fault, reply.cancels, reply.tree, reply.host, ?_⟩
    simp [Harness.recording, Executor.recording, hosts.2]
  judges := parallel.judges
  starts := parallel.starts
  finishes := parallel.finishes

/-- Runs that begin alike make the same invocations. -/
theorem Parallel.invocations (parallel : left.Parallel like view covered right)
    (outset : Outset like covered left right s t)
    : (left.calls s).map Exchange.invocation = (right.calls t).map Exchange.invocation := by
  have noted : Outset like.noting covered left.recording right.recording (s.noting [])
      (t.noting []) :=
    { outset with host := ⟨outset.host, rfl⟩ }
  exact (parallel.recording.run noted).session.host.2

end Harness

end GoldenSuite

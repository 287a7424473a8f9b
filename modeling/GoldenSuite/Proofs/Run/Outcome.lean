import GoldenSuite.Proofs.FileTree.Walking
import GoldenSuite.Proofs.Run.Recording

/-! How the recorded results come about. Unless something asks the run to stop, every case comes
back. An execution that comes back has found its input, called its executor once and written what
was printed, or failed at one of these; and it changes the tree nowhere but where its output is
written.
-/

namespace GoldenSuite

variable {σ : Type}

/-- An executor that leaves the file tree as it is. -/
def Executor.KeepsTree (executor : Executor σ) : Prop :=
  ∀ invocation tree cancelled host, (executor invocation tree cancelled host).tree = tree

namespace Harness

open FileTree

variable {h : Harness σ} {s : Session σ} {tc : TestCase}

-----------------------------------------------------------------------------------------
-- Undisturbed runs
-----------------------------------------------------------------------------------------

/-- Nothing ever asks a run to stop. -/
structure Undisturbed (h : Harness σ) : Prop where
  interrupts : ∀ looks, h.interrupts looks = false
  cancels
    : ∀ invocation tree cancelled host,
        (h.executor invocation tree cancelled host).cancels = false

/-- A look finds nothing if nothing has asked and nothing ever asks. -/
theorem poll_of_uninterrupted (interrupts : ∀ looks, h.interrupts looks = false)
    (running : s.cancelled = false)
    : s.poll h.interrupts = (false, { s with polls := s.polls + 1 }) := by
  simp [Session.poll, running, interrupts]

/-- Nothing asks the run to stop while one case is run in a session: it has not been asked before,
and neither is it asked from outside nor by an answer to the case's call.
-/
structure Unasked (h : Harness σ) (s : Session σ) (tc : TestCase) : Prop where
  running : s.cancelled = false
  interrupts : ∀ looks, h.interrupts looks = false
  cancels : ∀ call ∈ h.callsFor s tc, call.reply.cancels = false

/-- In an undisturbed run no case is asked to stop. -/
theorem Undisturbed.unasked (calm : h.Undisturbed) (running : s.cancelled = false)
    (tc : TestCase)
    : h.Unasked s tc := by
  refine ⟨running, calm.interrupts, ?_⟩
  intro call member
  rw [callsFor_eq_openInput] at member
  split at member
  · obtain rfl := List.mem_singleton.mp member
    exact calm.cancels _ _ _ _
  · cases member

/-- An execution comes back. -/
theorem Unasked.execute (unasked : h.Unasked s tc)
    : ∃ after outcome, h.execute s tc = (after, some outcome) ∧ after.cancelled = false := by
  have running := unasked.running
  unfold Harness.execute
  cases opened : openInput s.tree tc with
  | error fault => exact ⟨s, _, rfl, running⟩
  | ok stdin =>
      have called : (h.call s ⟨tc.program, stdin⟩).1.cancelled = false := by
        have answered : (h.exchange s ⟨tc.program, stdin⟩).reply.cancels = false :=
          unasked.cancels _ (by simp [callsFor_eq_openInput, opened])
        simpa [call, exchange, running] using answered
      simp only [poll_of_uninterrupted unasked.interrupts called]
      unfold keepOutput
      split
      · exact ⟨_, _, rfl, called⟩
      · exact ⟨_, _, rfl, called⟩

/-- A case that is not asked to stop comes back with a result. -/
theorem Unasked.runCase (unasked : h.Unasked s tc)
    : ∃ after result, h.runCase s tc = (after, some result) ∧ after.cancelled = false := by
  have announced : h.Unasked (h.announced s tc) tc := ⟨unasked.1, unasked.2, unasked.3⟩
  obtain ⟨left, ⟨execution, fault⟩, executed, still⟩ := announced.execute
  have concluded (finding : Finding)
      : (h.concluded { left with polls := left.polls + 1 } tc execution finding).cancelled
        = false := by
    unfold Harness.concluded
    split
    · exact still
    · exact still
  simp only [runCase_eq, executed, poll_of_uninterrupted unasked.interrupts still]
  exact ⟨_, _, rfl, concluded _⟩

/-- Every case comes back with a result. -/
theorem Undisturbed.runCase (calm : h.Undisturbed) (running : s.cancelled = false)
    (tc : TestCase)
    : ∃ after result, h.runCase s tc = (after, some result) ∧ after.cancelled = false :=
  (calm.unasked running tc).runCase

/-- Every step records a result. -/
theorem Undisturbed.step (calm : h.Undisturbed) (running : s.cancelled = false) (tc : TestCase)
    : ∃ after result, h.step s tc = (after, some result) ∧ after.cancelled = false := by
  have started
      : (Session.print { s with polls := s.polls + 1 } (h.reporter.starting tc)).cancelled
        = false :=
    running
  obtain ⟨after, result, ran, still⟩ := calm.runCase started tc
  simp only [Harness.step, poll_of_uninterrupted calm.interrupts running, ran, reported]
  exact ⟨_, _, rfl, still⟩

-----------------------------------------------------------------------------------------
-- One case
-----------------------------------------------------------------------------------------

/-- What comes back from an execution in a session: the tree it leaves, the execution, and the
fault with which it ended. The input cannot be opened, or what the executor's only call has printed
is written, or it cannot be written.
-/
inductive Executed (h : Harness σ) (s : Session σ) (tc : TestCase)
    : FileTree → Execution → Option Fault → Prop
  | unopened {fault : Fault} (refused : openInput s.tree tc = .error fault)
    : h.Executed s tc s.tree .notStarted (some fault)
  | written {call : Exchange σ} {tree : FileTree} (called : h.callsFor s tc = [call])
    (wrote : call.reply.tree.writeFile tc.actual call.reply.execution.stdout = .ok tree)
    : h.Executed s tc tree call.reply.execution call.reply.fault
  | unwritten {call : Exchange σ} {cause : Fault} (called : h.callsFor s tc = [call])
    (refused : call.reply.tree.writeFile tc.actual call.reply.execution.stdout = .error cause)
    : h.Executed s tc call.reply.tree call.reply.execution
        (some (.joinedTo call.reply.fault (.filesystem "writing output" cause)))

/-- Sessions in which a case finds the same tree and makes the same calls have the same
executions.
-/
theorem Executed.congr {h : Harness σ} {s other : Session σ} {tc : TestCase} {tree : FileTree}
    {execution : Execution} {fault : Option Fault}
    (executed : h.Executed s tc tree execution fault) (sameTree : s.tree = other.tree)
    (sameCalls : h.callsFor s tc = h.callsFor other tc)
    : h.Executed other tc tree execution fault := by
  cases executed with
  | unopened refused =>
      rw [sameTree] at refused ⊢
      exact .unopened refused
  | written called wrote => exact .written (sameCalls.symm.trans called) wrote
  | unwritten called refused => exact .unwritten (sameCalls.symm.trans called) refused

/-- Every execution that comes back is one of the three. -/
theorem executed_of_execute {h : Harness σ} {s after : Session σ} {tc : TestCase}
    {execution : Execution} {fault : Option Fault}
    (came : h.execute s tc = (after, some (execution, fault)))
    : h.Executed s tc after.tree execution fault := by
  obtain ⟨cause, refused, rfl, rfl, rfl⟩ | ⟨stdin, polled, opened, passed, rfl, kept⟩ :=
    of_execute_some came
  · exact .unopened refused
  · have called : h.callsFor s tc = [h.exchange s ⟨tc.program, stdin⟩] := by
      rw [callsFor_eq_openInput, opened]
    obtain ⟨_, rfl⟩ := Session.of_poll_false passed
    unfold keepOutput at kept
    split at kept
    · rename_i wrote
      cases kept
      exact .written called wrote
    · rename_i refused
      cases kept
      exact .unwritten called refused

@[simp] theorem tree_concluded (h : Harness σ) (s : Session σ) (tc : TestCase)
    (execution : Execution) (finding : Finding)
    : (h.concluded s tc execution finding).tree = s.tree := by
  unfold concluded
  split <;> rfl

/-- A case that comes back has been executed, and what came of it is judged in the tree that it
leaves.
-/
theorem executed_of_runCase_some {after : Session σ} {result : CaseResult}
    (recorded : h.runCase s tc = (after, some result))
    : ∃ execution fault,
        h.Executed s tc after.tree execution fault
        ∧ result = (h.finding after tc execution fault).result tc execution := by
  rw [runCase_eq] at recorded
  split at recorded
  · cases recorded
  · rename_i left execution fault executed
    split at recorded
    · cases recorded
    · rename_i polled passed
      obtain ⟨_, rfl⟩ := Session.of_poll_false passed
      cases recorded
      refine ⟨execution, fault, ?_, ?_⟩
      · have came : h.Executed s tc left.tree execution fault :=
          (executed_of_execute executed).congr rfl rfl
        simpa using came
      · simp [finding]

/-- A step that records a result has executed its case and judged what came back in the tree that
it leaves.
-/
theorem executed_of_step_some {h : Harness σ} {s final : Session σ} {tc : TestCase}
    {result : CaseResult} (recorded : h.step s tc = (final, some result))
    : ∃ execution fault,
        h.Executed s tc final.tree execution fault
        ∧ result = (h.finding final tc execution fault).result tc execution := by
  obtain ⟨after, _, ran, rfl⟩ := of_step_some recorded
  obtain ⟨execution, fault, executed, judged⟩ := executed_of_runCase_some ran
  exact ⟨execution, fault, executed.congr rfl rfl, judged⟩

-----------------------------------------------------------------------------------------
-- What an execution comes to
-----------------------------------------------------------------------------------------

/-- The one call of a case is answered by the executor in the tree of the session. -/
theorem tree_of_callsFor {h : Harness σ} {s : Session σ} {tc : TestCase} {call : Exchange σ}
    (keeps : h.executor.KeepsTree) (called : h.callsFor s tc = [call])
    : call.reply.tree = s.tree := by
  rw [callsFor_eq_openInput] at called
  split at called
  · obtain rfl := List.singleton_inj.mp called
    exact keeps _ _ _ _
  · cases called

/-- A case whose input cannot be opened is not started. -/
theorem Executed.of_unopened {tree : FileTree} {execution : Execution} {fault : Option Fault}
    {cause : Fault} (executed : h.Executed s tc tree execution fault)
    (refused : openInput s.tree tc = .error cause)
    : tree = s.tree ∧ execution = .notStarted ∧ fault = some cause := by
  have uncalled : h.callsFor s tc = [] := by
    rw [callsFor_eq_openInput, refused]
  cases executed with
  | unopened again =>
      rw [refused] at again
      cases again
      exact ⟨rfl, rfl, rfl⟩
  | written called _ =>
      rw [uncalled] at called
      cases called
  | unwritten called _ =>
      rw [uncalled] at called
      cases called

/-- A case whose input is opened comes to what the executor answers, and to a fault if that cannot
be written.
-/
theorem Executed.of_opened {tree : FileTree} {execution : Execution} {fault : Option Fault}
    {stdin : Option Stdin} (keeps : h.executor.KeepsTree)
    (executed : h.Executed s tc tree execution fault) (opened : openInput s.tree tc = .ok stdin)
    : execution = (h.exchange s ⟨tc.program, stdin⟩).reply.execution
      ∧ (s.tree.writeFile tc.actual execution.stdout = .ok tree
          ∧ fault = (h.exchange s ⟨tc.program, stdin⟩).reply.fault
        ∨ ∃ cause,
            s.tree.writeFile tc.actual execution.stdout = .error cause
            ∧ tree = s.tree
            ∧ fault
              = some (.joinedTo (h.exchange s ⟨tc.program, stdin⟩).reply.fault
                  (.filesystem "writing output" cause))) := by
  have only : h.callsFor s tc = [h.exchange s ⟨tc.program, stdin⟩] := by
    rw [callsFor_eq_openInput, opened]
  cases executed with
  | unopened refused =>
      rw [opened] at refused
      cases refused
  | written called wrote =>
      rw [tree_of_callsFor keeps called] at wrote
      obtain rfl := List.singleton_inj.mp (called.symm.trans only)
      exact ⟨rfl, Or.inl ⟨wrote, rfl⟩⟩
  | unwritten called refused =>
      rw [tree_of_callsFor keeps called] at refused ⊢
      obtain rfl := List.singleton_inj.mp (called.symm.trans only)
      exact ⟨rfl, Or.inr ⟨_, refused, rfl, rfl⟩⟩

-----------------------------------------------------------------------------------------
-- What changes in the tree
-----------------------------------------------------------------------------------------

/-- An execution changes the tree at most where its output is written. -/
theorem Executed.tree_changed {h : Harness σ} {s : Session σ} {tc : TestCase} {tree : FileTree}
    {execution : Execution} {fault : Option Fault} (keeps : h.executor.KeepsTree)
    (executed : h.Executed s tc tree execution fault)
    : Changed (Writes fun place => s.tree.locate true tc.actual = .ok place) s.tree tree := by
  cases executed with
  | unopened refused => exact .refl _ s.tree
  | written called wrote =>
      rw [tree_of_callsFor keeps called] at wrote
      exact writeFile_changed wrote
  | unwritten called refused =>
      rw [tree_of_callsFor keeps called]
      exact .refl _ s.tree

/-- Steps change the tree at most where the outputs of their cases are written, by induction over
the steps. Witness: a path that leads somewhere after the first output has been written led there
before.
-/
theorem Steps.tree_changed {h : Harness σ} {s final : Session σ} {cases : List TestCase}
    {results : List CaseResult} (keeps : h.executor.KeepsTree)
    (steps : h.Steps s cases results final)
    : Changed (Writes fun place => ∃ tc ∈ cases, s.tree.locate true tc.actual = .ok place)
        s.tree final.tree := by
  induction steps with
  | done s => exact .refl _ s.tree
  | @next s after final tc result cases results first rest ih =>
      obtain ⟨execution, fault, executed, _⟩ := executed_of_step_some first
      have changed := executed.tree_changed keeps
      refine Changed.trans ?_ (changed.mono ?_) (ih.mono ?_)
      · exact fun place old middle new earlier later => earlier.trans later
      · rintro place old new ⟨located, written⟩
        exact ⟨⟨tc, List.mem_cons_self, located⟩, written⟩
      · rintro place old new ⟨⟨other, member, located⟩, written⟩
        exact ⟨⟨other, List.mem_cons_of_mem tc member, changed.locate_iff.mp located⟩, written⟩

end Harness

end GoldenSuite

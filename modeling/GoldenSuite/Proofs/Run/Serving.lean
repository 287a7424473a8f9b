import GoldenSuite.Proofs.Run.Asking

/-! How the cases of a run are served, told without the run: each case in the tree and the state of
the executor that the one before it has left. What a run of cases calls its executor for is read
off this relation.
-/

namespace GoldenSuite

variable {σ : Type}

/-- What a call finds: the file tree, and the executor's own state. -/
structure Scene (σ : Type) where
  tree : FileTree
  host : σ

/-- The scene of a session. -/
def Session.scene (s : Session σ) : Scene σ :=
  ⟨s.tree, s.host⟩

/-- The tree once what a call has printed is kept for a case, if it can be written. -/
def Exchange.kept (call : Exchange σ) (tc : TestCase) : FileTree :=
  (call.reply.tree.writeFile tc.actual call.reply.execution.stdout).toOption.getD call.reply.tree

namespace Harness

variable {h : Harness σ} {s after : Session σ} {tc : TestCase}

/-- A call for a case has the program's path, and reads the input as it stands in the tree of
the call, or nothing if the case has no input.
-/
structure IsCallOf (call : Exchange σ) (tc : TestCase) : Prop where
  program : call.invocation.program = tc.program
  withoutInput : tc.input = "" → call.invocation.stdin = none
  withInput
    : tc.input ≠ ""
      → ∃ opened,
          call.tree.openPath tc.input = .ok opened
          ∧ call.invocation.stdin = some (.file tc.input opened)

/-- How a case is served, from one scene to the next. If its input cannot be opened, nothing is
called. Else the executor is called once, in a run that has not been asked to stop, and what it has
printed is kept in the tree that it leaves.
-/
inductive Serves (h : Harness σ) (tc : TestCase)
    : Scene σ → List (Exchange σ) → Scene σ → Prop where
  | unopened {scene : Scene σ} {fault : Fault} (given : tc.input ≠ "")
    (refused : scene.tree.openPath tc.input = .error fault)
    : h.Serves tc scene [] scene
  | called {call : Exchange σ} (isCall : IsCallOf call tc) (running : call.cancelled = false)
    (answered : call.reply = h.executor call.invocation call.tree call.cancelled call.host)
    : h.Serves tc ⟨call.tree, call.host⟩ [call] ⟨call.kept tc, call.reply.host⟩

/-- Cases are served one after the other, each in the scene that the one before it has left. -/
inductive ServesAll (h : Harness σ)
    : Scene σ → List TestCase → List (Exchange σ) → Scene σ → Prop where
  | nil {scene : Scene σ} : h.ServesAll scene [] [] scene
  | next {scene middle last : Scene σ} {tc : TestCase} {cases : List TestCase}
    {calls more : List (Exchange σ)} (first : h.Serves tc scene calls middle)
    (rest : h.ServesAll middle cases more last)
    : h.ServesAll scene (tc :: cases) (calls ++ more) last

/-- How a run is cut short in a case, whose first look has a number. Either the run was asked to
stop before or by this look, and then the case is not begun. Or it is asked while the case is
served, by a later look or by the answer to the call.
-/
inductive CutIn (h : Harness σ) (tc : TestCase) (scene : Scene σ) (asked : Bool) (first : Nat)
    : List (Exchange σ) → Prop where
  | before (found : asked = true ∨ h.interrupts first = true) : h.CutIn tc scene asked first []
  | during {calls : List (Exchange σ)} {last : Scene σ} (serves : h.Serves tc scene calls last)
    (found : h.Asks (first + 1) (first + 2 + calls.length) calls)
    : h.CutIn tc scene asked first calls

-----------------------------------------------------------------------------------------
-- Calls of cases that are served
-----------------------------------------------------------------------------------------

/-- The calls for a case that is served are calls of it, with the executor's answers. -/
theorem Serves.of_mem {scene last : Scene σ} {calls : List (Exchange σ)} {call : Exchange σ}
    (serves : h.Serves tc scene calls last) (member : call ∈ calls)
    : IsCallOf call tc
      ∧ call.reply = h.executor call.invocation call.tree call.cancelled call.host := by
  cases serves with
  | unopened => cases member
  | called isCall _ answered =>
      obtain rfl := List.mem_singleton.mp member
      exact ⟨isCall, answered⟩

/-- A case without input is called once, with nothing to read. -/
theorem Serves.of_noInput {scene last : Scene σ} {calls : List (Exchange σ)}
    (serves : h.Serves tc scene calls last) (noInput : tc.input = "")
    : calls.map Exchange.invocation = [⟨tc.program, none⟩] := by
  cases serves with
  | unopened given => exact absurd noInput given
  | @called call isCall =>
      obtain ⟨program, stdin⟩ : call.invocation.program = tc.program
          ∧ call.invocation.stdin = none :=
        ⟨isCall.program, isCall.withoutInput noInput⟩
      rw [List.map_singleton, ← program, ← stdin]

/-- Every call is for one of the cases that are served, by induction over them. -/
theorem ServesAll.of_mem {scene last : Scene σ} {cases : List TestCase}
    {calls : List (Exchange σ)} {call : Exchange σ} (serves : h.ServesAll scene cases calls last)
    (member : call ∈ calls)
    : ∃ tc ∈ cases,
        IsCallOf call tc
        ∧ call.reply = h.executor call.invocation call.tree call.cancelled call.host := by
  induction serves with
  | nil => cases member
  | @next _ _ _ tc cases _ _ first _ ih =>
      rcases List.mem_append.mp member with own | later
      · exact ⟨tc, List.mem_cons_self, first.of_mem own⟩
      · obtain ⟨other, listed, facts⟩ := ih later
        exact ⟨other, List.mem_cons_of_mem _ listed, facts⟩

/-- Cases without input are called one after the other, with nothing to read; by induction over
them.
-/
theorem ServesAll.of_noInput {scene last : Scene σ} {cases : List TestCase}
    {calls : List (Exchange σ)} (serves : h.ServesAll scene cases calls last)
    (noInput : ∀ tc ∈ cases, tc.input = "")
    : calls.map Exchange.invocation = cases.map fun tc => ⟨tc.program, none⟩ := by
  induction serves with
  | nil => rfl
  | next first _ ih =>
      obtain ⟨own, others⟩ := List.forall_mem_cons.mp noInput
      rw [List.map_append, first.of_noInput own, ih others]
      rfl

/-- Calls in flight are for the case in which the run is cut short. -/
theorem CutIn.of_mem {scene : Scene σ} {asked : Bool} {first : Nat} {calls : List (Exchange σ)}
    {call : Exchange σ} (cut : h.CutIn tc scene asked first calls) (member : call ∈ calls)
    : IsCallOf call tc
      ∧ call.reply = h.executor call.invocation call.tree call.cancelled call.host := by
  cases cut with
  | before => cases member
  | during serves => exact serves.of_mem member

-----------------------------------------------------------------------------------------
-- How a run serves its cases
-----------------------------------------------------------------------------------------

/-- The calls of a case are calls for it, by cases on what it reads. -/
theorem isCallOf_of_mem_callsFor {call : Exchange σ} (member : call ∈ h.callsFor s tc)
    : IsCallOf call tc := by
  unfold callsFor at member
  split at member
  · rename_i empty
    obtain rfl := List.mem_singleton.mp member
    exact ⟨rfl, fun _ => rfl, fun nonempty => absurd empty nonempty⟩
  · rename_i nonempty
    split at member
    · rename_i opened found
      obtain rfl := List.mem_singleton.mp member
      exact ⟨rfl, fun empty => absurd empty nonempty, fun _ => ⟨opened, found, rfl⟩⟩
    · cases member

/-- An input that cannot be opened is that of a case with an input. -/
theorem serves_unopened {fault : Fault} (refused : openInput s.tree tc = .error fault)
    : h.Serves tc s.scene [] s.scene := by
  unfold openInput at refused
  split at refused
  · rename_i given
    split at refused
    · cases refused
    · rename_i unopened
      exact .unopened (by simpa [TestCase.hasInput] using given) unopened
  · cases refused

/-- A case whose input can be opened is served by its call. -/
theorem serves_called {stdin : Option Stdin} (opened : openInput s.tree tc = .ok stdin)
    (running : s.cancelled = false)
    : h.Serves tc s.scene [h.exchange s ⟨tc.program, stdin⟩]
        ⟨(h.exchange s ⟨tc.program, stdin⟩).kept tc,
          (h.exchange s ⟨tc.program, stdin⟩).reply.host⟩ := by
  have listed : h.exchange s ⟨tc.program, stdin⟩ ∈ h.callsFor s tc := by
    simp [callsFor_eq_openInput, opened]
  exact .called (isCallOf_of_mem_callsFor listed) running rfl

/-- The calls of a case serve it in every session that has not been asked to stop. -/
theorem exists_serves (h : Harness σ) (tc : TestCase) (running : s.cancelled = false)
    : ∃ last, h.Serves tc s.scene (h.callsFor s tc) last := by
  rw [callsFor_eq_openInput]
  cases opened : openInput s.tree tc with
  | error fault => exact ⟨_, serves_unopened opened⟩
  | ok stdin => exact ⟨_, serves_called opened running⟩

/-- An execution that comes back has served its case. -/
theorem serves_of_execute_some {outcome : Execution × Option Fault}
    (running : s.cancelled = false) (came : h.execute s tc = (after, some outcome))
    : h.Serves tc s.scene (h.callsFor s tc) after.scene := by
  rw [callsFor_eq_openInput]
  obtain ⟨_, opened, rfl, _⟩ | ⟨stdin, polled, opened, passed, printed, kept⟩ :=
    of_execute_some came
  · rw [opened]
    exact serves_unopened opened
  · rw [opened]
    obtain ⟨_, rfl⟩ := Session.of_poll_false passed
    have session := congrArg Prod.fst kept
    rw [keepOutput_fst, printed] at session
    subst session
    exact serves_called opened running

/-- A step that records a result has served its case. -/
theorem serves_of_step_some {result : CaseResult}
    (recorded : h.step s tc = (after, some result))
    : h.Serves tc s.scene (h.callsFor s tc) after.scene := by
  obtain ⟨left, running, ran, rfl⟩ := of_step_some recorded
  rw [runCase_eq] at ran
  split at ran
  · cases ran
  · rename_i reached execution fault executed
    split at ran
    · cases ran
    · rename_i polled passed
      obtain ⟨_, rfl⟩ := Session.of_poll_false passed
      -- What is looked for and printed before the execution is no part of the scene.
      have serves : h.Serves tc s.scene (h.callsFor s tc) reached.scene :=
        serves_of_execute_some
          (s := h.announced (Session.print { s with polls := s.polls + 1 } _) tc) running executed
      obtain ⟨rfl, _⟩ := Prod.mk.inj ran
      unfold concluded
      split <;> exact serves

/-- Steps serve their cases one after the other, by induction over the steps. -/
theorem Steps.serves {reached : Session σ} {ran : List TestCase} {results : List CaseResult}
    (steps : h.Steps s ran results reached) (rest : List TestCase)
    : h.ServesAll s.scene ran ((List.range ran.length).flatMap (h.callsAt s (ran ++ rest)))
        reached.scene := by
  induction steps with
  | done s => exact .nil
  | @next s after final tc result cases results first _ ih =>
      rw [List.cons_append, List.length_cons, flatMap_callsAt_succ first]
      exact .next (serves_of_step_some first) ih

/-- Nothing asks to stop through steps, if there are any, and they take the looks of their cases; by
induction over the steps.
-/
theorem Steps.passes {reached : Session σ} {ran : List TestCase} {results : List CaseResult}
    (steps : h.Steps s ran results reached) (rest : List TestCase)
    : (ran = [] ∧ reached = s)
      ∨ h.Passes s
          (2 * ran.length
            + ((List.range ran.length).flatMap (h.callsAt s (ran ++ rest))).length)
          ((List.range ran.length).flatMap (h.callsAt s (ran ++ rest))) reached := by
  induction steps with
  | done s => exact .inl ⟨rfl, rfl⟩
  | @next s after final tc result cases results first _ ih =>
      refine .inr ?_
      have own := passes_step first
      rw [List.cons_append, List.length_cons, flatMap_callsAt_succ first]
      rcases ih with ⟨rfl, rfl⟩ | later
      · simpa using own
      · generalize (List.range cases.length).flatMap (h.callsAt after (cases ++ rest)) = more
          at later ⊢
        have looks : 2 * (cases.length + 1) + (h.callsFor s tc ++ more).length
            = 2 + (h.callsFor s tc).length + (2 * cases.length + more.length) := by
          rw [List.length_append]
          omega
        rw [looks]
        exact own.trans later

/-- The looks of steps are those of their cases, and through them nothing asks to stop: neither the
run before them, if there are any, nor a look or an answer.
-/
theorem Steps.unasked {reached : Session σ} {ran : List TestCase} {results : List CaseResult}
    (steps : h.Steps s ran results reached) (rest : List TestCase)
    : reached.polls
        = looksAfter s ran.length ((List.range ran.length).flatMap (h.callsAt s (ran ++ rest)))
      ∧ ¬h.Asks s.polls reached.polls ((List.range ran.length).flatMap (h.callsAt s (ran ++ rest)))
      ∧ (0 < ran.length → s.cancelled = false)
      ∧ (reached.cancelled = true → s.cancelled = true) := by
  rcases steps.passes rest with ⟨rfl, rfl⟩ | passes
  · exact ⟨rfl, h.not_asks_self _, fun some => absurd some (Nat.lt_irrefl 0), id⟩
  · refine ⟨passes.polls, passes.unasked, fun _ => passes.running, fun asked => ?_⟩
    rw [passes.still] at asked
    cases asked

end Harness

end GoldenSuite

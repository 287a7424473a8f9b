import GoldenSuite.Proofs.Run.Parallel

/-! Twin runs: two runs over the same tree, of harnesses with the same directories and filter, whose
executors give the same answers. They may differ in how strictly they judge, in what they print and
in their logs; what one of them does, the other does as well.
-/

namespace GoldenSuite

variable {σ τ : Type}

-----------------------------------------------------------------------------------------
-- The same answers
-----------------------------------------------------------------------------------------

/-- Two replies that say the same, leave the same tree, and leave their executors in related
states.
-/
structure Reply.SameAs (related : σ → τ → Prop) (left : Reply σ) (right : Reply τ) : Prop where
  execution : left.execution = right.execution
  fault : left.fault = right.fault
  cancels : left.cancels = right.cancels
  tree : left.tree = right.tree
  host : related left.host right.host

/-- Two executors give the same answers, as long as their states are related. -/
def Executor.SameAnswers (related : σ → τ → Prop) (left : Executor σ) (right : Executor τ)
    : Prop :=
  ∀ invocation tree cancelled first second,
    related first second
    → (left invocation tree cancelled first).SameAs related
        (right invocation tree cancelled second)

/-- An executor gives the same answers as itself in the same state. -/
theorem Executor.SameAnswers.refl (executor : Executor σ)
    : executor.SameAnswers Eq executor := by
  rintro invocation tree cancelled host _ rfl
  exact ⟨rfl, rfl, rfl, rfl, rfl⟩

/-- The likeness of sessions in one and the same tree. -/
def Likeness.oneTree (related : σ → τ → Prop) (outputs : String → String → Prop)
    : Likeness σ τ where
  trees := Eq
  hosts := related
  outputs := outputs
  opens := by
    rintro tree _ rfl path
    rfl
  writes := by
    rintro tree _ rfl path data
    cases wrote : tree.writeFile path data with
    | error cause => exact Or.inl ⟨cause, rfl, rfl⟩
    | ok written => exact Or.inr ⟨written, written, rfl, rfl, rfl⟩

/-- Executors with the same answers go side by side in one tree. -/
theorem Executor.SameAnswers.parallel {related : σ → τ → Prop} {left : Executor σ}
    {right : Executor τ} (same : left.SameAnswers related right)
    (outputs : String → String → Prop)
    : left.Parallel (.oneTree related outputs) right := by
  rintro invocation tree _ cancelled first second rfl hosts
  have reply := same invocation tree cancelled first second hosts
  exact ⟨reply.execution, reply.fault, reply.cancels, reply.tree, reply.host⟩

-----------------------------------------------------------------------------------------
-- Twin runs
-----------------------------------------------------------------------------------------

/-- Two sessions in the same tree that agree in all but what has been printed and logged. -/
structure Session.Twins (related : σ → τ → Prop) (left : Session σ) (right : Session τ)
    : Prop where
  tree : left.tree = right.tree
  host : related left.host right.host
  cancelled : left.cancelled = right.cancelled
  polls : left.polls = right.polls

namespace Harness

/-- Two harnesses with the same directories, the same filter and the same answers of their
executors, which are asked to stop at the same looks.
-/
structure Twins (related : σ → τ → Prop) (left : Harness σ) (right : Harness τ) : Prop where
  layout : left.config.layout = right.config.layout
  selects : left.selects = right.selects
  interrupts : left.interrupts = right.interrupts
  answers : left.executor.SameAnswers related right.executor

variable {related : σ → τ → Prop} {left : Harness σ} {right : Harness τ} {s : Session σ}
  {t : Session τ}

/-- Twin runs begin alike. -/
theorem Twins.outset (twins : left.Twins related right) (sessions : s.Twins related t)
    {outputs : String → String → Prop} {covered : TestCase → Prop}
    (output : outputs s.output t.output)
    (covers
      : ∀ tree cases,
          Scratch.reset t.tree right.config.layout.scratch = (tree, none)
          → Discovery.discover tree right.config.layout right.selects = .ok cases
          → ∀ tc ∈ cases, covered tc)
    : Outset (.oneTree related outputs) covered left right s t := by
  have cleared : Scratch.reset s.tree left.config.layout.scratch
      = Scratch.reset t.tree right.config.layout.scratch := by
    rw [sessions.tree, twins.layout]
  refine {
    tree := congrArg Prod.fst cleared
    fault := congrArg Prod.snd cleared
    found := by rw [cleared, twins.layout, twins.selects]
    covers := ?_
    host := sessions.host
    cancelled := sessions.cancelled
    polls := sessions.polls
    output := output
  }
  intro cases unbroken found
  exact covers _ cases (Prod.ext rfl unbroken) found

/-- Twin runs, whatever they print, end with the same fault, leave the same tree and make the same
invocations; and if their results are the same under a view, so are their tallies, unless both could
not begin.
-/
theorem Twins.run (twins : left.Twins related right) (sessions : s.Twins related t)
    (view : CaseResult → CaseResult)
    (judges
      : ∀ tree tc execution fault,
          (Finding.of left.config.strictExit tree tc execution fault).result tc execution
          = view
              ((Finding.of right.config.strictExit tree tc execution fault).result tc execution))
    : (left.run s).fault = (right.run t).fault
      ∧ (left.run s).session.tree = (right.run t).session.tree
      ∧ (left.calls s).map Exchange.invocation = (right.calls t).map Exchange.invocation
      ∧ ((left.run s).tally = none ∧ (right.run t).tally = none
        ∨ ∃ results,
            (left.run s).tally = some (Tally.empty.recordAll (results.map view))
            ∧ (right.run t).tally = some (Tally.empty.recordAll results)) := by
  have parallel : left.Parallel (.oneTree related fun _ _ => True) view (fun _ => True) right :=
    { interrupts := twins.interrupts
      answers := twins.answers.parallel _
      judges := judges
      starts := fun _ _ _ => trivial
      finishes := fun _ _ _ _ => trivial }
  have outset : Outset (.oneTree related fun _ _ => True) (fun _ => True) left right s t :=
    twins.outset sessions trivial fun _ _ _ _ _ _ => trivial
  obtain ⟨session, fault, tally⟩ := parallel.run outset
  exact ⟨fault, session.tree, parallel.invocations outset, tally⟩

end Harness

end GoldenSuite

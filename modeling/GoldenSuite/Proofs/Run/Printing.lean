import GoldenSuite.Proofs.Run.Steps

/-! What a run prints: a text when a case starts and a text when it is done, and nothing besides.
Everything else that a run does leaves its output alone.
-/

namespace GoldenSuite.Harness

variable {σ : Type}

-----------------------------------------------------------------------------------------
-- One case
-----------------------------------------------------------------------------------------

@[simp] theorem output_poll (s : Session σ) (interrupts : Nat → Bool)
    : (s.poll interrupts).2.output = s.output :=
  rfl

@[simp] theorem output_announced (h : Harness σ) (s : Session σ) (tc : TestCase)
    : (h.announced s tc).output = s.output :=
  rfl

@[simp] theorem output_concluded (h : Harness σ) (s : Session σ) (tc : TestCase)
    (execution : Execution) (finding : Finding)
    : (h.concluded s tc execution finding).output = s.output := by
  unfold concluded
  split <;> rfl

@[simp] theorem output_keepOutput (s : Session σ) (tc : TestCase) (stdout : Bytes)
    (fault : Option Fault)
    : (keepOutput s tc stdout fault).1.output = s.output := by
  unfold keepOutput
  split <;> rfl

/-- Executing a case prints nothing. -/
@[simp] theorem output_execute (h : Harness σ) (s : Session σ) (tc : TestCase)
    : (h.execute s tc).1.output = s.output := by
  unfold execute
  cases openInput s.tree tc with
  | error fault => rfl
  | ok stdin =>
      dsimp only
      split
      · rename_i polled asked
        obtain ⟨_, rfl⟩ := Prod.mk.inj asked
        rfl
      · rename_i polled passed
        obtain ⟨_, rfl⟩ := Prod.mk.inj passed
        simp [call]

/-- Running a case prints nothing by itself. -/
@[simp] theorem output_runCase (h : Harness σ) (s : Session σ) (tc : TestCase)
    : (h.runCase s tc).1.output = s.output := by
  have executed : (h.execute (h.announced s tc) tc).1.output = s.output := by simp
  rw [runCase_eq]
  split
  · rename_i came
    rw [came] at executed
    exact executed
  · rename_i came
    rw [came] at executed
    split
    · rename_i polled asked
      obtain ⟨_, rfl⟩ := Prod.mk.inj asked
      exact executed
    · rename_i polled passed
      obtain ⟨_, rfl⟩ := Prod.mk.inj passed
      simpa using executed

-----------------------------------------------------------------------------------------
-- Steps and runs
-----------------------------------------------------------------------------------------

/-- A step that records a result prints the line before its case and what there is to say about the
result.
-/
theorem output_of_step_some {h : Harness σ} {s final : Session σ} {tc : TestCase}
    {result : CaseResult} (recorded : h.step s tc = (final, some result))
    : final.output
      = s.output ++ (h.reporter.starting tc ++ h.reporter.finished final.tree result) := by
  obtain ⟨after, _, ran, rfl⟩ := of_step_some recorded
  have quiet := h.output_runCase
    (Session.print { s with polls := s.polls + 1 } (h.reporter.starting tc)) tc
  rw [ran] at quiet
  simp only [Session.print] at quiet ⊢
  rw [quiet, String.append_assoc]

/-- A step that records nothing prints the line before its case, unless the run was asked to stop
before it.
-/
theorem output_of_step_none {h : Harness σ} {s : Session σ} {tc : TestCase}
    (stopped : (h.step s tc).2 = none)
    : (h.step s tc).1.output
      = s.output ++ if (s.poll h.interrupts).1 then "" else h.reporter.starting tc := by
  unfold step at stopped ⊢
  split
  · rename_i polled asked
    rw [asked, if_pos rfl, String.append_empty, ← output_poll s h.interrupts, asked]
  · rename_i polled passed
    rw [passed] at stopped ⊢
    have silent : polled.output = s.output := by rw [← output_poll s h.interrupts, passed]
    have quiet := h.output_runCase (polled.print (h.reporter.starting tc)) tc
    cases ran : h.runCase (polled.print (h.reporter.starting tc)) tc with
    | mk after outcome =>
        cases outcome with
        | some result => simp [ran, reported] at stopped
        | none =>
            rw [ran] at quiet
            simpa [reported, Session.print, silent] using quiet

/-- A text that is printed when a case starts or when it is done. -/
def IsCaseText (h : Harness σ) (text : String) : Prop :=
  (∃ tc, text = h.reporter.starting tc) ∨ ∃ tree result, text = h.reporter.finished tree result

/-- One session has printed more than another: texts about cases. -/
def PrintsCases (h : Harness σ) (before after : Session σ) : Prop :=
  ∃ texts, (∀ text ∈ texts, h.IsCaseText text) ∧ after.output = before.output ++ String.join texts

/-- A session that has printed the same has printed no text. -/
theorem PrintsCases.of_eq {h : Harness σ} {before after : Session σ}
    (same : after.output = before.output)
    : h.PrintsCases before after :=
  ⟨[], by simp, by simp [same]⟩

/-- Texts follow texts. -/
theorem PrintsCases.trans {h : Harness σ} {before middle after : Session σ}
    (first : h.PrintsCases before middle) (second : h.PrintsCases middle after)
    : h.PrintsCases before after := by
  obtain ⟨texts, about, printed⟩ := first
  obtain ⟨more, aboutMore, printedMore⟩ := second
  refine ⟨texts ++ more, ?_, ?_⟩
  · intro text member
    rcases List.mem_append.mp member with early | late
    · exact about text early
    · exact aboutMore text late
  · rw [printedMore, printed, String.join_append, String.append_assoc]

/-- A step prints texts about its case: none if the run is asked to stop before it, one if it is
stopped in it, and two if it is recorded.
-/
theorem step_printsCases (h : Harness σ) (s : Session σ) (tc : TestCase)
    : h.PrintsCases s (h.step s tc).1 := by
  cases taken : h.step s tc with
  | mk after outcome =>
      cases outcome with
      | none =>
          have stopped : (h.step s tc).2 = none := by rw [taken]
          have printed := output_of_step_none stopped
          rw [taken] at printed
          by_cases asked : (s.poll h.interrupts).1 = true
          · rw [if_pos asked, String.append_empty] at printed
            exact .of_eq printed
          · rw [if_neg asked] at printed
            refine ⟨[h.reporter.starting tc], ?_, by simpa using printed⟩
            intro text member
            exact Or.inl ⟨tc, List.mem_singleton.mp member⟩
      | some result =>
          refine ⟨[h.reporter.starting tc, h.reporter.finished after.tree result], ?_,
            by simpa using output_of_step_some taken⟩
          intro text member
          simp only [List.mem_cons, List.not_mem_nil, or_false] at member
          rcases member with rfl | rfl
          · exact Or.inl ⟨tc, rfl⟩
          · exact Or.inr ⟨after.tree, result, rfl⟩

/-- A run of cases prints texts about cases, by induction over the cases. -/
theorem runCases_printsCases (h : Harness σ) (s : Session σ) (tally : Tally)
    (cases : List TestCase)
    : h.PrintsCases s (h.runCases s tally cases).1 := by
  induction cases generalizing s tally with
  | nil => exact .of_eq rfl
  | cons tc rest ih =>
      have first := h.step_printsCases s tc
      rw [runCases_cons]
      cases taken : h.step s tc with
      | mk after outcome =>
          rw [taken] at first
          cases outcome with
          | none => exact first
          | some result => exact first.trans (ih after _)

/-- A run prints texts about cases, whatever its course. -/
theorem run_printsCases (h : Harness σ) (s : Session σ) : h.PrintsCases s (h.run s).session := by
  have course := h.run_course s
  generalize h.run s = ending at course
  cases course with
  | unreset reset => exact .of_eq rfl
  | undiscovered reset found => exact .of_eq rfl
  | @ran tree cases reset found =>
      have printed := h.runCases_printsCases (h.opening s tree cases) .empty cases
      generalize h.runCases (h.opening s tree cases) .empty cases = out at printed ⊢
      obtain ⟨after, tally, cut⟩ := out
      cases cut <;> exact printed

end GoldenSuite.Harness

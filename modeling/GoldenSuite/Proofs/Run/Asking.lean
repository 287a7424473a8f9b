import GoldenSuite.Proofs.Run.Recording

/-! What asks a run to stop. The request comes from outside, and then the next look finds it, or
with an answer to a call. A step that records its result passes through its looks and its calls
without a request; a step that records nothing has been asked by one of them.
-/

namespace GoldenSuite.Harness

variable {σ : Type} {h : Harness σ} {s after : Session σ} {tc : TestCase}

/-- Something asks a run to stop: the request comes from outside and one of the looks from the first
to the last finds it, or an answer to one of the calls brings it.
-/
def Asks (h : Harness σ) (first last : Nat) (calls : List (Exchange σ)) : Prop :=
  (∃ look, first ≤ look ∧ look < last ∧ h.interrupts look = true)
  ∨ ∃ call ∈ calls, call.reply.cancels = true

/-- How many looks a run has taken once it has run some cases: one before each of them, one after
each of their calls, and one before each of them is judged.
-/
def looksAfter (s : Session σ) (cases : Nat) (calls : List (Exchange σ)) : Nat :=
  s.polls + (2 * cases + calls.length)

theorem not_asks_self (h : Harness σ) (look : Nat) : ¬h.Asks look look [] := by
  rintro (⟨_, lower, upper, _⟩ | ⟨_, member, _⟩)
  · omega
  · cases member

/-- What asks in two stretches of a run asks in one of them. -/
theorem asks_append {first middle last : Nat} (lower : first ≤ middle) (upper : middle ≤ last)
    (calls more : List (Exchange σ))
    : h.Asks first last (calls ++ more) ↔ h.Asks first middle calls ∨ h.Asks middle last more := by
  constructor
  · rintro (⟨look, after, before, found⟩ | ⟨call, member, cancels⟩)
    · by_cases early : look < middle
      · exact .inl (.inl ⟨look, after, early, found⟩)
      · exact .inr (.inl ⟨look, Nat.le_of_not_lt early, before, found⟩)
    · rcases List.mem_append.mp member with own | later
      · exact .inl (.inr ⟨call, own, cancels⟩)
      · exact .inr (.inr ⟨call, later, cancels⟩)
  · rintro ((⟨look, after, before, found⟩ | ⟨call, member, cancels⟩)
      | (⟨look, after, before, found⟩ | ⟨call, member, cancels⟩))
    · exact .inl ⟨look, after, by omega, found⟩
    · exact .inr ⟨call, List.mem_append_left _ member, cancels⟩
    · exact .inl ⟨look, by omega, before, found⟩
    · exact .inr ⟨call, List.mem_append_right _ member, cancels⟩

/-- A stretch of a run through which nothing asks to stop, with its looks and its calls. -/
structure Passes (h : Harness σ) (s : Session σ) (looks : Nat) (calls : List (Exchange σ))
    (after : Session σ)
    : Prop where
  running : s.cancelled = false
  still : after.cancelled = false
  polls : after.polls = s.polls + looks
  unasked : ¬h.Asks s.polls after.polls calls

/-- Stretches follow one another. -/
theorem Passes.trans {middle : Session σ} {looks more : Nat} {calls later : List (Exchange σ)}
    (first : h.Passes s looks calls middle) (second : h.Passes middle more later after)
    : h.Passes s (looks + more) (calls ++ later) after where
  running := first.running
  still := second.still
  polls := by rw [second.polls, first.polls, Nat.add_assoc]
  unasked := by
    have lower : s.polls ≤ middle.polls := first.polls ▸ Nat.le_add_right _ _
    have upper : middle.polls ≤ after.polls := second.polls ▸ Nat.le_add_right _ _
    rw [asks_append lower upper]
    exact not_or.mpr ⟨first.unasked, second.unasked⟩

/-- What else a session holds does not matter. -/
theorem Passes.congr {other left : Session σ} {looks : Nat} {calls : List (Exchange σ)}
    (passes : h.Passes s looks calls after) (cancelled : other.cancelled = s.cancelled)
    (polls : other.polls = s.polls) (cancelled' : left.cancelled = after.cancelled)
    (polls' : left.polls = after.polls)
    : h.Passes other looks calls left where
  running := cancelled.trans passes.running
  still := cancelled'.trans passes.still
  polls := by rw [polls', passes.polls, polls]
  unasked := by
    rw [polls, polls']
    exact passes.unasked

/-- A look that finds no request to stop. -/
theorem passes_look {polled : Session σ} (passed : s.poll h.interrupts = (false, polled))
    : h.Passes s 1 [] polled := by
  have quiet := Session.uninterrupted_of_poll passed
  obtain ⟨running, rfl⟩ := Session.of_poll_false passed
  refine ⟨running, running, rfl, ?_⟩
  rintro (⟨look, lower, upper, found⟩ | ⟨_, member, _⟩)
  · have only : look = s.polls := by
      dsimp only at upper
      omega
    rw [only, quiet] at found
    cases found
  · cases member

-----------------------------------------------------------------------------------------
-- One case
-----------------------------------------------------------------------------------------

/-- The look after a call finds no request if none was there before, none has come by then, and the
answer has not brought one.
-/
theorem passes_call {stdin : Option Stdin} {polled : Session σ}
    (passed : (h.call s ⟨tc.program, stdin⟩).1.poll h.interrupts = (false, polled))
    : h.Passes s 1 [h.exchange s ⟨tc.program, stdin⟩] polled := by
  obtain ⟨_, still, polls, unasked⟩ := passes_look passed
  have running : (h.call s ⟨tc.program, stdin⟩).1.cancelled = false :=
    (Session.of_poll_false passed).1
  obtain ⟨before, calm⟩ := Bool.or_eq_false_iff.mp running
  refine ⟨before, still, polls, ?_⟩
  rintro (looked | ⟨call, member, cancels⟩)
  · exact unasked (.inl looked)
  · obtain rfl := List.mem_singleton.mp member
    exact absurd (calm.symm.trans cancels) (by simp)

/-- Keeping an output does not ask to stop. -/
theorem keepOutput_fst (s : Session σ) (tc : TestCase) (stdout : Bytes) (fault : Option Fault)
    : (keepOutput s tc stdout fault).1
      = { s with tree := (s.tree.writeFile tc.actual stdout).toOption.getD s.tree } := by
  unfold keepOutput
  cases s.tree.writeFile tc.actual stdout <;> rfl

/-- Nothing asks to stop through an execution that comes back. -/
theorem passes_execute {outcome : Execution × Option Fault} (running : s.cancelled = false)
    (came : h.execute s tc = (after, some outcome))
    : h.Passes s (h.callsFor s tc).length (h.callsFor s tc) after := by
  rw [callsFor_eq_openInput]
  obtain ⟨_, opened, rfl, _⟩ | ⟨stdin, polled, opened, passed, _, kept⟩ := of_execute_some came
  · rw [opened]
    exact ⟨running, running, rfl, h.not_asks_self _⟩
  · rw [opened]
    have session := congrArg Prod.fst kept
    rw [keepOutput_fst] at session
    subst session
    exact (passes_call passed).congr rfl rfl rfl rfl

/-- An execution that does not come back has made its call, and was asked to stop by the answer or
by the look after it.
-/
theorem asks_of_execute_none (running : s.cancelled = false)
    (stopped : h.execute s tc = (after, none))
    : h.Asks s.polls (s.polls + (h.callsFor s tc).length) (h.callsFor s tc) := by
  rw [callsFor_eq_openInput]
  unfold execute at stopped
  split at stopped
  · cases stopped
  · rename_i stdin opened
    rw [opened]
    dsimp only at stopped
    split at stopped
    · rename_i polled asked
      rcases Session.asked_of_poll asked with cancelled | interrupted
      · have answered : (s.cancelled || (h.exchange s ⟨tc.program, stdin⟩).reply.cancels) = true :=
          cancelled
        rw [running, Bool.false_or] at answered
        exact .inr ⟨_, List.mem_singleton_self _, answered⟩
      · exact .inl ⟨s.polls, Nat.le_refl _, Nat.lt_succ_self _, interrupted⟩
    · cases stopped

/-- Nothing asks to stop through a case that comes back. -/
theorem passes_runCase {result : CaseResult} (running : s.cancelled = false)
    (recorded : h.runCase s tc = (after, some result))
    : h.Passes s ((h.callsFor s tc).length + 1) (h.callsFor s tc) after := by
  rw [runCase_eq] at recorded
  split at recorded
  · cases recorded
  · rename_i left execution fault executed
    split at recorded
    · cases recorded
    · rename_i polled passed
      have served : h.Passes (h.announced s tc) (h.callsFor s tc).length (h.callsFor s tc) left :=
        passes_execute running executed
      have passes := served.trans (passes_look passed)
      rw [List.append_nil] at passes
      have same : (h.concluded polled tc execution (h.finding polled tc execution fault)).cancelled
            = polled.cancelled
          ∧ (h.concluded polled tc execution (h.finding polled tc execution fault)).polls
            = polled.polls := by
        unfold concluded
        split <;> exact ⟨rfl, rfl⟩
      obtain ⟨rfl, _⟩ := Prod.mk.inj recorded
      exact passes.congr rfl rfl same.1 same.2

/-- A case that does not come back was asked to stop by the answer to its call, by the look after
it, or by the look before it is judged.
-/
theorem asks_of_runCase_none (running : s.cancelled = false)
    (stopped : h.runCase s tc = (after, none))
    : h.Asks s.polls (s.polls + 1 + (h.callsFor s tc).length) (h.callsFor s tc) := by
  rw [runCase_eq] at stopped
  rw [← List.append_nil (h.callsFor s tc)]
  split at stopped
  · rename_i left executed
    have asks : h.Asks s.polls (s.polls + (h.callsFor s tc).length) (h.callsFor s tc) :=
      asks_of_execute_none (s := h.announced s tc) running executed
    refine (asks_append (Nat.le_add_right _ _) ?_ _ _).mpr (.inl asks)
    rw [List.length_append]
    omega
  · rename_i left execution fault executed
    split at stopped
    · rename_i polled asked
      have passes : h.Passes (h.announced s tc) (h.callsFor s tc).length (h.callsFor s tc) left :=
        passes_execute running executed
      have polls : left.polls = s.polls + (h.callsFor s tc).length := passes.polls
      have interrupted : h.interrupts left.polls = true := by
        refine (Session.asked_of_poll asked).resolve_left ?_
        rw [passes.still]
        simp
      refine .inl ⟨left.polls, by omega, ?_, interrupted⟩
      rw [List.append_nil]
      omega
    · cases stopped

-----------------------------------------------------------------------------------------
-- Steps
-----------------------------------------------------------------------------------------

/-- Nothing asks to stop through a step that records a result. -/
theorem passes_step {result : CaseResult} (recorded : h.step s tc = (after, some result))
    : h.Passes s (2 + (h.callsFor s tc).length) (h.callsFor s tc) after := by
  unfold step at recorded
  split at recorded
  · cases recorded
  · rename_i polled passed
    have looked := passes_look passed
    obtain ⟨running, rfl⟩ := Session.of_poll_false passed
    cases ran : h.runCase (Session.print { s with polls := s.polls + 1 } (h.reporter.starting tc))
        tc with
    | mk left outcome =>
        rw [ran] at recorded
        cases outcome with
        | none => cases recorded
        | some result =>
            have served : h.Passes { s with polls := s.polls + 1 } _ (h.callsFor s tc) left :=
              (passes_runCase (s := Session.print { s with polls := s.polls + 1 } _) running
                ran).congr rfl rfl rfl rfl
            have passes := looked.trans served
            have looks : 1 + ((h.callsFor s tc).length + 1) = 2 + (h.callsFor s tc).length := by
              omega
            rw [List.nil_append] at passes
            obtain ⟨rfl, _⟩ := Prod.mk.inj recorded
            exact looks ▸ passes.congr rfl rfl rfl rfl

/-- A step that records nothing has been stopped by the look before its case, with no call made; or
its calls have been made, and it was asked to stop by an answer or by a look after that one.
-/
theorem asks_of_step_none (stopped : (h.step s tc).2 = none)
    : (s.cancelled = true ∨ h.interrupts s.polls = true) ∧ h.stepCalls s tc = []
      ∨ s.cancelled = false
        ∧ h.stepCalls s tc = h.callsFor s tc
        ∧ h.Asks (s.polls + 1) (s.polls + 2 + (h.callsFor s tc).length) (h.callsFor s tc) := by
  unfold step at stopped
  unfold stepCalls
  split at stopped
  · rename_i polled asked
    rw [asked]
    exact .inl ⟨Session.asked_of_poll asked, rfl⟩
  · rename_i polled passed
    rw [passed]
    obtain ⟨running, rfl⟩ := Session.of_poll_false passed
    cases ran : h.runCase (Session.print { s with polls := s.polls + 1 } (h.reporter.starting tc))
        tc with
    | mk left outcome =>
        rw [ran] at stopped
        cases outcome with
        | none =>
            have asks : h.Asks (s.polls + 1) (s.polls + 1 + 1 + (h.callsFor s tc).length)
                (h.callsFor s tc) :=
              asks_of_runCase_none (s := Session.print { s with polls := s.polls + 1 } _) running
                ran
            exact .inr ⟨running, rfl, asks⟩
        | some result => cases stopped

end GoldenSuite.Harness

import GoldenSuite.Execution.Scripted
import GoldenSuite.Proofs.Discovery.Exactness
import GoldenSuite.Proofs.Run.Serving

/-! A run records a prefix of the discovered cases. It is cut short only by the request to stop,
and calls its executor for the cases that it records and at most for the one in flight.
-/

namespace GoldenSuite.Harness

variable {σ : Type}

/-- The calls of a numbered case are calls for a case of that number. -/
theorem isCallOf_of_mem_callsAt {h : Harness σ} {s : Session σ} {cases : List TestCase}
    {index : Nat} {call : Exchange σ} (member : call ∈ h.callsAt s cases index)
    : ∃ tc, cases[index]? = some tc ∧ IsCallOf call tc := by
  unfold callsAt at member
  split at member
  · rename_i tc selected
    exact ⟨tc, selected, isCallOf_of_mem_callsFor member⟩
  · cases member

/-- A run has the tally of its steps. It ends without a fault exactly if no case is left, and
otherwise with the request to stop.
-/
theorem Finish.ending_facts {h : Harness σ} {reached : Session σ} {tally : Tally}
    {rest : List TestCase} {out : Session σ × Tally × Bool}
    (finish : h.Finish reached tally rest out)
    : (h.ending out).tally = some tally
      ∧ ((h.ending out).fault = none ↔ rest = [])
      ∧ ((h.ending out).fault ≠ none
        → (h.ending out).fault = some (.mark .canceled)
          ∧ (h.ending out).session.cancelled = true) := by
  cases finish with
  | complete => exact ⟨rfl, by simp [ending], fun faulty => absurd rfl faulty⟩
  | stopped none =>
      exact ⟨rfl, by simp [ending], fun _ => ⟨rfl, cancelled_of_step_none none⟩⟩

/-- A step that records nothing cuts the run short in its case. -/
theorem cutIn_of_step_none {h : Harness σ} {s : Session σ} {tc : TestCase} {asked : Bool}
    (stopped : (h.step s tc).2 = none) (before : s.cancelled = true → asked = true)
    : h.CutIn tc s.scene asked s.polls (h.stepCalls s tc) := by
  rcases asks_of_step_none stopped with ⟨found, none⟩ | ⟨running, made, found⟩
  · rw [none]
    exact .before (found.imp_left before)
  · rw [made]
    obtain ⟨_, serves⟩ := h.exists_serves tc running
    exact .during serves found

/-- A run that does not come to its end is cut short in the case after its steps. -/
theorem Finish.cutIn {h : Harness σ} {reached : Session σ} {tally : Tally}
    {rest : List TestCase} {out : Session σ × Tally × Bool} {asked : Bool}
    (finish : h.Finish reached tally rest out) (ran : List TestCase) (left : rest ≠ [])
    (before : reached.cancelled = true → asked = true)
    : ∃ tc,
        (ran ++ rest)[ran.length]? = some tc
        ∧ h.CutIn tc reached.scene asked reached.polls (h.callsInFlight reached rest) := by
  cases finish with
  | complete => exact absurd rfl left
  | @stopped tc _ none => exact ⟨tc, by simp, cutIn_of_step_none none before⟩

/-- Calls of cases that are served, and calls in flight after these, are calls for the cases up to
the one in flight, with the executor's answers.
-/
theorem ServesAll.of_mem_append {h : Harness σ} {scene last : Scene σ} {ran rest : List TestCase}
    {recorded inFlight : List (Exchange σ)} {call : Exchange σ}
    (serves : h.ServesAll scene ran recorded last)
    (cut
      : inFlight ≠ []
        → ∃ tc asked first,
            (ran ++ rest)[ran.length]? = some tc ∧ h.CutIn tc last asked first inFlight)
    (member : call ∈ recorded ++ inFlight)
    : call.reply = h.executor call.invocation call.tree call.cancelled call.host
      ∧ ∃ tc ∈ (ran ++ rest).take (ran.length + 1), IsCallOf call tc := by
  rcases List.mem_append.mp member with own | flying
  · obtain ⟨tc, listed, isCall, answered⟩ := serves.of_mem own
    refine ⟨answered, tc, ?_, isCall⟩
    rw [List.take_length_add_append]
    exact List.mem_append_left _ listed
  · obtain ⟨tc, _, _, selected, cut⟩ := cut (List.ne_nil_of_mem flying)
    obtain ⟨isCall, answered⟩ := cut.of_mem flying
    refine ⟨answered, tc, List.mem_of_getElem? (i := ran.length) ?_, isCall⟩
    rw [List.getElem?_take_of_lt (Nat.lt_succ_self _), selected]

/-- A run that is not asked before, by a look or by an answer is not cut short. -/
theorem not_cutIn_of_unasked {h : Harness σ} {tc : TestCase} {scene : Scene σ} {first : Nat}
    {calls : List (Exchange σ)} (quiet : ∀ look, h.interrupts look = false)
    (calm : ∀ call ∈ calls, call.reply.cancels = false)
    : ¬h.CutIn tc scene false first calls := by
  intro cut
  cases cut with
  | before found => simp [quiet] at found
  | during _ found =>
      rcases found with ⟨look, _, _, found⟩ | ⟨call, member, cancels⟩
      · simp [quiet] at found
      · simp [calm call member] at cancels

/-- A run whose scratch directory is reset and whose cases are found records the first `k` of
these cases, in order. It ends without a fault exactly if these are all, and otherwise with the
request to stop and nothing else. The recorded cases are served one after the other, from the tree
that the reset has left: the executor is not called for one whose input cannot be opened, and once
for each of the others. After these there are at most the calls of the case in flight. That the
calls are noted changes nothing in the run.

Only a request to stop ends a run. None has come while the recorded cases were run: the run had not
been asked before, none of their looks has found a request, and no answer has brought one. If it is
cut short, then by a request that has come before the next case or while that one was served. So a
run that nothing asks records every case, whatever comes of each.
-/
theorem run_records_prefix {h : Harness σ} {s : Session σ} {tree : FileTree}
    {cases : List TestCase}
    (reset : Scratch.reset s.tree h.config.layout.scratch = (tree, none))
    (found : Discovery.discover tree h.config.layout h.selects = .ok cases)
    : ∃ tally k recorded inFlight reached,
        (h.run s).tally = some tally
        ∧ k ≤ cases.length
        ∧ tally.results.map CaseResult.tc = cases.take k
        ∧ ((h.run s).fault = none ↔ k = cases.length)
        ∧ h.recording.run (s.noting []) = (h.run s).noting (h.calls s)
        ∧ h.calls s = recorded ++ inFlight
        ∧ h.ServesAll ⟨tree, s.host⟩ (cases.take k) recorded reached
        ∧ (∀ call ∈ h.calls s,
            call.reply = h.executor call.invocation call.tree call.cancelled call.host
            ∧ ∃ tc ∈ cases.take (k + 1), IsCallOf call tc)
        ∧ (0 < k → s.cancelled = false)
        ∧ ¬h.Asks s.polls (looksAfter s k recorded) recorded
        ∧ ((h.run s).fault = none → inFlight = [])
        ∧ ((h.run s).fault ≠ none
          → (h.run s).fault = some (.mark .canceled)
            ∧ (h.run s).session.cancelled = true
            ∧ ∃ tc,
                cases[k]? = some tc
                ∧ h.CutIn tc reached s.cancelled (looksAfter s k recorded) inFlight)
        ∧ (s.cancelled = false
          → (∀ look, h.interrupts look = false)
          → (∀ call ∈ h.calls s, call.reply.cancels = false)
          → (h.run s).fault = none ∧ k = cases.length) := by
  obtain ⟨ran, rest, results, reached, rfl, steps, finish⟩ :=
    h.runCases_steps (h.opening s tree cases) .empty cases
  obtain ⟨tallied, complete, cut⟩ := finish.ending_facts
  rw [← run_eq_ending reset found] at tallied complete cut
  have called := calls_of_steps reset found steps finish
  have serves := steps.serves rest
  have unasked := steps.unasked rest
  generalize (List.range ran.length).flatMap
      (h.callsAt (h.opening s tree (ran ++ rest)) (ran ++ rest))
    = recorded at called serves unasked
  obtain ⟨looks, unasked, running, before⟩ := unasked
  rw [looks] at unasked
  have ended : (h.run s).fault = none ↔ ran.length = (ran ++ rest).length := by
    rw [complete, List.length_append]
    exact ⟨fun empty => by simp [empty], fun same => List.eq_nil_of_length_eq_zero (by omega)⟩
  have short (faulty : (h.run s).fault ≠ none)
      : ∃ tc,
          (ran ++ rest)[ran.length]? = some tc
          ∧ h.CutIn tc reached.scene s.cancelled (looksAfter s ran.length recorded)
              (h.callsInFlight reached rest) :=
    looks ▸ finish.cutIn ran (fun empty => faulty (complete.mpr empty)) before
  have idle (unbroken : (h.run s).fault = none) : h.callsInFlight reached rest = [] := by
    rw [complete.mp unbroken]
    rfl
  refine ⟨Tally.empty.recordAll results, ran.length, recorded, h.callsInFlight reached rest,
    reached.scene, tallied, by simp, ?_, ended, run_recording h s, called, ?_, ?_, running, unasked,
    idle, fun faulty => ⟨(cut faulty).1, (cut faulty).2, short faulty⟩, ?_⟩
  · rw [Tally.results_recordAll, List.take_left]
    exact steps.results_tc
  · rw [List.take_left]
    exact serves
  · intro call member
    rw [called] at member
    refine serves.of_mem_append (fun flying => ?_) member
    obtain ⟨tc, selected, cut⟩ := short fun unbroken => flying (idle unbroken)
    exact ⟨tc, _, _, selected, cut⟩
  · intro calm quiet answers
    have unbroken : (h.run s).fault = none := by
      by_contra faulty
      obtain ⟨tc, _, cut⟩ := short faulty
      rw [calm] at cut
      refine not_cutIn_of_unasked quiet (fun call member => ?_) cut
      exact answers call (by rw [called]; exact List.mem_append_right _ member)
    exact ⟨unbroken, ended.mp unbroken⟩

/-- A harness without filter, colours or log, whose programs print their own text and then what
they read.
-/
def echoing (layout : Layout) (interrupts : Nat → Bool) : Harness Scripted.State where
  config := { Config.default with layout }
  logger := { threshold := .warn, colors := false, clock := "" }
  selects := fun _ => true
  executor := Scripted.executor
  reporter := ⟨false, false⟩
  interrupts := interrupts

/-- A harness of the same kind, whose executor has one answer to each call, whatever was called
before.
-/
def answering (answer : Invocation → FileTree → Execution × Option Fault) (strictExit : Bool)
    (interrupts : Nat → Bool)
    : Harness Unit where
  config := { Config.default with layout := Discovery.shortLayout, strictExit }
  logger := { threshold := .warn, colors := false, clock := "" }
  selects := fun _ => true
  executor invocation tree _ _ :=
    { execution := (answer invocation tree).1
      fault := (answer invocation tree).2
      tree := tree
      host := ()
      stderr := []
      cancels := false }
  reporter := ⟨false, false⟩
  interrupts := interrupts

/-- Two programs without inputs. -/
def pairSuite : FileTree where
  nodes :=
    [(["v"], .directory), (["v", "a.v"], .file [65] 0o644), (["v", "b.v"], .file [66] 0o644)]
  home := []

/-- The suite once its scratch directory has been made. -/
def pairSuiteReset : FileTree where
  nodes := (["s"], .directory) :: pairSuite.nodes
  home := []

/-- The first case of the suite. -/
def firstOfPair : TestCase :=
  Discovery.caseAt Discovery.shortLayout "a" "" ""

/-- The second case of the suite. -/
def secondOfPair : TestCase :=
  Discovery.caseAt Discovery.shortLayout "b" "" ""

/-- A harness whose programs print nothing. -/
def silent (interrupts : Nat → Bool) : Harness Unit :=
  answering (fun _ _ => (Scripted.plainExecution [] 0, none)) false interrupts

/-- No answer of such a harness asks to stop. -/
theorem not_cancels_silent {interrupts : Nat → Bool} {call : Exchange Unit}
    (answered
      : call.reply
        = (silent interrupts).executor call.invocation call.tree call.cancelled call.host)
    : call.reply.cancels = false := by
  rw [answered]
  rfl

/-- A run of two programs that is asked to stop at its fifth look, while the second one is in
flight, and the same run if it is not asked to stop.
-/
theorem run_records_prefix_pairSuite
    : Scratch.reset pairSuite "s" = (pairSuiteReset, none)
      ∧ Discovery.discover pairSuiteReset Discovery.shortLayout (fun _ => true)
        = .ok [firstOfPair, secondOfPair]
      ∧ (∃ tally,
          ((silent (· == 4)).run (.start pairSuite () false)).tally = some tally
          ∧ tally.results.map CaseResult.tc = [firstOfPair]
          ∧ ((silent (· == 4)).run (.start pairSuite () false)).fault = some (.mark .canceled)
          ∧ ((silent (· == 4)).calls (.start pairSuite () false)).map Exchange.invocation
            = [⟨"v/a.v", none⟩, ⟨"v/b.v", none⟩])
      ∧ ∃ tally,
          ((silent fun _ => false).run (.start pairSuite () false)).tally = some tally
          ∧ tally.results.map CaseResult.tc = [firstOfPair, secondOfPair]
          ∧ ((silent fun _ => false).run (.start pairSuite () false)).fault = none
          ∧ ((silent fun _ => false).calls (.start pairSuite () false)).map Exchange.invocation
            = [⟨"v/a.v", none⟩, ⟨"v/b.v", none⟩] := by
  have reset : Scratch.reset pairSuite "s" = (pairSuiteReset, none) := by cbv
  have found : Discovery.discover pairSuiteReset Discovery.shortLayout (fun _ => true)
      = .ok [firstOfPair, secondOfPair] := by
    cbv
  have noInput : ∀ tc ∈ [firstOfPair, secondOfPair], tc.input = "" := by decide
  have invocations
      : [firstOfPair, secondOfPair].map (fun tc => Invocation.mk tc.program none)
        = [⟨"v/a.v", none⟩, ⟨"v/b.v", none⟩] := by
    cbv
  refine ⟨reset, found, ?_, ?_⟩
  · obtain ⟨tally, k, recorded, inFlight, reached, tallied, within, taken, ended, _, called,
      serves, _, _, unasked, _, cut, _⟩ :=
      run_records_prefix (h := silent (· == 4)) (s := .start pairSuite () false) reset found
    have made := serves.of_noInput fun tc member => noInput tc (List.mem_of_mem_take member)
    have count : recorded.length = k := by
      have lengths := congrArg List.length made
      simp only [List.length_map, List.length_take] at lengths
      omega
    have looks : looksAfter (.start pairSuite () false) k recorded = 3 * k := by
      simp only [looksAfter, Session.start, count]
      omega
    rw [looks] at unasked cut
    have cutShort : k ≠ [firstOfPair, secondOfPair].length := by
      rintro rfl
      exact unasked (.inl ⟨4, by decide, by decide, rfl⟩)
    obtain ⟨faulty, _, tc, selected, cutIn⟩ := cut fun none => cutShort (ended.mp none)
    cases cutIn with
    | before found =>
        have look : 3 * k = 4 := by simpa [silent, answering, Session.start] using found
        omega
    | during serves found =>
        have own := serves.of_noInput (noInput tc (List.mem_of_getElem? selected))
        have once : inFlight.length = 1 := by simpa using congrArg List.length own
        obtain rfl : k = 1 := by
          rcases found with ⟨look, lower, upper, found⟩ | ⟨call, member, cancels⟩
          · have fifth : look = 4 := by simpa [silent, answering] using found
            omega
          · have calm := not_cancels_silent (serves.of_mem member).2
            rw [calm] at cancels
            cases cancels
        refine ⟨tally, tallied, taken, faulty, ?_⟩
        obtain rfl := Option.some.inj selected
        rw [called, List.map_append, made, own, ← invocations]
        rfl
  · obtain ⟨tally, k, recorded, inFlight, reached, tallied, _, taken, _, _, called, serves,
      answers, _, _, idle, _, unasked⟩ :=
      run_records_prefix (h := silent fun _ => false) (s := .start pairSuite () false) reset found
    obtain ⟨unbroken, rfl⟩ := unasked rfl (fun _ => rfl) fun call member =>
      not_cancels_silent (answers call member).1
    have made := serves.of_noInput fun tc member => noInput tc (List.mem_of_mem_take member)
    rw [List.take_length] at taken made
    refine ⟨tally, tallied, taken, unbroken, ?_⟩
    rw [called, idle unbroken, List.append_nil, made, invocations]

end GoldenSuite.Harness

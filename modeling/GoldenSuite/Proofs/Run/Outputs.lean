import GoldenSuite.Proofs.Run.Frame

/-! What stands inside the scratch directory after a run: the placeholder as it was before, and the
outputs of the cases that have been executed, each with what its own execution has printed. Nothing
of an earlier run is left.
-/

namespace GoldenSuite.Harness

open FileTree

variable {σ : Type}

-----------------------------------------------------------------------------------------
-- The output of one case
-----------------------------------------------------------------------------------------

/-- A case leaves its output in a session: its one call was answered, what was printed could be
written, and it is a new file under the name of the case.
-/
def Leaves (h : Harness σ) (s : Session σ) (tc : TestCase) (name : String) (node : Node) : Prop :=
  ∃ call,
    h.callsFor s tc = [call]
    ∧ (∃ tree, call.reply.tree.writeFile tc.actual call.reply.execution.stdout = .ok tree)
    ∧ name = tc.name ++ textExt
    ∧ node = .file call.reply.execution.stdout plainMode

/-- The case of the given number leaves its output in the session after the cases before it. -/
def LeavesAt (h : Harness σ) (s : Session σ) (cases : List TestCase) (index : Nat) (name : String)
    (node : Node)
    : Prop :=
  ∃ tc call,
    cases[index]? = some tc
    ∧ h.callsAt s cases index = [call]
    ∧ (∃ tree, call.reply.tree.writeFile tc.actual call.reply.execution.stdout = .ok tree)
    ∧ name = tc.name ++ textExt
    ∧ node = .file call.reply.execution.stdout plainMode

/-- A case leaves its output in the session to which the steps before it lead. -/
theorem leavesAt_iff {h : Harness σ} {s : Session σ} {cases : List TestCase} {index : Nat}
    {tc : TestCase} (selected : cases[index]? = some tc) {name : String} {node : Node}
    : h.LeavesAt s cases index name node
      ↔ h.Leaves (h.sessionAfter s (cases.take index)) tc name node := by
  simp [LeavesAt, Leaves, callsAt, selected]

/-- After a step that records a result, cases are numbered from the next one on. -/
theorem leavesAt_succ {h : Harness σ} {s after : Session σ} {tc : TestCase} {result : CaseResult}
    (first : h.step s tc = (after, some result)) {rest : List TestCase} {index : Nat}
    {name : String} {node : Node}
    : h.LeavesAt s (tc :: rest) (index + 1) name node ↔ h.LeavesAt after rest index name node := by
  simp only [LeavesAt, callsAt_succ first, List.getElem?_cons_succ]

/-- What stands inside the scratch directory once the output of a call has been written: what was
there before, and the output.
-/
theorem find?_of_written {h : Harness σ} {s : Session σ} {tc : TestCase} {rest : List TestCase}
    {scratch : String} {call : Exchange σ} {after : FileTree} (keeps : h.executor.KeepsTree)
    (ready : Ready scratch s.tree (tc :: rest)) (called : h.callsFor s tc = [call])
    (wrote : s.tree.writeFile tc.actual call.reply.execution.stdout = .ok after) (name : String)
    (node : Node)
    : after.find? (placeOf s.tree.home scratch ++ [name]) = some node
      ↔ s.tree.find? (placeOf s.tree.home scratch ++ [name]) = some node
        ∨ h.Leaves s tc name node := by
  rw [(ready.writeFile wrote).1]
  refine or_congr_right ⟨?_, ?_⟩
  · rintro ⟨same, rfl⟩
    refine ⟨call, called, ⟨after, ?_⟩, by simpa using same, rfl⟩
    rw [tree_of_callsFor keeps called]
    exact wrote
  · rintro ⟨other, calledAgain, _, rfl, rfl⟩
    obtain rfl := List.singleton_inj.mp (called.symm.trans calledAgain)
    exact ⟨rfl, rfl⟩

/-- What stands inside the scratch directory after a step that records a result: what was there
before, and the output of the case, if it leaves one.
-/
theorem find?_of_step_some {h : Harness σ} {s after : Session σ} {tc : TestCase}
    {result : CaseResult} {rest : List TestCase} {scratch : String}
    (keeps : h.executor.KeepsTree) (ready : Ready scratch s.tree (tc :: rest))
    (recorded : h.step s tc = (after, some result)) (name : String) (node : Node)
    : after.tree.find? (placeOf s.tree.home scratch ++ [name]) = some node
      ↔ s.tree.find? (placeOf s.tree.home scratch ++ [name]) = some node
        ∨ h.Leaves s tc name node := by
  obtain ⟨execution, fault, executed, _⟩ := executed_of_step_some recorded
  generalize after.tree = tree at executed ⊢
  cases executed with
  | unopened refused =>
      have none : h.callsFor s tc = [] := by rw [callsFor_eq_openInput, refused]
      refine (or_iff_left ?_).symm
      rintro ⟨call, called, _⟩
      rw [none] at called
      cases called
  | @written call tree called wrote =>
      rw [tree_of_callsFor keeps called] at wrote
      exact find?_of_written keeps ready called wrote name node
  | @unwritten call cause called refused =>
      rw [tree_of_callsFor keeps called]
      refine (or_iff_left ?_).symm
      rintro ⟨other, calledAgain, ⟨tree, wrote⟩, _⟩
      obtain rfl := List.singleton_inj.mp (called.symm.trans calledAgain)
      rw [refused] at wrote
      cases wrote

-----------------------------------------------------------------------------------------
-- The outputs of a run
-----------------------------------------------------------------------------------------

/-- What stands inside the scratch directory after steps: what was there before, and the outputs
that their cases leave; by induction over the steps.
-/
theorem Steps.find?_iff {h : Harness σ} {s reached : Session σ} {ran rest : List TestCase}
    {results : List CaseResult} {scratch : String} (keeps : h.executor.KeepsTree)
    (steps : h.Steps s ran results reached) (ready : Ready scratch s.tree (ran ++ rest))
    : Ready scratch reached.tree rest
      ∧ reached.tree.home = s.tree.home
      ∧ ∀ name node,
          reached.tree.find? (placeOf s.tree.home scratch ++ [name]) = some node
          ↔ s.tree.find? (placeOf s.tree.home scratch ++ [name]) = some node
            ∨ ∃ index < ran.length, h.LeavesAt s (ran ++ rest) index name node := by
  induction steps with
  | done s => exact ⟨ready, rfl, by simp⟩
  | @next s after final tc result cases results first _ ih =>
      obtain ⟨stores, left⟩ := step_stores (h := h) keeps ready
      rw [first] at stores left
      have home : after.tree.home = s.tree.home := stores.home
      obtain ⟨readyRest, sameHome, later⟩ := ih left
      refine ⟨readyRest, sameHome.trans home, fun name node => ?_⟩
      have own : h.LeavesAt s (tc :: cases ++ rest) 0 name node ↔ h.Leaves s tc name node :=
        leavesAt_iff rfl
      rw [home] at later
      rw [later, find?_of_step_some keeps ready first, ← own, or_assoc]
      refine or_congr_right ⟨?_, ?_⟩
      · rintro (leaves | ⟨index, bound, leaves⟩)
        · exact ⟨0, by simp, leaves⟩
        · exact ⟨index + 1, by simpa using bound, (leavesAt_succ first).mpr leaves⟩
      · rintro ⟨index, bound, leaves⟩
        cases index with
        | zero => exact Or.inl leaves
        | succ index =>
            exact Or.inr ⟨index, by simpa using bound, (leavesAt_succ first).mp leaves⟩

/-- What stands inside the scratch directory after a run of cases: what was there before, and the
outputs of the cases that were recorded or, if the run was stopped, perhaps that of the case in
flight, whose call has been made.
-/
theorem Finish.find?_iff {h : Harness σ} {s reached : Session σ} {ran rest : List TestCase}
    {results : List CaseResult} {tally : Tally} {out : Session σ × Tally × Bool}
    {scratch : String} (keeps : h.executor.KeepsTree) (steps : h.Steps s ran results reached)
    (finish : h.Finish reached tally rest out) (ready : Ready scratch s.tree (ran ++ rest))
    : ∃ count,
        (count = ran.length
          ∨ count = ran.length + 1
            ∧ rest ≠ []
            ∧ h.callsInFlight reached rest = h.callsAt s (ran ++ rest) ran.length)
        ∧ ∀ name node,
            out.1.tree.find? (placeOf s.tree.home scratch ++ [name]) = some node
            ↔ s.tree.find? (placeOf s.tree.home scratch ++ [name]) = some node
              ∨ ∃ index < count, h.LeavesAt s (ran ++ rest) index name node := by
  obtain ⟨readyRest, home, before⟩ := steps.find?_iff keeps ready
  cases finish with
  | complete => exact ⟨ran.length, Or.inl rfl, before⟩
  | @stopped tc rest _ =>
      have selected : (ran ++ tc :: rest)[ran.length]? = some tc := by simp
      rcases h.tree_step keeps reached tc with same | ⟨call, made, called, wrote⟩
      · exact ⟨ran.length, Or.inl rfl, by simpa only [same] using before⟩
      · refine ⟨ran.length + 1, Or.inr ⟨rfl, by simp, ?_⟩, fun name node => ?_⟩
        · rw [callsAt, selected, List.take_left, steps.sessionAfter_eq, callsInFlight, made]
          exact called.symm
        have written := find?_of_written keeps readyRest called wrote name node
        rw [home, before] at written
        have own : h.LeavesAt s (ran ++ tc :: rest) ran.length name node
            ↔ h.Leaves reached tc name node := by
          rw [leavesAt_iff selected, List.take_left, steps.sessionAfter_eq]
        dsimp only
        rw [written, ← own, or_assoc]
        refine or_congr_right ⟨?_, ?_⟩
        · rintro (⟨index, bound, leaves⟩ | leaves)
          · exact ⟨index, Nat.lt_succ_of_lt bound, leaves⟩
          · exact ⟨ran.length, Nat.lt_succ_self _, leaves⟩
        · rintro ⟨index, bound, leaves⟩
          rcases Nat.lt_succ_iff_lt_or_eq.mp bound with earlier | rfl
          · exact Or.inl ⟨index, earlier, leaves⟩
          · exact Or.inr leaves

/-- A case whose input cannot be opened leaves no output, and no other case does under its name. -/
theorem not_leavesAt_of_unopened {h : Harness σ} {s : Session σ} {cases : List TestCase}
    {scratch : String} (planned : Planned scratch cases) {index : Nat} {tc : TestCase}
    {fault : Fault} (selected : cases[index]? = some tc)
    (unopened : openInput (h.sessionAfter s (cases.take index)).tree tc = .error fault)
    (other : Nat) (node : Node)
    : ¬h.LeavesAt s cases other (tc.name ++ textExt) node := by
  rintro ⟨left, call, found, called, _, named, _⟩
  have names : (cases.map TestCase.name).Nodup := List.pairwise_map.mpr planned.distinct
  have sameName : left.name = tc.name := ((String.append_left_inj _).mp named).symm
  have same : index = other := by
    have bound : index < (cases.map TestCase.name).length := by
      rw [List.length_map]
      exact (List.getElem?_eq_some_iff.mp selected).1
    refine (List.getElem?_inj bound names).mp ?_
    rw [List.getElem?_map, List.getElem?_map, selected, found]
    exact congrArg some sameName.symm
  subst same
  rw [callsAt, selected] at called
  dsimp only at called
  rw [callsFor_eq_openInput, unopened] at called
  cases called

/-- Once a run has reset its scratch directory and found its cases, what it leaves directly inside
the scratch directory, apart from directories, is the placeholder as it was before, and the outputs
of the cases that it records: for each that was executed and whose output could be written, a file
under the name of the case that holds what its own execution has printed, whatever has come of it.
If the run was interrupted there may be one more, that of the case in flight. All these have been
printed in calls of this run. A case whose input could not be opened leaves nothing, also of an
earlier run. The executor leaves the tree alone, and the path of the scratch directory is in its
cleaned form and goes through no link.
-/
theorem run_leaves_own_outputs {h : Harness σ} {s : Session σ} {tree : FileTree}
    {cases : List TestCase} (keeps : h.executor.KeepsTree) (wf : s.tree.WellFormed)
    (straight : Straight s.tree h.config.layout.scratch)
    (reset : Scratch.reset s.tree h.config.layout.scratch = (tree, none))
    (found : Discovery.discover tree h.config.layout h.selects = .ok cases)
    : ∃ tally count,
        (h.run s).tally = some tally
        ∧ tally.results.map CaseResult.tc = cases.take tally.results.length
        ∧ (count = tally.results.length
          ∨ count = tally.results.length + 1 ∧ (h.run s).fault = some (.mark .canceled))
        ∧ (∀ index < count,
            ∀ call ∈ h.callsAt (h.opening s tree cases) cases index, call ∈ h.calls s)
        ∧ (∀ name node,
            node ≠ .directory
            → ((h.run s).session.tree.find? (h.scratchPlace s ++ [name]) = some node
              ↔ name = Scratch.placeholder
                  ∧ s.tree.find? (h.scratchPlace s ++ [name]) = some node
                ∨ ∃ index < count, h.LeavesAt (h.opening s tree cases) cases index name node))
        ∧ ∀ index tc fault,
            cases[index]? = some tc
            → openInput (h.sessionAfter (h.opening s tree cases) (cases.take index)).tree tc
              = .error fault
            → ∀ node,
                (h.run s).session.tree.find? (h.scratchPlace s ++ [tc.name ++ textExt]) = some node
                → node = .directory := by
  obtain ⟨ready, home⟩ := ready_of_reset wf straight reset found
  obtain ⟨ran, rest, results, reached, rfl, steps, finish⟩ :=
    h.runCases_steps (h.opening s tree cases) .empty cases
  obtain ⟨tallied, complete, cut⟩ := finish.ending_facts
  obtain ⟨count, bound, stands⟩ := finish.find?_iff keeps steps ready
  rw [← run_eq_ending reset found] at tallied complete cut
  have final : (h.run s).session.tree
      = (h.runCases (h.opening s tree (ran ++ rest)) .empty (ran ++ rest)).1.tree := by
    rw [run_eq_ending reset found, tree_ending]
  have dir : placeOf (h.opening s tree (ran ++ rest)).tree.home h.config.layout.scratch
      = h.scratchPlace s :=
    congrArg (placeOf · h.config.layout.scratch) home
  have recorded : (Tally.empty.recordAll results).results.length = ran.length := by
    rw [Tally.results_recordAll, ← steps.results_tc]
    simp [Tally.empty]
  rw [← final, dir] at stands
  have listed (name : String) {node : Node} (noDirectory : node ≠ .directory)
      : (h.run s).session.tree.find? (h.scratchPlace s ++ [name]) = some node
        ↔ name = Scratch.placeholder ∧ s.tree.find? (h.scratchPlace s ++ [name]) = some node
          ∨ ∃ index < count,
              h.LeavesAt (h.opening s tree (ran ++ rest)) (ran ++ rest) index name node := by
    rw [stands]
    exact or_congr_left (Scratch.find?_reset_iff wf straight reset name noDirectory)
  refine ⟨Tally.empty.recordAll results, count, tallied, ?_, ?_, ?_, fun name node => listed name,
    ?_⟩
  · rw [recorded, List.take_left, ← steps.results_tc, Tally.results_recordAll]
    rfl
  · rw [recorded]
    rcases bound with all | ⟨more, left, _⟩
    · exact Or.inl all
    · exact Or.inr ⟨more, (cut fun none => left (complete.mp none)).1⟩
  · intro index within call member
    rw [calls_of_steps reset found steps finish]
    by_cases early : index < ran.length
    · exact List.mem_append_left _
        (List.mem_flatMap.mpr ⟨index, List.mem_range.mpr early, member⟩)
    · rcases bound with rfl | ⟨rfl, _, inFlight⟩
      · exact absurd within early
      · obtain rfl : index = ran.length := by omega
        rw [inFlight]
        exact List.mem_append_right _ member
  · intro index tc fault selected unopened node stand
    by_contra noDirectory
    rcases (listed _ noDirectory).mp stand with ⟨same, _⟩ | ⟨other, _, leaves⟩
    · exact Discovery.append_textExt_ne_placeholder tc.name same
    · exact not_leavesAt_of_unopened ready.planned selected unopened other node leaves

/-- The suite with a used scratch directory, once this has been reset. -/
def usedSuiteReset : FileTree :=
  usedSuite.erase ["s", "l"]

/-- The reset of the suite takes away the link. -/
theorem reset_usedSuite : Scratch.reset usedSuite "s" = (usedSuiteReset, none) := by
  cbv

/-- The call for a case without input that is run first. -/
theorem Uneventful.callsAt {h : Harness Scripted.State} {s : Session Scripted.State}
    {data : Bytes} (plain : h.Uneventful s) (tc : TestCase) (rest : List TestCase)
    (noInput : tc.input = "") (source : s.tree.readFile tc.program = .ok data)
    : ∃ call,
        h.callsAt s (tc :: rest) 0 = [call]
        ∧ IsCallOf call tc
        ∧ call.reply.execution.stdout = data
        ∧ call.reply.tree = s.tree := by
  have only : h.callsAt s (tc :: rest) 0 = [h.exchange s ⟨tc.program, none⟩] := by
    simp [Harness.callsAt, callsFor, noInput, sessionAfter, runCases]
  refine ⟨_, only, ⟨rfl, fun _ => rfl, fun given => absurd noInput given⟩, ?_⟩
  simp [exchange, plain.scripted, scripted_unprepared plain.unprepared source,
    Scripted.plainExecution]

/-- The program of the suite is read once this has been reset, and its output can be written. -/
theorem usedSuite_written
    : usedSuiteReset.readFile "v/a.v" = .ok [65]
      ∧ usedSuiteReset.writeFile "s/a.txt" [65]
        = .ok (usedSuiteReset.put ["s", "a.txt"] (.file [65] plainMode)) := by
  obtain ⟨program, _, output⟩ := locate_soloPaths usedSuiteReset
  have source : usedSuiteReset.locate true "v/a.v" = .ok ["v", "a.v"] := by
    rw [program]
    cbv
  have target : usedSuiteReset.locate true "s/a.txt" = .ok ["s", "a.txt"] := by
    rw [output]
    cbv
  have missing : usedSuiteReset.find? ["s", "a.txt"] = none := by decide
  exact ⟨readFile_eq_ok_iff.mpr ⟨_, source, by decide⟩, by simp only [writeFile, target, missing]⟩

/-- A run over the suite comes to its end and leaves the placeholder and what it has printed in its
one call, and nothing of the link that stood in the scratch directory.
-/
theorem run_leaves_own_outputs_usedSuite
    : Scripted.executor.KeepsTree
      ∧ usedSuite.WellFormed
      ∧ Straight usedSuite "s"
      ∧ Scratch.reset usedSuite "s" = (usedSuiteReset, none)
      ∧ Discovery.discover usedSuiteReset Discovery.shortLayout (fun _ => true)
        = .ok [soloCase "o/a.txt"]
      ∧ ((echoing Discovery.shortLayout fun _ => false).run
            (.start usedSuite ⟨[], []⟩ false)).fault
          = none
      ∧ ((echoing Discovery.shortLayout fun _ => false).run
            (.start usedSuite ⟨[], []⟩ false)).session.tree.find? ["s", ".keep"]
          = some (.file [] 0o644)
      ∧ (∃ call ∈ (echoing Discovery.shortLayout fun _ => false).calls
            (.start usedSuite ⟨[], []⟩ false),
          IsCallOf call (soloCase "o/a.txt")
          ∧ call.reply.execution.stdout = [65]
          ∧ ((echoing Discovery.shortLayout fun _ => false).run
                (.start usedSuite ⟨[], []⟩ false)).session.tree.find? ["s", "a.txt"]
              = some (.file call.reply.execution.stdout plainMode))
      ∧ ∀ node,
          node ≠ .directory
          → ((echoing Discovery.shortLayout fun _ => false).run
              (.start usedSuite ⟨[], []⟩ false)).session.tree.find? ["s", "l"]
            ≠ some node := by
  have wf : usedSuite.WellFormed := by decide
  have straight : Straight usedSuite "s" := by decide
  have found : Discovery.discover usedSuiteReset Discovery.shortLayout (fun _ => true)
      = .ok [soloCase "o/a.txt"] := by
    cbv
  have dir : (echoing Discovery.shortLayout fun _ => false).scratchPlace
      (.start usedSuite ⟨[], []⟩ false) = ["s"] := by
    decide
  have plain
      : (echoing Discovery.shortLayout fun _ => false).Uneventful
          (.start usedSuite ⟨[], []⟩ false) :=
    ⟨rfl, rfl, rfl, fun _ => rfl⟩
  obtain ⟨source, wrote⟩ := usedSuite_written
  obtain ⟨unbroken, recorded⟩ := plain.run reset_usedSuite found rfl source wrote
  obtain ⟨tally, count, tallied, _, many, made, listed, _⟩ :=
    run_leaves_own_outputs (h := echoing Discovery.shortLayout fun _ => false)
      (s := .start usedSuite ⟨[], []⟩ false) scripted_keepsTree wf straight
      reset_usedSuite found
  rw [dir] at listed
  have first : 0 < count := by
    obtain rfl := Option.some.inj (recorded.symm.trans tallied)
    rcases many with rfl | ⟨rfl, _⟩ <;> simp
  refine ⟨scripted_keepsTree, wf, straight, reset_usedSuite, found, unbroken, ?_, ?_,
    fun node noDirectory stands => ?_⟩
  · exact (listed ".keep" _ (by simp)).mpr (Or.inl ⟨rfl, by decide⟩)
  · have opened := plain.opening usedSuiteReset [soloCase "o/a.txt"]
    obtain ⟨call, called, isCall, printed, left⟩ :=
      opened.callsAt (soloCase "o/a.txt") [] rfl source
    refine ⟨call, made 0 first call (by simp [called]), isCall, printed, ?_⟩
    refine (listed "a.txt" _ (by simp)).mpr (Or.inr ⟨0, first, _, call, rfl, called, ?_, ?_, rfl⟩)
    · rw [left, printed]
      exact ⟨_, wrote⟩
    · decide
  · rcases (listed "l" node noDirectory).mp stands with ⟨same, _⟩ | ⟨_, _, tc, _, _, _, _, same, _⟩
    · exact absurd same (by decide)
    · -- An output is called by more than one character.
      have lengths := congrArg String.length same
      rw [String.length_append] at lengths
      have four : textExt.length = 4 := by decide
      have one : "l".length = 1 := by decide
      omega

end GoldenSuite.Harness

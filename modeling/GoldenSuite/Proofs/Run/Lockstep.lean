import GoldenSuite.Proofs.Run.Residue
import GoldenSuite.Proofs.Run.Unlinked

/-! Two runs in lockstep, one of which leaves cases out. It goes through the same steps as the whole
run does: its tree lacks the outputs of the cases that are left out and nothing else, and no other
case reads or writes at their places or below them. Only a reference directory can lie there.
-/

namespace GoldenSuite

open FileTree

variable {σ : Type}

/-- A determined executor answers the same about a program that can be read the same. -/
theorem Executor.Determined.answers_same {executor : Executor σ}
    (determined : executor.Determined) (invocation : Invocation) {left right : FileTree}
    (same : left.readFile invocation.program = right.readFile invocation.program)
    (cancelled cancelled' : Bool) (host host' : σ)
    : (executor invocation left cancelled host).execution
        = (executor invocation right cancelled' host').execution
      ∧ (executor invocation left cancelled host).fault
        = (executor invocation right cancelled' host').fault := by
  obtain ⟨answer, answers⟩ := determined
  have replies := (answers invocation left cancelled host).trans
    (same ▸ (answers invocation right cancelled' host').symm)
  simp only [Prod.mk.injEq] at replies
  exact ⟨replies.1, replies.2.1⟩

namespace Harness

variable {h : Harness σ} {s : Session σ} {tc : TestCase}

-----------------------------------------------------------------------------------------
-- Outputs of the cases that are left out
-----------------------------------------------------------------------------------------

/-- The output of a case that is left out stands where nothing stands otherwise. -/
def Surplus (dir : Place) (skipped : List TestCase) (place : Place) (old new : Option Node)
    : Prop :=
  ∃ tc ∈ skipped,
    place = dir ++ [tc.name ++ textExt] ∧ old = none ∧ ∃ data, new = some (.file data plainMode)

/-- An output of a case that is left out was not there before, so it is stored once. -/
theorem Surplus.trans {dir : Place} {skipped : List TestCase} {place : Place}
    {old middle new : Option Node} (first : Surplus dir skipped place old middle)
    (second : Surplus dir skipped place middle new)
    : Surplus dir skipped place old new := by
  obtain ⟨_, _, _, _, _, rfl⟩ := first
  obtain ⟨_, _, _, missing, _⟩ := second
  cases missing

/-- The output of a case hides the references: their directory lies where it is written, or below,
and no directory keeps it from being written.
-/
def Hides (layout : Layout) (tree : FileTree) (tc : TestCase) : Prop :=
  placeOf tree.home tc.actual <+: placeOf tree.home layout.references
  ∧ tree.find? (placeOf tree.home tc.actual) ≠ some .directory

/-- The same node is put into both of two trees. -/
theorem changed_put_both {kind : Place → Option Node → Option Node → Prop} {before after : FileTree}
    (changed : Changed kind before after) (place : Place) (node : Node)
    : Changed kind (before.put place node) (after.put place node) := by
  refine ⟨changed.home, fun other => ?_⟩
  by_cases root : other = []
  · left
    rw [root, find?_nil, find?_nil]
  · by_cases own : other = place
    · left
      rw [own, find?_put_self (own ▸ root), find?_put_self (own ▸ root)]
    · rw [find?_put_of_ne own, find?_put_of_ne own]
      exact changed.node other

/-- Two runs in lockstep, one of them without the cases that are skipped. Both have come from one
tree; the whole run has the outputs of the skipped cases besides, and the other cases of `cases` are
still to be run in both.
-/
structure Lockstep (h : Harness σ) (selects : String → Bool) (origin : FileTree)
    (skipped cases : List TestCase) (part full : Session σ)
    : Prop where
  partRuns : part.cancelled = false
  fullRuns : full.cancelled = false
  partReady
    : Ready (Path.clean h.config.layout.scratch) part.tree
        (cases.filter fun tc => selects tc.name)
  fullReady : Ready (Path.clean h.config.layout.scratch) full.tree cases
  unlinked : part.tree.Unlinked
  grown
    : Changed
        (Stores (Path.clean h.config.layout.scratch)
          (placeOf origin.home h.config.layout.scratch))
        origin part.tree
  surplus
    : Changed (Surplus (placeOf origin.home h.config.layout.scratch) skipped) part.tree full.tree
  leftOut
    : ∀ tc ∈ skipped,
        selects tc.name = false
        ∧ placeOf origin.home tc.actual
          = placeOf origin.home h.config.layout.scratch ++ [tc.name ++ textExt]

/-- The cases of two runs in lockstep: they find what they read, and the output of a case that is
left out does not hide the references of a later one that is not.
-/
structure Provided (h : Harness σ) (selects : String → Bool) (origin : FileTree)
    (skipped cases : List TestCase)
    : Prop where
  supplied : ∀ tc ∈ cases, Discovery.Supplied origin h.config.layout tc
  apart
    : (skipped ++ cases).Pairwise fun earlier later =>
        selects earlier.name = false
        → selects later.name = true
        → ¬Hides h.config.layout origin earlier

section Lockstep

variable {selects : String → Bool} {origin : FileTree} {skipped cases : List TestCase}
  {part full : Session σ}

/-- The trees of both runs can be compared. -/
theorem Lockstep.comparable (lockstep : h.Lockstep selects origin skipped cases part full)
    : Comparable part.tree full.tree where
  unlinked := lockstep.unlinked
  first := lockstep.partReady.wellFormed
  second := lockstep.fullReady.wellFormed
  home := lockstep.surplus.home

/-- What stands in the tree that both runs have come from stands in both. -/
theorem Lockstep.find?_of_origin (lockstep : h.Lockstep selects origin skipped cases part full)
    {place : Place} {node : Node} (found : origin.find? place = some node)
    : part.tree.find? place = some node := by
  rcases lockstep.grown.node place with same | ⟨_, _, _, _, missing, _⟩
  · rw [same, found]
  · rw [found] at missing
    cases missing

/-- Where no output of a skipped case stands on the way, both trees agree. -/
theorem Lockstep.agree (lockstep : h.Lockstep selects origin skipped cases part full)
    {place : Place}
    (clear
      : ∀ tc ∈ skipped,
          placeOf origin.home h.config.layout.scratch ++ [tc.name ++ textExt] <+: place
          → part.tree.find? (placeOf origin.home h.config.layout.scratch ++ [tc.name ++ textExt])
            ≠ none)
    : Agree part.tree full.tree place := by
  intro above isAbove
  rcases lockstep.surplus.node above with same | ⟨tc, member, rfl, missing, _⟩
  · exact same.symm
  · exact absurd missing (clear tc member isAbove)

/-- Both trees agree on the way to what stands in the tree that they have come from. -/
theorem Lockstep.agree_standing (lockstep : h.Lockstep selects origin skipped cases part full)
    {path : String} (standing : Standing origin path)
    : Agree part.tree full.tree (placeOf part.tree.home path) := by
  obtain ⟨node, found⟩ := standing.found
  rw [← lockstep.grown.home] at found
  have stands := lockstep.find?_of_origin found
  refine lockstep.agree ?_
  rintro tc _ ⟨more, below⟩ missing
  rw [← below] at stands
  by_cases last : more = []
  · rw [last, List.append_nil, missing] at stands
    cases stands
  · rw [lockstep.partReady.wellFormed.above stands last] at missing
    cases missing

/-- A case that is not left out is called differently from those that are. -/
theorem Lockstep.name_ne (lockstep : h.Lockstep selects origin skipped cases part full)
    {other : TestCase} (member : other ∈ skipped) (selected : selects tc.name = true)
    : other.name ++ textExt ≠ tc.name ++ textExt := by
  intro same
  have names : other.name = tc.name := (String.append_left_inj _).mp same
  have leftOut := (lockstep.leftOut other member).1
  rw [names, selected] at leftOut
  cases leftOut

/-- Both trees agree on the way to the output of a case that is not left out. -/
theorem Lockstep.agree_actual (lockstep : h.Lockstep selects origin skipped cases part full)
    (leads
      : placeOf origin.home tc.actual
        = placeOf origin.home h.config.layout.scratch ++ [tc.name ++ textExt])
    (selected : selects tc.name = true)
    : Agree part.tree full.tree (placeOf part.tree.home tc.actual) := by
  rw [lockstep.grown.home, leads]
  refine lockstep.agree fun other member above => ?_
  have whole := above.eq_of_length (by simp)
  exact absurd (by simpa using whole) (lockstep.name_ne member selected)

/-- Both trees agree on the way to the reference of a case that is not left out, if no output of
one that is hides the references.
-/
theorem Lockstep.agree_reference (lockstep : h.Lockstep selects origin skipped cases part full)
    (apart : ∀ other ∈ skipped, ¬Hides h.config.layout origin other)
    (selected : selects tc.name = true)
    : Agree part.tree full.tree
        (placeOf origin.home h.config.layout.references ++ [tc.name ++ textExt]) := by
  refine lockstep.agree fun other isSkipped above missing => ?_
  rcases List.prefix_concat_iff.mp above with whole | inner
  · have lasts := congrArg List.getLast? whole
    exact lockstep.name_ne isSkipped selected (by simpa using lasts)
  · refine apart other isSkipped ⟨?_, ?_⟩
    · rw [(lockstep.leftOut other isSkipped).2]
      exact inner
    · rw [(lockstep.leftOut other isSkipped).2]
      intro directory
      rw [lockstep.find?_of_origin directory] at missing
      cases missing

/-- The place of an output, in its cleaned path. -/
theorem Lockstep.actual (lockstep : h.Lockstep selects origin skipped cases part full)
    (member : tc ∈ cases)
    : Path.clean tc.actual = tc.actual
      ∧ placeOf origin.home tc.actual
        = placeOf origin.home h.config.layout.scratch ++ [tc.name ++ textExt] := by
  have planned := lockstep.fullReady.planned
  have plain := planned.plain tc member
  rw [planned.actual tc member]
  exact ⟨Path.clean_join _ plain, by rw [placeOf_join _ _ plain, placeOf_clean]⟩

-----------------------------------------------------------------------------------------
-- One case in both runs
-----------------------------------------------------------------------------------------

/-- A case opens the same input in both runs. -/
theorem Lockstep.openInput (lockstep : h.Lockstep selects origin skipped cases part full)
    (supplied : Discovery.Supplied origin h.config.layout tc)
    : Harness.openInput part.tree tc = Harness.openInput full.tree tc := by
  unfold Harness.openInput TestCase.hasInput
  by_cases empty : tc.input = ""
  · simp [empty]
  · have standing := supplied.input empty
    rw [lockstep.comparable.openPath standing.cleaned (lockstep.agree_standing standing)]

/-- A case has the same executions and faults in both runs, and both trees stay as they are or get
the same node.
-/
theorem Lockstep.executed (lockstep : h.Lockstep selects origin skipped (tc :: cases) part full)
    (determined : h.executor.Determined) (keeps : h.executor.KeepsTree)
    (supplied : Discovery.Supplied origin h.config.layout tc) (selected : selects tc.name = true)
    {partTree fullTree : FileTree} {execution execution' : Execution}
    {fault fault' : Option Fault} (inPart : h.Executed part tc partTree execution fault)
    (inFull : h.Executed full tc fullTree execution' fault')
    : execution = execution'
      ∧ fault = fault'
      ∧ (partTree = part.tree ∧ fullTree = full.tree
        ∨ ∃ place node,
            partTree = part.tree.put place node ∧ fullTree = full.tree.put place node) := by
  have sameInput := lockstep.openInput supplied
  cases opened : Harness.openInput part.tree tc with
  | error cause =>
      obtain ⟨rfl, rfl, rfl⟩ := inPart.of_unopened opened
      obtain ⟨rfl, rfl, rfl⟩ := inFull.of_unopened (sameInput ▸ opened)
      exact ⟨rfl, rfl, Or.inl ⟨rfl, rfl⟩⟩
  | ok stdin =>
      have sameProgram : part.tree.readFile tc.program = full.tree.readFile tc.program :=
        lockstep.comparable.readFile supplied.program.cleaned
          (lockstep.agree_standing supplied.program)
      obtain ⟨sameExecution, sameFault⟩ :=
        determined.answers_same ⟨tc.program, stdin⟩ sameProgram part.cancelled full.cancelled
          part.host full.host
      obtain ⟨told, partWrote⟩ := inPart.of_opened keeps opened
      obtain ⟨told', fullWrote⟩ := inFull.of_opened keeps (sameInput ▸ opened)
      have executions : execution = execution' :=
        told.trans (sameExecution.trans told'.symm)
      subst executions
      obtain ⟨cleaned, leads⟩ := lockstep.actual (List.mem_cons_self (a := tc))
      have wrote :=
        lockstep.comparable.writeFile cleaned (lockstep.agree_actual leads selected)
          execution.stdout
      refine ⟨rfl, ?_⟩
      rcases partWrote with ⟨partWrote, rfl⟩ | ⟨cause, partWrote, rfl, rfl⟩
      · rcases fullWrote with ⟨fullWrote, rfl⟩ | ⟨cause, fullWrote, _, _⟩
        · refine ⟨sameFault, ?_⟩
          rw [partWrote, fullWrote] at wrote
          rcases wrote with ⟨_, broken, _⟩ | ⟨node, left, right⟩ | ⟨left, right⟩
          · cases broken
          · exact Or.inr ⟨_, node, Except.ok.inj left, Except.ok.inj right⟩
          · exact Or.inl ⟨Except.ok.inj left, Except.ok.inj right⟩
        · rw [partWrote, fullWrote] at wrote
          simp at wrote
      · rcases fullWrote with ⟨fullWrote, _⟩ | ⟨cause', fullWrote, rfl, rfl⟩
        · rw [partWrote, fullWrote] at wrote
          simp at wrote
        · rw [partWrote, fullWrote] at wrote
          obtain rfl : cause' = cause := by simpa using wrote
          refine ⟨?_, Or.inl ⟨rfl, rfl⟩⟩
          rw [exchange, exchange]
          dsimp only
          rw [sameFault]

/-- A case that is not left out takes the same step in both runs. -/
theorem Lockstep.step_selected
    (lockstep : h.Lockstep selects origin skipped (tc :: cases) part full)
    (provided : h.Provided selects origin skipped (tc :: cases))
    (determined : h.executor.Determined) (keeps : h.executor.KeepsTree) (calm : h.Undisturbed)
    (selected : selects tc.name = true)
    : ∃ part' full' result,
        h.step part tc = (part', some result)
        ∧ h.step full tc = (full', some result)
        ∧ h.Lockstep selects origin skipped cases part' full' := by
  have supplied := provided.supplied tc (by simp)
  obtain ⟨part', result, partStep, partRuns⟩ := calm.step lockstep.partRuns tc
  obtain ⟨full', result', fullStep, fullRuns⟩ := calm.step lockstep.fullRuns tc
  obtain ⟨execution, fault, inPart, recorded⟩ := executed_of_step_some partStep
  obtain ⟨execution', fault', inFull, recorded'⟩ := executed_of_step_some fullStep
  obtain ⟨rfl, rfl, trees⟩ :=
    lockstep.executed determined keeps supplied selected inPart inFull
  have partReady := lockstep.partReady
  rw [List.filter_cons_of_pos (by simpa using selected)] at partReady
  obtain ⟨partStores, partReady⟩ := step_stores (h := h) keeps partReady
  obtain ⟨_, fullReady⟩ := step_stores (h := h) keeps lockstep.fullReady
  rw [partStep] at partStores partReady
  rw [fullStep] at fullReady
  rw [placeOf_clean, lockstep.grown.home] at partStores
  have next : h.Lockstep selects origin skipped cases part' full' := {
    partRuns := partRuns
    fullRuns := fullRuns
    partReady := partReady
    fullReady := fullReady
    unlinked := lockstep.unlinked.changed partStores fun _ _ _ => Stores.noLink
    grown := lockstep.grown.trans (fun _ _ _ _ first second => first.trans second) partStores
    surplus := by
      rcases trees with ⟨samePart, sameFull⟩ | ⟨place, node, putPart, putFull⟩
      · rw [samePart, sameFull]
        exact lockstep.surplus
      · rw [putPart, putFull]
        exact changed_put_both lockstep.surplus place node
    leftOut := lockstep.leftOut
  }
  have apart : ∀ other ∈ skipped, ¬Hides h.config.layout origin other := fun other member =>
    (List.pairwise_append.mp provided.apart).2.2 other member tc (by simp)
      (lockstep.leftOut other member).1 selected
  have sameActual : part'.tree.readFile tc.actual = full'.tree.readFile tc.actual := by
    obtain ⟨cleaned, leads⟩ := lockstep.actual (List.mem_cons_self (a := tc))
    exact next.comparable.readFile cleaned (next.agree_actual leads selected)
  have sameReference : part'.tree.readFile tc.reference = full'.tree.readFile tc.reference := by
    have plain := lockstep.fullReady.planned.plain tc (by simp)
    rw [supplied.reference]
    refine next.comparable.readFile (Path.clean_join _ plain) ?_
    rw [next.grown.home, placeOf_join _ _ plain]
    exact next.agree_reference apart selected
  refine ⟨part', full', result, partStep, ?_, next⟩
  rw [fullStep, recorded, recorded', finding, finding, Finding.of_congr sameActual sameReference]

/-- A case that is left out takes its step in the whole run alone. -/
theorem Lockstep.step_skipped
    (lockstep : h.Lockstep selects origin skipped (tc :: cases) part full)
    (keeps : h.executor.KeepsTree) (calm : h.Undisturbed) (leftOut : selects tc.name = false)
    : ∃ full' result,
        h.step full tc = (full', some result)
        ∧ h.Lockstep selects origin (skipped ++ [tc]) cases part full' := by
  obtain ⟨full', result, fullStep, fullRuns⟩ := calm.step lockstep.fullRuns tc
  obtain ⟨_, fullReady⟩ := step_stores (h := h) keeps lockstep.fullReady
  rw [fullStep] at fullReady
  have partReady := lockstep.partReady
  rw [List.filter_cons_of_neg (by simp [leftOut])] at partReady
  have earlier : Changed
      (Surplus (placeOf origin.home h.config.layout.scratch) (skipped ++ [tc]))
      part.tree full.tree := by
    refine lockstep.surplus.mono ?_
    rintro place old new ⟨other, member, rest⟩
    exact ⟨other, by simp [member], rest⟩
  refine ⟨full', result, fullStep, ?_⟩
  exact {
    partRuns := lockstep.partRuns
    fullRuns := fullRuns
    partReady := partReady
    fullReady := fullReady
    unlinked := lockstep.unlinked
    grown := lockstep.grown
    surplus := by
      have taken := h.tree_step keeps full tc
      rw [fullStep] at taken
      rcases taken with same | ⟨call, _, _, wrote⟩
      · rw [same]
        exact earlier
      · have ready := lockstep.fullReady
        have home : full.tree.home = origin.home :=
          lockstep.surplus.home.trans lockstep.grown.home
        rw [ready.planned.actual tc (by simp)] at wrote
        obtain ⟨_, _, missing, written⟩ :=
          ready.wellFormed.writeFile_join ready.straight (ready.planned.plain tc (by simp))
            (ready.free tc (by simp)) wrote
        rw [placeOf_clean, home] at missing written
        rw [written]
        exact earlier.trans (fun _ _ _ _ first second => first.trans second)
          (.put ⟨tc, by simp, rfl, missing, _, rfl⟩)
    leftOut := by
      intro other member
      rcases List.mem_append.mp member with inner | last
      · exact lockstep.leftOut other inner
      · obtain rfl := List.mem_singleton.mp last
        exact ⟨leftOut, (lockstep.actual (by simp)).2⟩
  }

/-- Both runs come to their end in lockstep, by induction over the cases: the run without the cases
that are left out records the results of the others.
-/
theorem Lockstep.steps (lockstep : h.Lockstep selects origin skipped cases part full)
    (provided : h.Provided selects origin skipped cases)
    (determined : h.executor.Determined) (keeps : h.executor.KeepsTree) (calm : h.Undisturbed)
    : ∃ part' full' results skipped',
        h.Steps full cases results full'
        ∧ h.Steps part (cases.filter fun tc => selects tc.name)
            (results.filter fun result => selects result.tc.name) part'
        ∧ h.Lockstep selects origin skipped' [] part' full' := by
  induction cases generalizing skipped part full with
  | nil => exact ⟨part, full, [], skipped, .done full, .done part, lockstep⟩
  | cons tc rest ih =>
      cases selected : selects tc.name with
      | true =>
          obtain ⟨part', full', result, partStep, fullStep, next⟩ :=
            lockstep.step_selected provided determined keeps calm selected
          have later : h.Provided selects origin skipped rest := {
            supplied := fun other member => provided.supplied other (by simp [member])
            apart := provided.apart.sublist ((List.sublist_cons_self tc rest).append_left skipped)
          }
          obtain ⟨last, lastFull, results, skipped', fullSteps, partSteps, done⟩ := ih next later
          have own : result.tc = tc := tc_of_step_some fullStep
          refine ⟨last, lastFull, result :: results, skipped', .next fullStep fullSteps, ?_, done⟩
          rw [List.filter_cons_of_pos (by simpa using selected),
            List.filter_cons_of_pos (by simpa [own] using selected)]
          exact .next partStep partSteps
      | false =>
          obtain ⟨full', result, fullStep, next⟩ := lockstep.step_skipped keeps calm selected
          have later : h.Provided selects origin (skipped ++ [tc]) rest := {
            supplied := fun other member => provided.supplied other (by simp [member])
            apart := by simpa using provided.apart
          }
          obtain ⟨last, lastFull, results, skipped', fullSteps, partSteps, done⟩ := ih next later
          have own : result.tc = tc := tc_of_step_some fullStep
          refine ⟨last, lastFull, result :: results, skipped', .next fullStep fullSteps, ?_, done⟩
          rw [List.filter_cons_of_neg (by simp [selected]),
            List.filter_cons_of_neg (by simp [own, selected])]
          exact partSteps

end Lockstep

end Harness

end GoldenSuite

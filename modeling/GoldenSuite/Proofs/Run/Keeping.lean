import GoldenSuite.Proofs.Discovery.Distinctness
import GoldenSuite.Proofs.Run.Outcome
import GoldenSuite.Proofs.Scratch.Reset

/-! How a run keeps the outputs of its cases. Each is a new file directly inside the scratch
directory, under a name of its own, so no output is written over another one, and through no link.
-/

namespace GoldenSuite

open FileTree

-----------------------------------------------------------------------------------------
-- Discovered cases
-----------------------------------------------------------------------------------------

/-- The outputs of cases go into the scratch directory, each under a plain name of its own. -/
structure Planned (scratch : String) (cases : List TestCase) : Prop where
  distinct : cases.Pairwise fun left right => left.name ≠ right.name
  plain : ∀ tc ∈ cases, Path.IsPlain (tc.name ++ textExt)
  actual : ∀ tc ∈ cases, tc.actual = Path.join scratch (tc.name ++ textExt)

/-- A directory of a well-formed tree whose files are found is listed as a file system lists it. -/
theorem Discovery.exists_listed {tree : FileTree} {dir ext : String} {files : List Stemmed}
    (wf : tree.WellFormed) (found : filesWithExt tree dir ext = .ok files)
    : ∃ entries, Listed tree dir entries := by
  unfold filesWithExt at found
  split at found
  · rename_i entries read
    have listing : ∃ place, entries = tree.entriesAt place := by
      unfold readDir at read
      split at read
      · cases read
      · exact ⟨_, (Except.ok.inj read).symm⟩
      · cases read
    obtain ⟨place, rfl⟩ := listing
    have plain {entry : Entry} (member : entry ∈ tree.entriesAt place)
        : Path.IsPlain entry.name := by
      obtain ⟨node, stands, _⟩ := (mem_entriesAt_iff wf.distinct).mp member
      exact wf.plain stands entry.name (by simp)
    exact ⟨_, Or.inl read, fun _ member => (plain member).nonempty,
      fun _ member => (plain member).unslashed, nodup_entriesAt wf.distinct place⟩
  · rename_i fault read
    split at found
    · rename_i missing
      exact ⟨[], Or.inr ⟨rfl, fault, read, missing⟩, by simp, by simp, by simp⟩
    · cases found

/-- The cases that are found in a well-formed tree are selected among those of two listings. -/
theorem Discovery.exists_listings {tree : FileTree} {layout : Layout} {selects : String → Bool}
    {cases : List TestCase} (wf : tree.WellFormed)
    (found : discover tree layout selects = .ok cases)
    : ∃ programs inputs,
        Listed tree layout.programs programs
        ∧ Listed tree layout.inputs inputs
        ∧ cases = (casesIn layout programs inputs).filter fun tc => selects tc.name := by
  have listed : (∃ programs, Listed tree layout.programs programs)
      ∧ ∃ inputs, Listed tree layout.inputs inputs := by
    unfold discover at found
    cases programs : filesWithExt tree layout.programs layout.programExt with
    | error fault =>
        rw [programs] at found
        cases found
    | ok files =>
        cases inputs : filesWithExt tree layout.inputs textExt with
        | error fault =>
            rw [programs, inputs] at found
            cases found
        | ok others => exact ⟨exists_listed wf programs, exists_listed wf inputs⟩
  obtain ⟨⟨programs, listedPrograms⟩, inputs, listedInputs⟩ := listed
  rw [discover_of_listed listedPrograms listedInputs] at found
  exact ⟨programs, inputs, listedPrograms, listedInputs, (Except.ok.inj found).symm⟩

/-- The cases that are found in a well-formed tree have different outputs in the scratch
directory.
-/
theorem Discovery.discover_planned {tree : FileTree} {layout : Layout} {selects : String → Bool}
    {cases : List TestCase} (wf : tree.WellFormed)
    (found : discover tree layout selects = .ok cases)
    : Planned layout.scratch cases := by
  obtain ⟨programs, inputs, listedPrograms, listedInputs, rfl⟩ := exists_listings wf found
  have described {tc : TestCase}
      (member : tc ∈ (casesIn layout programs inputs).filter fun tc => selects tc.name)
      : Described layout programs inputs tc :=
    mem_casesIn.mp (List.mem_filter.mp member).1
  exact {
    distinct := (casesIn_pairwise listedPrograms listedInputs).filter _
    plain := fun tc member => (described member).plain listedPrograms listedInputs
    actual := fun tc member => (described member).paths.2.1
  }

namespace Harness

variable {σ : Type}

-----------------------------------------------------------------------------------------
-- New files
-----------------------------------------------------------------------------------------

/-- An output is stored as a new file inside the scratch directory, by a path that is accepted. -/
def Stores (scratch : String) (dir place : Place) (old new : Option Node) : Prop :=
  ∃ name,
    name ≠ Scratch.placeholder
    ∧ place = dir ++ [name]
    ∧ IsAccepted (Path.join scratch name)
    ∧ old = none
    ∧ ∃ data, new = some (.file data plainMode)

/-- A stored output was not there before, so it is stored once. -/
theorem Stores.trans {scratch : String} {dir place : Place} {old middle new : Option Node}
    (first : Stores scratch dir place old middle) (second : Stores scratch dir place middle new)
    : Stores scratch dir place old new := by
  obtain ⟨_, _, _, _, _, _, rfl⟩ := first
  obtain ⟨_, _, _, _, missing, _⟩ := second
  cases missing

/-- Storing an output makes or removes no directory. -/
theorem Stores.alters {scratch : String} {dir place : Place} {old new : Option Node}
    (stores : Stores scratch dir place old new)
    : Scratch.Alters dir place old new := by
  obtain ⟨name, other, rfl, _, rfl, data, rfl⟩ := stores
  exact ⟨⟨name, other, rfl⟩, by simp, by simp⟩

/-- A stored output is no link. -/
theorem Stores.noLink {scratch : String} {dir place : Place} {old new : Option Node}
    (stores : Stores scratch dir place old new)
    : NoLink new := by
  obtain ⟨_, _, _, _, _, data, rfl⟩ := stores
  simp [NoLink]

/-- A tree into which the outputs of cases can go: the scratch directory has a straight path, and
nothing stands where an output is to be written, unless it is a directory.
-/
structure Ready (scratch : String) (tree : FileTree) (cases : List TestCase) : Prop where
  wellFormed : tree.WellFormed
  straight : Straight tree scratch
  planned : Planned scratch cases
  free
    : ∀ tc ∈ cases,
        ∀ node,
          tree.find? (placeOf tree.home scratch ++ [tc.name ++ textExt]) = some node
          → node = .directory

/-- A tree that is ready for cases is ready for all but the first. -/
theorem Ready.tail {scratch : String} {tree : FileTree} {tc : TestCase} {rest : List TestCase}
    (ready : Ready scratch tree (tc :: rest))
    : Ready scratch tree rest := by
  have planned := ready.planned
  refine ⟨ready.wellFormed, ready.straight, ⟨(List.pairwise_cons.mp planned.distinct).2, ?_, ?_⟩,
    fun other member => ready.free other (by simp [member])⟩
  · exact fun other member => planned.plain other (by simp [member])
  · exact fun other member => planned.actual other (by simp [member])

/-- If an output is written, it is a new file of the given contents inside the scratch directory,
and the tree is ready for the other cases.
-/
theorem Ready.writeFile {scratch : String} {tree after : FileTree} {tc : TestCase}
    {rest : List TestCase} {data : Bytes} (ready : Ready scratch tree (tc :: rest))
    (wrote : tree.writeFile tc.actual data = .ok after)
    : (∀ place node,
        after.find? place = some node
        ↔ tree.find? place = some node
          ∨ place = placeOf tree.home scratch ++ [tc.name ++ textExt]
            ∧ node = .file data plainMode)
      ∧ Changed (Stores scratch (placeOf tree.home scratch)) tree after
      ∧ Ready scratch after rest := by
  have planned := ready.planned
  have plain := planned.plain tc (by simp)
  have other := Discovery.append_textExt_ne_placeholder tc.name
  rw [planned.actual tc (by simp)] at wrote
  obtain ⟨directory, accepted, missing, rfl⟩ :=
    ready.wellFormed.writeFile_join ready.straight plain (ready.free tc (by simp)) wrote
  have stores : Changed (Stores scratch (placeOf tree.home scratch)) tree
      (tree.put (placeOf tree.home scratch ++ [tc.name ++ textExt]) (.file data plainMode)) :=
    .put ⟨_, other, rfl, accepted, missing, data, rfl⟩
  refine ⟨fun place node => ?_, stores, ?_⟩
  · by_cases same : place = placeOf tree.home scratch ++ [tc.name ++ textExt]
    · subst same
      rw [find?_put_self (by simp), missing]
      simp [eq_comm]
    · rw [find?_put_of_ne same]
      simp [same]
  · refine ⟨ready.wellFormed.put directory plain (by simp [missing]),
      Scratch.straight_of_changed ready.straight (stores.mono fun _ _ _ => Stores.alters),
      ready.tail.planned, fun later member node => ?_⟩
    -- The other outputs have other names, so nothing has come to stand at their places.
    have different : later.name ≠ tc.name :=
      ((List.pairwise_cons.mp planned.distinct).1 later member).symm
    have apart : placeOf tree.home scratch ++ [later.name ++ textExt]
        ≠ placeOf tree.home scratch ++ [tc.name ++ textExt] := by
      simpa using different
    exact (find?_put_of_ne apart).symm ▸ ready.tail.free later member node

-----------------------------------------------------------------------------------------
-- One case
-----------------------------------------------------------------------------------------

/-- An execution leaves the tree as it is, or with the output of the case's only call. -/
theorem tree_execute {h : Harness σ} (keeps : h.executor.KeepsTree) (s : Session σ) (tc : TestCase)
    : (h.execute s tc).1.tree = s.tree
      ∨ ∃ call,
          h.callsFor s tc = [call]
          ∧ s.tree.writeFile tc.actual call.reply.execution.stdout
            = .ok (h.execute s tc).1.tree := by
  unfold execute
  split
  · exact Or.inl rfl
  · rename_i stdin opened
    have called : h.callsFor s tc = [h.exchange s ⟨tc.program, stdin⟩] := by
      rw [callsFor_eq_openInput, opened]
    have same : (h.call s ⟨tc.program, stdin⟩).1.tree = s.tree := keeps _ _ _ _
    dsimp only
    split
    · rename_i polled asked
      obtain ⟨_, rfl⟩ := Prod.mk.inj asked
      exact Or.inl same
    · rename_i polled passed
      obtain ⟨_, rfl⟩ := Session.of_poll_false passed
      unfold keepOutput
      dsimp only
      rw [same]
      split
      · rename_i wrote
        exact Or.inr ⟨_, called, wrote⟩
      · exact Or.inl rfl

/-- Judging a case does not change the tree that its execution has left. -/
theorem tree_runCase (h : Harness σ) (s : Session σ) (tc : TestCase)
    : (h.runCase s tc).1.tree = (h.execute (h.announced s tc) tc).1.tree := by
  rw [runCase_eq]
  cases h.execute (h.announced s tc) tc with
  | mk after outcome =>
      cases outcome with
      | none => rfl
      | some ended =>
          dsimp only
          split
          · rename_i polled asked
            obtain ⟨_, rfl⟩ := Prod.mk.inj asked
            rfl
          · rename_i polled passed
            obtain ⟨_, rfl⟩ := Session.of_poll_false passed
            exact tree_concluded h _ tc _ _

/-- Printing a result does not change the tree. -/
theorem tree_reported (h : Harness σ) (out : Session σ × Option CaseResult)
    : (h.reported out).1.tree = out.1.tree := by
  obtain ⟨after, outcome⟩ := out
  cases outcome <;> rfl

/-- A step leaves the tree as it is, or with the output of its only call, whether or not it records
a result.
-/
theorem tree_step {h : Harness σ} (keeps : h.executor.KeepsTree) (s : Session σ) (tc : TestCase)
    : (h.step s tc).1.tree = s.tree
      ∨ ∃ call,
          h.stepCalls s tc = [call]
          ∧ h.callsFor s tc = [call]
          ∧ s.tree.writeFile tc.actual call.reply.execution.stdout
            = .ok (h.step s tc).1.tree := by
  unfold step stepCalls
  split
  · rename_i polled asked
    obtain ⟨_, rfl⟩ := Prod.mk.inj asked
    exact Or.inl rfl
  · rename_i polled passed
    obtain ⟨_, rfl⟩ := Session.of_poll_false passed
    rw [tree_reported, tree_runCase, passed]
    exact (h.tree_execute keeps _ tc).imp_right fun ⟨call, called, wrote⟩ =>
      ⟨call, called, called, wrote⟩

/-- A step stores the output of its case or nothing, and leaves the tree ready for the others. -/
theorem step_stores {h : Harness σ} {s : Session σ} {tc : TestCase} {rest : List TestCase}
    {scratch : String} (keeps : h.executor.KeepsTree)
    (ready : Ready scratch s.tree (tc :: rest))
    : Changed (Stores scratch (placeOf s.tree.home scratch)) s.tree (h.step s tc).1.tree
      ∧ Ready scratch (h.step s tc).1.tree rest := by
  rcases h.tree_step keeps s tc with same | ⟨call, _, _, wrote⟩
  · rw [same]
    exact ⟨.refl _ s.tree, ready.tail⟩
  · exact (ready.writeFile wrote).2

/-- A run of cases stores outputs and changes nothing else, by induction over the cases. -/
theorem runCases_stores {h : Harness σ} {s : Session σ} {cases : List TestCase}
    {scratch : String} (keeps : h.executor.KeepsTree) (ready : Ready scratch s.tree cases)
    (tally : Tally)
    : Changed (Stores scratch (placeOf s.tree.home scratch)) s.tree
          (h.runCases s tally cases).1.tree
      ∧ (h.runCases s tally cases).1.tree.WellFormed := by
  induction cases generalizing s tally with
  | nil => exact ⟨.refl _ s.tree, ready.wellFormed⟩
  | cons tc rest ih =>
      obtain ⟨stores, left⟩ := step_stores (h := h) keeps ready
      rw [runCases_cons]
      generalize h.step s tc = out at stores left
      obtain ⟨after, outcome⟩ := out
      cases outcome with
      | none => exact ⟨stores, left.wellFormed⟩
      | some result =>
          obtain ⟨later, wf⟩ := ih left (tally.record result)
          rw [stores.home] at later
          exact ⟨stores.trans (fun _ _ _ _ first second => first.trans second) later, wf⟩

/-- A reset that does not fail leaves a tree that is ready for the cases found in it. -/
theorem ready_of_reset {before tree : FileTree} {layout : Layout} {selects : String → Bool}
    {cases : List TestCase} (wf : before.WellFormed) (straight : Straight before layout.scratch)
    (reset : Scratch.reset before layout.scratch = (tree, none))
    (found : Discovery.discover tree layout selects = .ok cases)
    : Ready layout.scratch tree cases ∧ tree.home = before.home := by
  obtain ⟨_, made, paved, _, cleared, _⟩ := Scratch.reset_cleared wf straight reset
  have home : tree.home = before.home := cleared.changed.home.trans paved.changed.home
  refine ⟨⟨cleared.wellFormed, ?_, Discovery.discover_planned cleared.wellFormed found, ?_⟩, home⟩
  · refine Scratch.straight_of_changed (paved.straight straight) ?_
    rw [paved.changed.home]
    exact cleared.alters
  · intro tc _ node stands
    rw [home] at stands
    exact cleared.clean _ ⟨_, Discovery.append_textExt_ne_placeholder tc.name, rfl⟩ node stands

end Harness

end GoldenSuite

import GoldenSuite.Proofs.FileTree.Unlinked
import GoldenSuite.Proofs.Run.Keeping

/-! What a run meets in a tree without links. Whatever the path of the scratch directory looks like,
nothing stands in the way of the outputs after its reset; and the programs and inputs of the cases
stand where their paths lead.
-/

namespace GoldenSuite

open FileTree

-----------------------------------------------------------------------------------------
-- Resets
-----------------------------------------------------------------------------------------

namespace Scratch

/-- Clearing goes by the cleaned path of the directory, by induction over the entries. -/
theorem clear_clean {scratch : String} (nonempty : scratch ≠ "") {entries : List Entry}
    (plain : ∀ entry ∈ entries, Path.IsPlain entry.name) (tree : FileTree)
    : clear (Path.clean scratch) tree entries = clear scratch tree entries := by
  induction entries generalizing tree with
  | nil => rfl
  | cons entry rest ih =>
      have later (tree : FileTree) := ih (fun other member => plain other (by simp [member])) tree
      simp only [clear, Path.join_clean nonempty (plain entry (by simp)), later]

/-- After a reset that does not fail nothing is left inside the scratch directory to be removed,
whether or not its path is in its cleaned form.
-/
theorem reset_cleared_unlinked {tree after : FileTree} {scratch : String} (wf : tree.WellFormed)
    (unlinked : tree.Unlinked) (cleared : reset tree scratch = (after, none))
    : scratch ≠ ""
      ∧ after.home = tree.home
      ∧ after.Unlinked
      ∧ ∃ made, Cleared (placeOf tree.home scratch) made after := by
  have wfMade : (tree.mkdirAll scratch).1.WellFormed := wf.ensureDirectories_unlinked unlinked _
  have paved := mkdirAll_changed tree scratch
  unfold reset at cleared
  generalize tree.mkdirAll scratch = out at wfMade paved cleared
  obtain ⟨made, fault⟩ := out
  cases fault with
  | some fault => cases cleared
  | none =>
      dsimp only at wfMade paved cleared
      have unlinkedMade : made.Unlinked := unlinked.changed paved fun _ _ _ => noLink_of_makes
      cases read : made.readDir scratch with
      | error fault =>
          rw [read] at cleared
          cases cleared
      | ok entries =>
          obtain ⟨found, accepted, rfl⟩ := of_readDir_along wfMade (unlinkedMade.along _ _) read
          have nonempty := accepted.nonempty
          have plain : ∀ entry ∈ made.entriesAt (placeOf made.home scratch),
              Path.IsPlain entry.name :=
            fun entry member => (lists_entriesAt wfMade _ entry member).1
          simp only [read, ← clear_clean nonempty plain] at cleared
          have straight := unlinkedMade.straight (Path.clean_clean scratch)
          rw [← placeOf_clean] at found cleared
          have clean := (cleared_of_clear wfMade straight found (by rw [cleared])).1
          rw [cleared, placeOf_clean, paved.home] at clean
          refine ⟨nonempty, clean.changed.home.trans paved.home, ?_, made, clean⟩
          refine unlinkedMade.changed clean.changed ?_
          rintro place old new ⟨_, _, rfl⟩
          simp [NoLink]

end Scratch

/-- A reset that does not fail leaves a tree without links ready for the cases found in it, by the
cleaned path of the scratch directory.
-/
theorem Harness.ready_of_reset_unlinked {before tree : FileTree} {layout : Layout}
    {selects : String → Bool} {cases : List TestCase} (wf : before.WellFormed)
    (unlinked : before.Unlinked) (reset : Scratch.reset before layout.scratch = (tree, none))
    (found : Discovery.discover tree layout selects = .ok cases)
    : Ready (Path.clean layout.scratch) tree cases ∧ tree.Unlinked := by
  obtain ⟨nonempty, home, unlinkedAfter, made, cleared⟩ :=
    Scratch.reset_cleared_unlinked wf unlinked reset
  have planned := Discovery.discover_planned cleared.wellFormed found
  have cleaned : Planned (Path.clean layout.scratch) cases := {
    distinct := planned.distinct
    plain := planned.plain
    actual := fun tc member => by
      rw [planned.actual tc member, Path.join_clean nonempty (planned.plain tc member)]
  }
  refine ⟨⟨cleared.wellFormed, unlinkedAfter.straight (Path.clean_clean _), cleaned, ?_⟩,
    unlinkedAfter⟩
  intro tc _ node stands
  rw [placeOf_clean, home] at stands
  exact cleared.clean _ ⟨_, Discovery.append_textExt_ne_placeholder tc.name, rfl⟩ node stands

-----------------------------------------------------------------------------------------
-- Discovered files
-----------------------------------------------------------------------------------------

/-- A path in its cleaned form that leads to something. -/
structure Standing (tree : FileTree) (path : String) : Prop where
  cleaned : Path.clean path = path
  found : ∃ node, tree.find? (placeOf tree.home path) = some node

namespace Discovery

/-- A listed entry stands inside its directory. -/
theorem Listed.standing {tree : FileTree} {dir name : String} {isDirectory : Bool}
    {entries : List Entry} (listed : Listed tree dir entries) (wf : tree.WellFormed)
    (unlinked : tree.Unlinked) (member : ⟨name, isDirectory⟩ ∈ entries)
    : Standing tree (Path.join dir name) := by
  rcases listed.read with read | ⟨rfl, _⟩
  · obtain ⟨_, _, rfl⟩ := Scratch.of_readDir_along wf (unlinked.along _ _) read
    obtain ⟨node, found, _⟩ := (mem_entriesAt_iff wf.distinct).mp member
    have plain : Path.IsPlain name := wf.plain found name (by simp)
    exact ⟨Path.clean_join dir plain, node, by rw [placeOf_join _ _ plain, found]⟩
  · exact absurd member List.not_mem_nil

/-- What a case reads: its program and its input stand, and its reference has its name. -/
structure Supplied (tree : FileTree) (layout : Layout) (tc : TestCase) : Prop where
  program : Standing tree tc.program
  input : tc.input ≠ "" → Standing tree tc.input
  reference : tc.reference = Path.join layout.references (tc.name ++ textExt)

/-- The cases that are found in a tree without links are supplied. -/
theorem supplied_of_discover {tree : FileTree} {layout : Layout} {selects : String → Bool}
    {cases : List TestCase} (wf : tree.WellFormed) (unlinked : tree.Unlinked)
    (found : discover tree layout selects = .ok cases)
    : ∀ tc ∈ cases, Supplied tree layout tc := by
  obtain ⟨programs, inputs, listedPrograms, listedInputs, rfl⟩ := exists_listings wf found
  intro tc member
  have described : Described layout programs inputs tc :=
    mem_casesIn.mp (List.mem_filter.mp member).1
  have reference := described.paths.2.2
  cases described with
  | @withInput base suffix isInput longest =>
      have program : Standing tree (Path.join layout.programs (base ++ layout.programExt)) :=
        listedPrograms.standing wf unlinked longest.member.2
      have input : Standing tree (Path.join layout.inputs (base ++ suffix ++ textExt)) :=
        listedInputs.standing wf unlinked isInput.2
      exact ⟨program, fun _ => input, reference⟩
  | @withoutInput base isProgram _ =>
      have program : Standing tree (Path.join layout.programs (base ++ layout.programExt)) :=
        listedPrograms.standing wf unlinked isProgram.2
      exact ⟨program, fun some => absurd rfl some, reference⟩

end Discovery

end GoldenSuite

import GoldenSuite.Proofs.FileTree.Changes
import GoldenSuite.Scratch

/-! How a reset of the scratch directory changes a file tree: directories are made first, and then
nodes are taken away. Whatever else stands somewhere after it stood there before.
-/

namespace GoldenSuite.Scratch

open FileTree

/-- Discarding a file takes away one node or nothing. -/
theorem discard_changed {tree after : FileTree} {path : String}
    (discarded : discard tree path = .ok after)
    : Changed Prunes tree after := by
  unfold discard at discarded
  split at discarded
  · rename_i removed
    cases discarded
    exact remove_changed removed
  · split at discarded
    · cases discarded
      exact .refl _ tree
    · cases discarded

/-- Clearing a directory only takes nodes away, by induction over its entries. -/
theorem clear_changed (dir : String) (tree : FileTree) (entries : List Entry)
    : Changed Prunes tree (clear dir tree entries).1 := by
  induction entries generalizing tree with
  | nil => exact .refl _ tree
  | cons entry rest ih =>
      unfold clear
      split
      · split
        · rename_i next discarded
          refine (discard_changed discarded).trans ?_ (ih next)
          exact fun _ _ _ _ _ second => second
        · exact .refl _ tree
      · exact ih tree

/-- A reset makes directories and then takes nodes away, whether or not it succeeds. -/
theorem reset_changed (tree : FileTree) (dir : String)
    : ∃ made, Changed Makes tree made ∧ Changed Prunes made (reset tree dir).1 := by
  refine ⟨(tree.mkdirAll dir).1, mkdirAll_changed tree dir, ?_⟩
  unfold reset
  cases tree.mkdirAll dir with
  | mk made fault =>
      cases fault with
      | some fault => exact .refl _ made
      | none =>
          dsimp only
          cases made.readDir dir with
          | error fault => exact .refl _ made
          | ok entries => exact clear_changed dir made entries

/-- What stands somewhere after a reset, unless it is a directory, stood there before. -/
theorem find?_of_find?_reset {tree : FileTree} {dir : String} {place : Place} {node : Node}
    (found : (reset tree dir).1.find? place = some node) (noDirectory : node ≠ .directory)
    : tree.find? place = some node := by
  obtain ⟨made, makes, prunes⟩ := reset_changed tree dir
  have kept : made.find? place = some node := by
    rcases prunes.node place with same | gone
    · rw [← same, found]
    · rw [gone] at found
      cases found
  rcases makes.node place with same | ⟨_, new⟩
  · rw [← same, kept]
  · rw [kept] at new
    exact absurd (Option.some.inj new) noDirectory

end GoldenSuite.Scratch

import GoldenSuite.Proofs.Fault.Refusal
import GoldenSuite.Proofs.FileTree.Same
import GoldenSuite.Proofs.Scratch.Reset

/-! A reset leads to the same tree whatever stands inside the scratch directory, as long as all of
it can be removed.
-/

namespace GoldenSuite.Scratch

open FileTree

/-- The path of a directory is accepted if a name inside it is. -/
theorem isAccepted_of_join {scratch name : String} (cleaned : Path.clean scratch = scratch)
    (nonempty : scratch ≠ "") (plain : Path.IsPlain name)
    (accepted : IsAccepted (Path.join scratch name))
    : IsAccepted scratch := by
  by_cases told : Path.cleanNames scratch = []
  · -- Nothing is left of the path, so it is the root or the directory where paths start.
    rw [← cleaned, Path.clean, told]
    cases Path.isRooted scratch with
    | true => exact ⟨by decide, by decide, by decide, by decide⟩
    | false => exact ⟨by decide, by decide, by decide, by decide⟩
  · have written : Path.join scratch name = scratch ++ "/" ++ name :=
      Path.join_of_cleaned nonempty cleaned told plain
    have names := accepted.names
    rw [Path.names_join nonempty plain] at names
    refine ⟨nonempty, fun zero => accepted.allowed (by rw [written]; simp_all), ?_, ?_⟩
    · refine Nat.lt_of_le_of_lt ?_ accepted.short
      rw [written, String.utf8ByteSize_append, String.utf8ByteSize_append, Nat.add_assoc]
      exact Nat.le_add_right _ _
    · intro other member
      refine names other (List.mem_append_left _ ?_)
      rcases Path.names_eq_cleanNames cleaned with same | rfl
      · rw [← same]
        exact member
      · exact absurd (by decide) told

/-- What stands somewhere after clearing, if it was not inside the directory. -/
theorem Cleared.find?_outside {dir place : Place} {before after : FileTree}
    (cleared : Cleared dir before after) (outside : ¬Inside dir place)
    : after.find? place = before.find? place :=
  (cleared.changed.node place).resolve_right fun sweeps => outside sweeps.1

/-- Inside the directory only directories are left by clearing. -/
theorem Cleared.find?_inside {dir place : Place} {before after : FileTree}
    (cleared : Cleared dir before after) (inside : Inside dir place)
    : after.find? place
      = if before.find? place = some .directory then some .directory else none := by
  have directory := find?_directory_iff cleared.alters place
  split
  · rename_i found
    exact directory.mpr found
  · rename_i other
    cases stands : after.find? place with
    | none => rfl
    | some node =>
        obtain rfl := cleared.clean place inside node stands
        exact absurd (directory.mp stands) other

/-- Clearing leads to the same tree whatever stands inside the directory. -/
theorem Cleared.same {dir : Place} {left right clearedLeft clearedRight : FileTree}
    (changed : Changed (Alters dir) left right) (hl : Cleared dir left clearedLeft)
    (hr : Cleared dir right clearedRight)
    : Same clearedLeft clearedRight := by
  refine ⟨?_, fun place => ?_⟩
  · rw [hl.changed.home, hr.changed.home, changed.home]
  · by_cases inside : Inside dir place
    · rw [hl.find?_inside inside, hr.find?_inside inside]
      simp only [find?_directory_iff changed place]
    · rw [hl.find?_outside inside, hr.find?_outside inside]
      exact ((changed.node place).resolve_right fun alters => inside alters.1).symm

/-- What can be removed can be removed, too, once directories have been made on the way. -/
theorem Removable.paved {scratch : String} {before after : FileTree}
    (removable : Removable before scratch) (paved : Paved scratch before after)
    : Removable after scratch := by
  intro name node other stands noDirectory
  rw [paved.changed.home] at stands
  refine removable name node other ?_ noDirectory
  rcases paved.changed.node (placeOf before.home scratch ++ [name]) with same | ⟨_, _, new⟩
  · rw [← same, stands]
  · rw [stands] at new
    exact absurd (Option.some.inj new) noDirectory

/-- Resets of trees with the same nodes end the same. -/
theorem reset_same {left right : FileTree} {scratch : String} (same : Same left right)
    (hl : left.WellFormed) (hr : right.WellFormed) (straightLeft : Straight left scratch)
    (straightRight : Straight right scratch) (removableLeft : Removable left scratch)
    (removableRight : Removable right scratch)
    : Same (reset left scratch).1 (reset right scratch).1
      ∧ (reset left scratch).2 = (reset right scratch).2 := by
  obtain ⟨pavedLeft, _⟩ := hl.mkdirAll_paved straightLeft
  obtain ⟨pavedRight, _⟩ := hr.mkdirAll_paved straightRight
  obtain ⟨sameMade, sameFault⟩ := same.mkdirAll scratch
  unfold reset
  generalize left.mkdirAll scratch = first at pavedLeft sameMade sameFault ⊢
  generalize right.mkdirAll scratch = second at pavedRight sameMade sameFault ⊢
  obtain ⟨madeLeft, fault⟩ := first
  obtain ⟨madeRight, other⟩ := second
  obtain rfl : fault = other := sameFault
  dsimp only at pavedLeft pavedRight sameMade
  cases fault with
  | some fault => exact ⟨sameMade, rfl⟩
  | none =>
      dsimp only
      rw [sameMade.readDir pavedLeft.wellFormed pavedRight.wellFormed]
      cases read : madeRight.readDir scratch with
      | error fault => exact ⟨sameMade, rfl⟩
      | ok entries =>
          have readLeft : madeLeft.readDir scratch = .ok entries := by
            rw [sameMade.readDir pavedLeft.wellFormed pavedRight.wellFormed, read]
          have keptLeft := pavedLeft.straight straightLeft
          have keptRight := pavedRight.straight straightRight
          obtain ⟨foundLeft, _, listed⟩ :=
            of_readDir_straight pavedLeft.wellFormed keptLeft readLeft
          obtain ⟨foundRight, _, rfl⟩ := of_readDir_straight pavedRight.wellFormed keptRight read
          have unbrokenLeft := clear_removable pavedLeft.wellFormed keptLeft foundLeft
            (removableLeft.paved pavedLeft)
          have unbrokenRight := clear_removable pavedRight.wellFormed keptRight foundRight
            (removableRight.paved pavedRight)
          have clearedLeft :=
            (cleared_of_clear pavedLeft.wellFormed keptLeft foundLeft unbrokenLeft).1
          have clearedRight :=
            (cleared_of_clear pavedRight.wellFormed keptRight foundRight unbrokenRight).1
          rw [← listed] at clearedLeft unbrokenLeft
          rw [sameMade.home] at clearedLeft
          refine ⟨Cleared.same ?_ clearedLeft clearedRight, unbrokenLeft.trans unbrokenRight.symm⟩
          exact ⟨sameMade.home.symm, fun place => Or.inl (sameMade.node place).symm⟩

/-- Resets end the same whatever stands inside the scratch directory, if all of it can be removed.
Witness: if the trees differ at all then the directory is there, and its path is accepted because
the path of an entry inside it is; so both resets succeed and clear it.
-/
theorem reset_alters {left right : FileTree} {scratch : String} (hl : left.WellFormed)
    (hr : right.WellFormed) (straight : Straight left scratch)
    (changed : Changed (Alters (placeOf left.home scratch)) left right)
    (removableLeft : Removable left scratch) (removableRight : Removable right scratch)
    : Same (reset left scratch).1 (reset right scratch).1
      ∧ (reset left scratch).2 = (reset right scratch).2 := by
  have straightRight := straight_of_changed straight changed
  by_cases same : ∀ place, left.find? place = right.find? place
  · exact reset_same ⟨changed.home.symm, same⟩ hl hr straight straightRight removableLeft
      removableRight
  · obtain ⟨place, different⟩ := not_forall.mp same
    obtain ⟨⟨name, other, rfl⟩, oldNode, newNode⟩ :=
      (changed.node place).resolve_left fun equal => different equal.symm
    have directories := find?_directory_iff changed (placeOf left.home scratch)
    -- Something stands inside the directory in one of the trees.
    have present : left.find? (placeOf left.home scratch) = some .directory
        ∧ Path.IsPlain name
        ∧ IsAccepted (Path.join scratch name) := by
      cases stands : left.find? (placeOf left.home scratch ++ [name]) with
      | some node =>
          exact ⟨hl.above stands (by simp), hl.plain stands name (by simp),
            removableLeft name node other stands fun same => oldNode (same ▸ stands)⟩
      | none =>
          cases standsRight : right.find? (placeOf left.home scratch ++ [name]) with
          | none => exact absurd (stands.trans standsRight.symm) different
          | some node =>
              refine ⟨directories.mp (hr.above standsRight (by simp)),
                hr.plain standsRight name (by simp), ?_⟩
              have inRight := standsRight
              rw [← changed.home] at inRight
              exact removableRight name node other inRight fun same =>
                newNode (same ▸ standsRight)
    obtain ⟨found, plain, acceptedName⟩ := present
    have accepted := isAccepted_of_join straight.cleaned straight.nonempty plain acceptedName
    have foundRight : right.find? (placeOf right.home scratch) = some .directory := by
      rw [changed.home]
      exact directories.mpr found
    obtain ⟨after, resetLeft, clearedLeft⟩ :=
      reset_accepted hl straight accepted found removableLeft
    obtain ⟨afterRight, resetRight, clearedRight⟩ :=
      reset_accepted hr straightRight accepted foundRight removableRight
    rw [changed.home] at clearedRight
    rw [resetLeft, resetRight]
    exact ⟨Cleared.same changed clearedLeft clearedRight, rfl⟩

/-- A reset that does not fail has had nothing to remove but what can be removed. -/
theorem removable_of_reset {tree after : FileTree} {scratch : String} (wf : tree.WellFormed)
    (straight : Straight tree scratch) (cleared : reset tree scratch = (after, none))
    : Removable tree scratch := by
  obtain ⟨_, made, paved, _, _, removable⟩ := reset_cleared wf straight cleared
  intro name node other stands noDirectory
  refine removable name node other ?_ noDirectory
  rw [paved.changed.home]
  rcases paved.changed.node (placeOf tree.home scratch ++ [name]) with same | ⟨_, missing, _⟩
  · rw [same]
    exact stands
  · rw [stands] at missing
    cases missing

end GoldenSuite.Scratch

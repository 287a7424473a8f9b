import GoldenSuite.Proofs.FileTree.Straight
import GoldenSuite.Scratch

/-! What a reset does if the scratch directory has a straight path. It makes directories on the way,
and takes away what stands directly inside the directory, apart from directories and the
placeholder; and after a reset that does not fail, nothing of this is left.
-/

namespace GoldenSuite.Scratch

open FileTree

-----------------------------------------------------------------------------------------
-- What stands inside the directory
-----------------------------------------------------------------------------------------

/-- A place directly inside a directory, other than that of the placeholder. -/
def Inside (dir place : Place) : Prop :=
  ∃ name, name ≠ placeholder ∧ place = dir ++ [name]

/-- What stands inside the directory is changed, but no directory comes or goes. -/
def Alters (dir place : Place) (old new : Option Node) : Prop :=
  Inside dir place ∧ old ≠ some .directory ∧ new ≠ some .directory

/-- What stands inside the directory is taken away, unless it is a directory. -/
def Sweeps (dir place : Place) (old new : Option Node) : Prop :=
  Inside dir place ∧ old ≠ some .directory ∧ new = none

/-- Taking away is a change that no directory comes or goes by. -/
theorem Sweeps.alters {dir place : Place} {old new : Option Node}
    (sweeps : Sweeps dir place old new)
    : Alters dir place old new := by
  obtain ⟨inside, noDirectory, rfl⟩ := sweeps
  exact ⟨inside, noDirectory, by simp⟩

/-- Directories stay where they are while what stands inside the directory changes, and none are
added.
-/
theorem find?_directory_iff {dir : Place} {before after : FileTree}
    (changed : Changed (Alters dir) before after) (place : Place)
    : after.find? place = some .directory ↔ before.find? place = some .directory := by
  rcases changed.node place with same | ⟨_, old, new⟩
  · rw [same]
  · exact iff_of_false new old

/-- What is below the directory is not on the way to it. -/
theorem not_above_of_below {dir : Place} {name : String} {below : List String}
    : ¬dir ++ name :: below <+: dir := by
  intro above
  have shorter := above.length_le
  rw [List.length_append, List.length_cons] at shorter
  omega

/-- The directory itself is not inside it. -/
theorem not_inside_of_above {dir place : Place} (above : place <+: dir) : ¬Inside dir place := by
  rintro ⟨name, _, rfl⟩
  exact not_above_of_below above

/-- The places on the way to the directory keep what stands there. -/
theorem find?_of_above {dir place : Place} {before after : FileTree}
    (changed : Changed (Alters dir) before after) (above : place <+: dir)
    : after.find? place = before.find? place := by
  rcases changed.node place with same | ⟨inside, _⟩
  · exact same
  · exact absurd inside (not_inside_of_above above)

/-- A path to the directory stays straight whatever stands inside it. -/
theorem straight_of_changed {before after : FileTree} {scratch : String}
    (straight : Straight before scratch)
    (changed : Changed (Alters (placeOf before.home scratch)) before after)
    : Straight after scratch := by
  refine ⟨straight.cleaned, fun place above => ?_⟩
  rw [changed.home] at above
  rw [find?_of_above changed above]
  exact straight.unlinked place above

-----------------------------------------------------------------------------------------
-- Clearing
-----------------------------------------------------------------------------------------

/-- What stood inside a directory has been taken away, or some of it. -/
structure Swept (dir : Place) (before after : FileTree) : Prop where
  wellFormed : after.WellFormed
  changed : Changed (Sweeps dir) before after

/-- Nothing has to be taken away. -/
theorem Swept.refl {tree : FileTree} (wf : tree.WellFormed) (dir : Place) : Swept dir tree tree :=
  ⟨wf, .refl _ tree⟩

/-- Things are taken away one after the other. -/
theorem Swept.trans {dir : Place} {before middle after : FileTree}
    (first : Swept dir before middle) (second : Swept dir middle after)
    : Swept dir before after := by
  refine ⟨second.wellFormed, first.changed.trans ?_ second.changed⟩
  exact fun _ _ _ _ gone again => ⟨gone.1, gone.2.1, again.2.2⟩

/-- Taking away is a change inside the directory. -/
theorem Swept.alters {dir : Place} {before after : FileTree} (swept : Swept dir before after)
    : Changed (Alters dir) before after :=
  swept.changed.mono fun _ _ _ sweeps => sweeps.alters

/-- What is gone stays away. -/
theorem Swept.missing {dir place : Place} {before after : FileTree} (swept : Swept dir before after)
    (missing : before.find? place = none)
    : after.find? place = none := by
  rcases swept.changed.node place with same | ⟨_, _, gone⟩
  · rw [same, missing]
  · exact gone

/-- Discarding a name inside the directory takes away what stands there, and nothing else; after
that nothing stands there. Its path has been accepted.
-/
theorem discard_swept {tree after : FileTree} {scratch name : String} (wf : tree.WellFormed)
    (straight : Straight tree scratch)
    (found : tree.find? (placeOf tree.home scratch) = some .directory)
    (plain : Path.IsPlain name) (other : name ≠ placeholder)
    (noDirectory : tree.find? (placeOf tree.home scratch ++ [name]) ≠ some .directory)
    (discarded : discard tree (Path.join scratch name) = .ok after)
    : Swept (placeOf tree.home scratch) tree after
      ∧ after.find? (placeOf tree.home scratch ++ [name]) = none
      ∧ IsAccepted (Path.join scratch name) := by
  have reached {place : Place} (located : tree.locate false (Path.join scratch name) = .ok place)
      : place = placeOf tree.home scratch ++ [name] ∧ IsAccepted (Path.join scratch name) := by
    obtain ⟨same, _, accepted⟩ := wf.of_locate_join straight plain (by simp) located
    exact ⟨same, accepted⟩
  have present : tree.locate false (Path.join scratch name) ≠ .error .noEntry :=
    (wf.locate_join straight.cleaned straight.nonempty found plain (by simp)).2
  have erased : Swept (placeOf tree.home scratch) tree
      (tree.erase (placeOf tree.home scratch ++ [name])) :=
    ⟨wf.erase noDirectory, .erase ⟨⟨name, other, rfl⟩, noDirectory, rfl⟩⟩
  unfold discard remove at discarded
  cases looked : tree.look false (Path.join scratch name) with
  | ok out =>
      obtain ⟨place, node⟩ := out
      obtain ⟨located, stands⟩ := look_eq_ok_iff.mp looked
      obtain ⟨rfl, accepted⟩ := reached located
      have gone : after = tree.erase (placeOf tree.home scratch ++ [name]) := by
        cases node with
        | directory => exact absurd stands noDirectory
        | _ =>
            rw [looked] at discarded
            exact (Except.ok.inj discarded).symm
      rw [gone]
      exact ⟨erased, find?_erase_self (by simp), accepted⟩
  | error cause =>
      rw [looked] at discarded
      -- Only something that is missing may be discarded without being removed.
      have missing : cause = .noEntry ∧ after = tree := by
        dsimp only at discarded
        split at discarded
        · rename_i notExist
          exact ⟨by simpa [Fault.has] using notExist, (Except.ok.inj discarded).symm⟩
        · cases discarded
      obtain ⟨rfl, rfl⟩ := missing
      refine ⟨.refl wf _, ?_⟩
      unfold look at looked
      split at looked
      · rename_i refused
        cases looked
        exact absurd refused present
      · rename_i located
        obtain ⟨rfl, accepted⟩ := reached located
        split at looked
        · cases looked
        · rename_i missing
          exact ⟨missing, accepted⟩

/-- The entries of a listing as they are found inside the directory: their names are plain, and
what is not listed as a directory is none.
-/
def Lists (tree : FileTree) (dir : Place) (entries : List Entry) : Prop :=
  ∀ entry ∈ entries,
    Path.IsPlain entry.name
    ∧ (entry.isDirectory = false → tree.find? (dir ++ [entry.name]) ≠ some .directory)

/-- A listing stays right while things are taken away. -/
theorem Swept.lists {dir : Place} {before after : FileTree} {entries : List Entry}
    (swept : Swept dir before after) (lists : Lists before dir entries)
    : Lists after dir entries := by
  intro entry member
  refine ⟨(lists entry member).1, fun noDirectory found => ?_⟩
  exact (lists entry member).2 noDirectory ((find?_directory_iff swept.alters _).mp found)

/-- An entry that a reset removes is no directory, and not the placeholder. -/
theorem isLeftover_iff {entry : Entry}
    : isLeftover entry = true ↔ entry.isDirectory = false ∧ entry.name ≠ placeholder := by
  simp [isLeftover]

/-- Clearing a directory takes away what stands inside it, by induction over its entries. If
nothing fails, no entry that is to be removed is left, and their paths have been accepted.
-/
theorem clear_swept {tree : FileTree} {scratch : String} {entries : List Entry}
    (wf : tree.WellFormed) (straight : Straight tree scratch)
    (found : tree.find? (placeOf tree.home scratch) = some .directory)
    (lists : Lists tree (placeOf tree.home scratch) entries)
    : Swept (placeOf tree.home scratch) tree (clear scratch tree entries).1
      ∧ ((clear scratch tree entries).2 = none
        → ∀ entry ∈ entries,
            isLeftover entry = true
            → (clear scratch tree entries).1.find? (placeOf tree.home scratch ++ [entry.name])
                = none
              ∧ IsAccepted (Path.join scratch entry.name)) := by
  induction entries generalizing tree with
  | nil => exact ⟨.refl wf _, by simp⟩
  | cons entry rest ih =>
      have others : Lists tree (placeOf tree.home scratch) rest := fun other member =>
        lists other (by simp [member])
      unfold clear
      split
      · rename_i leftover
        obtain ⟨noDirectory, other⟩ := isLeftover_iff.mp leftover
        obtain ⟨plain, listed⟩ := lists entry (by simp)
        split
        · rename_i next discarded
          obtain ⟨swept, gone, accepted⟩ :=
            discard_swept wf straight found plain other (listed noDirectory) discarded
          have home : next.home = tree.home := swept.changed.home
          have later := ih swept.wellFormed (straight_of_changed straight swept.alters)
            (by rw [home]; exact (find?_directory_iff swept.alters _).mpr found)
            (by rw [home]; exact swept.lists others)
          rw [home] at later
          refine ⟨swept.trans later.1, fun unbroken other member => ?_⟩
          rcases List.mem_cons.mp member with rfl | inner
          · exact fun _ => ⟨later.1.missing gone, accepted⟩
          · exact later.2 unbroken other inner
        · exact ⟨.refl wf _, fun broken => by cases broken⟩
      · rename_i kept
        obtain ⟨swept, gone⟩ := ih wf straight found others
        refine ⟨swept, fun unbroken other member => ?_⟩
        rcases List.mem_cons.mp member with rfl | inner
        · exact fun leftover => absurd leftover kept
        · exact gone unbroken other inner

/-- Discarding a name inside the directory does not fail if its path is accepted. -/
theorem discard_accepted {tree : FileTree} {scratch name : String} (wf : tree.WellFormed)
    (straight : Straight tree scratch)
    (found : tree.find? (placeOf tree.home scratch) = some .directory)
    (plain : Path.IsPlain name)
    (noDirectory : tree.find? (placeOf tree.home scratch ++ [name]) ≠ some .directory)
    (accepted : IsAccepted (Path.join scratch name))
    : ∃ after, discard tree (Path.join scratch name) = .ok after := by
  have located
      : tree.locate false (Path.join scratch name) = .ok (placeOf tree.home scratch ++ [name]) :=
    (wf.locate_join straight.cleaned straight.nonempty found plain (by simp)).1 accepted
  unfold discard remove look
  rw [located]
  dsimp only
  cases stands : tree.find? (placeOf tree.home scratch ++ [name]) with
  | none => exact ⟨tree, rfl⟩
  | some node =>
      cases node with
      | directory => exact absurd stands noDirectory
      | _ => exact ⟨_, rfl⟩

/-- Clearing a directory does not fail if the paths of the entries that are to be removed are
accepted, by induction over the entries.
-/
theorem clear_accepted {tree : FileTree} {scratch : String} {entries : List Entry}
    (wf : tree.WellFormed) (straight : Straight tree scratch)
    (found : tree.find? (placeOf tree.home scratch) = some .directory)
    (lists : Lists tree (placeOf tree.home scratch) entries)
    (accepted : ∀ entry ∈ entries,
      isLeftover entry = true → IsAccepted (Path.join scratch entry.name))
    : (clear scratch tree entries).2 = none := by
  induction entries generalizing tree with
  | nil => rfl
  | cons entry rest ih =>
      have others : Lists tree (placeOf tree.home scratch) rest := fun other member =>
        lists other (by simp [member])
      have later : ∀ other ∈ rest,
          isLeftover other = true → IsAccepted (Path.join scratch other.name) :=
        fun other member => accepted other (by simp [member])
      unfold clear
      split
      · rename_i leftover
        obtain ⟨noDirectory, other⟩ := isLeftover_iff.mp leftover
        obtain ⟨plain, listed⟩ := lists entry (by simp)
        obtain ⟨next, discarded⟩ := discard_accepted wf straight found plain (listed noDirectory)
          (accepted entry (by simp) leftover)
        obtain ⟨swept, _, _⟩ :=
          discard_swept wf straight found plain other (listed noDirectory) discarded
        have home : next.home = tree.home := swept.changed.home
        rw [discarded]
        exact ih swept.wellFormed (straight_of_changed straight swept.alters)
          (by rw [home]; exact (find?_directory_iff swept.alters _).mpr found)
          (by rw [home]; exact swept.lists others) later
      · exact ih wf straight found others later

-----------------------------------------------------------------------------------------
-- Resets
-----------------------------------------------------------------------------------------

/-- Nothing stands inside the directory but directories and the placeholder, and everything else is
as before.
-/
structure Cleared (dir : Place) (before after : FileTree) : Prop
    extends Swept dir before after where
  clean : ∀ place, Inside dir place → ∀ node, after.find? place = some node → node = .directory

/-- The paths of all that a reset is to remove are accepted. -/
def Removable (tree : FileTree) (scratch : String) : Prop :=
  ∀ name node,
    name ≠ placeholder
    → tree.find? (placeOf tree.home scratch ++ [name]) = some node
    → node ≠ .directory
    → IsAccepted (Path.join scratch name)

/-- The listing of a directory is right. -/
theorem lists_entriesAt {tree : FileTree} (wf : tree.WellFormed) (dir : Place)
    : Lists tree dir (tree.entriesAt dir) := by
  intro entry member
  obtain ⟨node, found, told⟩ := (mem_entriesAt_iff wf.distinct).mp member
  refine ⟨wf.plain found entry.name (by simp), fun listed directory => ?_⟩
  rw [told, decide_eq_false_iff_not] at listed
  exact listed (Option.some.inj (found.symm.trans directory))

/-- An entry inside a directory that is to be removed is listed. -/
theorem mem_entriesAt_of_leftover {tree : FileTree} (wf : tree.WellFormed) {dir : Place}
    {name : String} {node : Node} (stands : tree.find? (dir ++ [name]) = some node)
    (noDirectory : node ≠ .directory)
    : (⟨name, false⟩ : Entry) ∈ tree.entriesAt dir :=
  (mem_entriesAt_iff wf.distinct).mpr ⟨node, stands, by simp [noDirectory]⟩

/-- Clearing all that a directory lists leaves nothing inside it to be removed, and all of it could
be removed.
-/
theorem cleared_of_clear {tree : FileTree} {scratch : String} (wf : tree.WellFormed)
    (straight : Straight tree scratch)
    (found : tree.find? (placeOf tree.home scratch) = some .directory)
    (unbroken : (clear scratch tree (tree.entriesAt (placeOf tree.home scratch))).2 = none)
    : Cleared (placeOf tree.home scratch) tree
          (clear scratch tree (tree.entriesAt (placeOf tree.home scratch))).1
      ∧ Removable tree scratch := by
  obtain ⟨swept, gone⟩ := clear_swept wf straight found (lists_entriesAt wf _)
  refine ⟨⟨swept, ?_⟩, fun name node other stands noDirectory =>
    (gone unbroken _ (mem_entriesAt_of_leftover wf stands noDirectory)
      (isLeftover_iff.mpr ⟨rfl, other⟩)).2⟩
  rintro place ⟨name, other, rfl⟩ node stands
  by_contra noDirectory
  have before : tree.find? (placeOf tree.home scratch ++ [name]) = some node := by
    rcases swept.changed.node (placeOf tree.home scratch ++ [name]) with same | ⟨_, _, missing⟩
    · rw [← same, stands]
    · rw [stands] at missing
      cases missing
  rw [(gone unbroken _ (mem_entriesAt_of_leftover wf before noDirectory)
    (isLeftover_iff.mpr ⟨rfl, other⟩)).1] at stands
  cases stands

/-- A path along which no link stands, and that can be read as a directory, leads to one. Its
listing is what stands inside.
-/
theorem of_readDir_along {tree : FileTree} {dir : String} {entries : List Entry}
    (wf : tree.WellFormed)
    (unlinked : tree.Along NoLink (startOf tree.home dir) (Path.names dir))
    (read : tree.readDir dir = .ok entries)
    : tree.find? (placeOf tree.home dir) = some .directory
      ∧ IsAccepted dir
      ∧ entries = tree.entriesAt (placeOf tree.home dir) := by
  unfold readDir at read
  split at read
  · cases read
  · rename_i place looked
    obtain ⟨located, found⟩ := look_eq_ok_iff.mp looked
    obtain ⟨rfl, accepted⟩ := wf.of_locate_unlinked unlinked located
    exact ⟨found, accepted, (Except.ok.inj read).symm⟩
  · cases read

/-- A straight path that can be read as a directory leads to one. -/
theorem of_readDir_straight {tree : FileTree} {scratch : String} {entries : List Entry}
    (wf : tree.WellFormed) (straight : Straight tree scratch)
    (read : tree.readDir scratch = .ok entries)
    : tree.find? (placeOf tree.home scratch) = some .directory
      ∧ IsAccepted scratch
      ∧ entries = tree.entriesAt (placeOf tree.home scratch) := by
  refine of_readDir_along wf ?_ read
  exact wf.along_setsOut straight.cleaned ⟨List.prefix_rfl, rfl⟩ noLink_directory
    (straight.along wf)

/-- A reset makes directories on the way to the scratch directory and takes away what stands inside
it, whether or not it fails.
-/
theorem reset_swept {tree : FileTree} {scratch : String} (wf : tree.WellFormed)
    (straight : Straight tree scratch)
    : ∃ made,
        Paved scratch tree made
        ∧ Swept (placeOf tree.home scratch) made (reset tree scratch).1 := by
  obtain ⟨paved, _⟩ := wf.mkdirAll_paved straight
  refine ⟨_, paved, ?_⟩
  unfold reset
  generalize tree.mkdirAll scratch = out at paved
  obtain ⟨made, fault⟩ := out
  cases fault with
  | some fault => exact .refl paved.wellFormed _
  | none =>
      have kept := paved.straight straight
      dsimp only
      cases read : made.readDir scratch with
      | error fault => exact .refl paved.wellFormed _
      | ok entries =>
          obtain ⟨found, _, rfl⟩ := of_readDir_straight paved.wellFormed kept read
          rw [← paved.changed.home]
          exact (clear_swept paved.wellFormed kept found (lists_entriesAt paved.wellFormed _)).1

/-- After a reset that does not fail the scratch directory is there, its path is accepted, and
nothing inside it is left to be removed; all that was inside could be removed.
-/
theorem reset_cleared {tree after : FileTree} {scratch : String} (wf : tree.WellFormed)
    (straight : Straight tree scratch) (cleared : reset tree scratch = (after, none))
    : IsAccepted scratch
      ∧ ∃ made,
          Paved scratch tree made
          ∧ made.find? (placeOf tree.home scratch) = some .directory
          ∧ Cleared (placeOf tree.home scratch) made after
          ∧ Removable made scratch := by
  obtain ⟨paved, _⟩ := wf.mkdirAll_paved straight
  unfold reset at cleared
  generalize tree.mkdirAll scratch = out at paved cleared
  obtain ⟨made, fault⟩ := out
  cases fault with
  | some fault => cases cleared
  | none =>
      have kept := paved.straight straight
      dsimp only at cleared paved
      cases read : made.readDir scratch with
      | error fault =>
          rw [read] at cleared
          cases cleared
      | ok entries =>
          obtain ⟨found, accepted, rfl⟩ := of_readDir_straight paved.wellFormed kept read
          simp only [read] at cleared
          obtain ⟨clean, removable⟩ :=
            cleared_of_clear paved.wellFormed kept found (by rw [cleared])
          rw [cleared, paved.changed.home] at clean
          rw [paved.changed.home] at found
          exact ⟨accepted, made, paved, found, clean, removable⟩

/-- Of what stands directly inside the scratch directory, only directories and the placeholder are
left by a reset that does not fail, and the placeholder is as it was before.
-/
theorem find?_reset_iff {tree after : FileTree} {scratch : String} (wf : tree.WellFormed)
    (straight : Straight tree scratch) (cleared : reset tree scratch = (after, none))
    (name : String) {node : Node} (noDirectory : node ≠ .directory)
    : after.find? (placeOf tree.home scratch ++ [name]) = some node
      ↔ name = placeholder ∧ tree.find? (placeOf tree.home scratch ++ [name]) = some node := by
  obtain ⟨_, made, paved, _, clean, _⟩ := reset_cleared wf straight cleared
  by_cases same : name = placeholder
  · subst same
    have notInside : ¬Inside (placeOf tree.home scratch)
        (placeOf tree.home scratch ++ [placeholder]) := by
      rintro ⟨other, different, same⟩
      exact different (by simpa using same.symm)
    have swept := (clean.changed.node _).resolve_right fun sweeps => notInside sweeps.1
    have kept := (paved.changed.node (placeOf tree.home scratch ++ [placeholder])).resolve_right
      fun makes => not_above_of_below makes.1
    rw [swept, kept]
    simp
  · refine iff_of_false (fun stands => ?_) fun told => same told.1
    exact noDirectory (clean.clean _ ⟨name, same, rfl⟩ node stands)

/-- Clearing all that a directory lists does not fail if it can be removed. -/
theorem clear_removable {tree : FileTree} {scratch : String} (wf : tree.WellFormed)
    (straight : Straight tree scratch)
    (found : tree.find? (placeOf tree.home scratch) = some .directory)
    (removable : Removable tree scratch)
    : (clear scratch tree (tree.entriesAt (placeOf tree.home scratch))).2 = none := by
  refine clear_accepted wf straight found (lists_entriesAt wf _) fun entry member leftover => ?_
  obtain ⟨node, stands, told⟩ := (mem_entriesAt_iff wf.distinct).mp member
  obtain ⟨noDirectory, other⟩ := isLeftover_iff.mp leftover
  rw [told, decide_eq_false_iff_not] at noDirectory
  exact removable entry.name node other stands noDirectory

/-- A reset clears what the directory lists, if it is there and its path is accepted. -/
theorem reset_eq_clear {tree : FileTree} {scratch : String} (wf : tree.WellFormed)
    (straight : Straight tree scratch) (accepted : IsAccepted scratch)
    (found : tree.find? (placeOf tree.home scratch) = some .directory)
    : reset tree scratch
      = clear scratch tree (tree.entriesAt (placeOf tree.home scratch)) := by
  have along : tree.Along (· = some .directory) (startOf tree.home scratch) (Path.names scratch) :=
    wf.along_setsOut straight.cleaned ⟨List.prefix_rfl, rfl⟩ rfl
      (wf.along_directories straight.cleaned found)
  have read : tree.readDir scratch = .ok (tree.entriesAt (placeOf tree.home scratch)) := by
    simp only [readDir, wf.look_directories accepted along true]
  rw [reset, wf.mkdirAll_present straight.cleaned accepted found]
  simp only [read]

/-- A reset does not fail if the directory is there, its path is accepted, and all that is to be
removed can be removed.
-/
theorem reset_accepted {tree : FileTree} {scratch : String} (wf : tree.WellFormed)
    (straight : Straight tree scratch) (accepted : IsAccepted scratch)
    (found : tree.find? (placeOf tree.home scratch) = some .directory)
    (removable : Removable tree scratch)
    : ∃ after,
        reset tree scratch = (after, none) ∧ Cleared (placeOf tree.home scratch) tree after := by
  have unbroken := clear_removable wf straight found removable
  refine ⟨_, ?_, (cleared_of_clear wf straight found unbroken).1⟩
  rw [reset_eq_clear wf straight accepted found, ← unbroken]

end GoldenSuite.Scratch

import GoldenSuite.Proofs.FileTree.Changes

/-! Where paths lead after files have been written, and what is read there. A written file stands
only at the end of a walk, so a path leads somewhere afterwards exactly if it led to the same place
before; and what has been written can be read back, unless a device has taken it.
-/

namespace GoldenSuite.FileTree

-----------------------------------------------------------------------------------------
-- Walking
-----------------------------------------------------------------------------------------

/-- Directories, links and devices stay where they are while files are written, and none are
added.
-/
theorem Changed.find?_eq_some_iff {places : Place → Prop} {before after : FileTree}
    (changed : Changed (Writes places) before after) (place : Place) {node : Node}
    (noFile : ∀ data mode, node ≠ .file data mode)
    : after.find? place = some node ↔ before.find? place = some node := by
  rcases changed.node place with same | ⟨_, ⟨data, mode, written⟩, former⟩
  · rw [same]
  · refine ⟨fun found => ?_, fun found => ?_⟩
    · rw [written] at found
      exact absurd (Option.some.inj found).symm (noFile data mode)
    · rcases former with none | ⟨data, mode, file⟩
      · rw [none] at found
        cases found
      · rw [file] at found
        exact absurd (Option.some.inj found).symm (noFile data mode)

/-- A walk ends at its last name unless a directory stands there, or a link that is followed. -/
theorem walk_last {tree : FileTree} {follow : Bool} {links : Nat} {dir : Place} {name : String}
    {rest : List String} (notDot : name ≠ ".") (notDots : name ≠ "..")
    (short : ¬nameLimit < name.utf8ByteSize) (ended : rest.isEmpty = true)
    (noDirectory : tree.find? (dir ++ [name]) ≠ some .directory)
    (noLink : ∀ target, tree.find? (dir ++ [name]) = some (.link target) → follow = false)
    : tree.walk follow links dir (name :: rest) = .ok (dir ++ [name]) := by
  rw [walk, if_neg notDot, if_neg notDots, if_neg short]
  cases found : tree.find? (dir ++ [name]) with
  | none => simp only [found, ended, if_true]
  | some node =>
      cases node with
      | directory => exact absurd found noDirectory
      | link target => simp only [found, ended, noLink target found, Bool.not_false, Bool.and_self,
          if_true]
      | _ => simp only [found, ended, if_true]

/-- Two trees with the same directories and links, and with the same place where relative paths
start.
-/
structure SameWays (first second : FileTree) : Prop where
  home : first.home = second.home
  directory
    : ∀ {place}, first.find? place = some .directory ↔ second.find? place = some .directory
  link
    : ∀ {place} target,
        first.find? place = some (.link target) ↔ second.find? place = some (.link target)

theorem SameWays.symm {first second : FileTree} (ways : SameWays first second)
    : SameWays second first :=
  ⟨ways.home.symm, ways.directory.symm, fun target => (ways.link target).symm⟩

/-- Files that are written are in no one's way. -/
theorem Changed.sameWays {places : Place → Prop} {before after : FileTree}
    (changed : Changed (Writes places) before after)
    : SameWays after before where
  home := changed.home
  directory := changed.find?_eq_some_iff _ (by simp)
  link := fun _ => changed.find?_eq_some_iff _ (by simp)

/-- A walk that gets through a tree gets to the same place in every tree with the same ways, by
induction over the walk.
-/
theorem SameWays.walk_ok {after before : FileTree} (ways : SameWays after before) {follow : Bool}
    {links : Nat} {dir : Place} {steps : List String} {place : Place}
    (walked : after.walk follow links dir steps = .ok place)
    : before.walk follow links dir steps = .ok place := by
  fun_induction after.walk follow links dir steps with
  | case1 links dir =>
      rw [walk]
      exact walked
  | case2 links dir rest ih =>
      rw [walk, if_pos rfl]
      exact ih walked
  | case3 links dir rest notDot ih =>
      rw [walk, if_neg notDot, if_pos rfl]
      exact ih walked
  | case5 links dir name rest notDot notDots short next missing ended =>
      obtain rfl := Except.ok.inj walked
      refine walk_last notDot notDots short ended ?_ fun target found => ?_
      · rw [Ne, ← ways.directory, missing]
        simp
      · rw [← ways.link, missing] at found
        cases found
  | case7 links dir name rest notDot notDots short next found ih =>
      have kept : before.find? (dir ++ [name]) = some .directory := ways.directory.mp found
      rw [walk, if_neg notDot, if_neg notDots, if_neg short]
      simp only [kept]
      exact ih walked
  | case8 links dir name rest notDot notDots short next target found ended =>
      obtain rfl := Except.ok.inj walked
      simp only [Bool.and_eq_true, Bool.not_eq_true'] at ended
      refine walk_last notDot notDots short ended.1 ?_ fun _ _ => ended.2
      rw [(ways.link target).mp found]
      simp
  | case10 dir name rest notDot notDots short next target found goesOn left ih =>
      have kept : before.find? (dir ++ [name]) = some (.link target) := (ways.link target).mp found
      rw [walk, if_neg notDot, if_neg notDots, if_neg short]
      simp only [kept, goesOn]
      exact ih walked
  | case11 links dir name rest notDot notDots short next node notDirectory notLink found ended =>
      obtain rfl := Except.ok.inj walked
      refine walk_last notDot notDots short ended ?_ fun target linked => ?_
      · rw [Ne, ← ways.directory, found]
        exact fun same => notDirectory (Option.some.inj same)
      · rw [← ways.link, found] at linked
        exact absurd (Option.some.inj linked) (notLink target)
  | case4 | case6 | case9 | case12 => cases walked

/-- A path that leads somewhere leads to the same place in every tree with the same ways. -/
theorem SameWays.locate_ok {after before : FileTree} (ways : SameWays after before)
    {follow : Bool} {path : String} {place : Place}
    (located : after.locate follow path = .ok place)
    : before.locate follow path = .ok place := by
  unfold locate at located ⊢
  rw [ways.home] at located
  split at located
  · cases located
  · rename_i nonempty
    split at located
    · cases located
    · rename_i allowed
      split at located
      · cases located
      · rename_i short
        rw [if_neg nonempty, if_neg allowed, if_neg short]
        exact ways.walk_ok located

/-- A path leads somewhere after files have been written exactly if it led there before. -/
theorem Changed.locate_iff {places : Place → Prop} {before after : FileTree}
    (changed : Changed (Writes places) before after) {follow : Bool} {path : String}
    {place : Place}
    : after.locate follow path = .ok place ↔ before.locate follow path = .ok place :=
  ⟨changed.sameWays.locate_ok, changed.sameWays.symm.locate_ok⟩

/-- A relative path that is not refused as a text is walked from where such paths start. -/
theorem locate_relative {tree : FileTree} {follow : Bool} {path : String} {names : List String}
    (nonempty : path ≠ "") (allowed : ¬path.toList.contains '\x00')
    (short : ¬pathLimit ≤ path.utf8ByteSize) (relative : ¬Path.isRooted path)
    (steps : stepsOf path = names)
    : tree.locate follow path = tree.walk follow linkLimit tree.home names := by
  rw [locate, if_neg nonempty, if_neg allowed, if_neg short, startOf, if_neg relative, steps]

-----------------------------------------------------------------------------------------
-- Reading
-----------------------------------------------------------------------------------------

/-- What is read from a node. Directories are not read. -/
def contents? : Node → Option Bytes
  | .file data _ => some data
  | .directory => none
  | _ => some []

/-- A path is read if it leads to a node that can be read. -/
theorem readFile_eq_ok_iff {tree : FileTree} {path : String} {data : Bytes}
    : tree.readFile path = .ok data
      ↔ ∃ place,
          tree.locate true path = .ok place
          ∧ (tree.find? place).bind contents? = some data := by
  unfold readFile openPath look
  cases tree.locate true path with
  | error cause => simp
  | ok place =>
      cases found : tree.find? place with
      | none => simp [found]
      | some node => cases node <;> simp [found, contents?]

/-- A path does not lead to a device that takes every write and keeps none. -/
def NoDevice (tree : FileTree) (path : String) : Prop :=
  ∀ place, tree.locate true path = .ok place → tree.find? place ≠ some .sink

/-- Writing files makes no path lead to a device. -/
theorem Changed.noDevice {places : Place → Prop} {before after : FileTree}
    (changed : Changed (Writes places) before after) {path : String}
    (noDevice : before.NoDevice path)
    : after.NoDevice path := by
  intro place located device
  have former := (changed.find?_eq_some_iff place (by simp)).mp device
  exact noDevice place (changed.locate_iff.mp located) former

/-- What a path keeps of the bytes that are written to it: nothing if it leads to a device. -/
def kept (tree : FileTree) (path : String) (data : Bytes) : Bytes :=
  match tree.look true path with
  | .ok (_, .sink) => []
  | _ => data

/-- Only a device keeps nothing. -/
theorem NoDevice.kept_eq {tree : FileTree} {path : String} (noDevice : tree.NoDevice path)
    (data : Bytes)
    : tree.kept path data = data := by
  unfold kept look
  cases located : tree.locate true path with
  | error cause => rfl
  | ok place =>
      cases found : tree.find? place with
      | none => simp [found]
      | some node =>
          cases node with
          | sink => exact absurd found (noDevice place located)
          | _ => simp [found]

/-- What has been written can be read back as far as the path keeps it. -/
theorem readFile_writeFile {tree after : FileTree} {path : String} {data : Bytes}
    (wrote : tree.writeFile path data = .ok after)
    : after.readFile path = .ok (after.kept path data) := by
  have changed := writeFile_changed wrote
  unfold writeFile at wrote
  split at wrote
  · cases wrote
  · rename_i place located
    -- The file that is written stands at the end of its own path, never on the way.
    have led := changed.locate_iff.mpr located
    have put {mode : Nat} (inside : tree.find? place ≠ some .directory)
        (same : after = tree.put place (.file data mode))
        : after.readFile path = .ok (after.kept path data) := by
      have named : place ≠ [] := fun root => inside (by rw [root, find?_nil])
      have found : after.find? place = some (.file data mode) := by
        rw [same, find?_put_self named]
      have whole : after.kept path data = data := by simp [kept, look, led, found]
      rw [whole]
      exact readFile_eq_ok_iff.mpr ⟨place, led, by simp [found, contents?]⟩
    split at wrote
    · rename_i missing
      exact put (by simp [missing]) (Except.ok.inj wrote).symm
    · rename_i present
      exact put (by simp [present]) (Except.ok.inj wrote).symm
    · cases wrote
    · rename_i device
      obtain rfl := Except.ok.inj wrote
      have nothing : tree.kept path data = [] := by simp [kept, look, led, device]
      rw [nothing]
      exact readFile_eq_ok_iff.mpr ⟨place, led, by simp [device, contents?]⟩
    · cases wrote

/-- What can be read where a file was written is what was written, unless the path leads to a
device.
-/
theorem eq_of_readFile_writeFile {tree after : FileTree} {path : String} {data got : Bytes}
    (wrote : tree.writeFile path data = .ok after) (noDevice : tree.NoDevice path)
    (read : after.readFile path = .ok got)
    : got = data := by
  have back := readFile_writeFile wrote
  rw [((writeFile_changed wrote).noDevice noDevice).kept_eq] at back
  exact Except.ok.inj (read.symm.trans back)

end GoldenSuite.FileTree

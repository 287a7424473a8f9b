import GoldenSuite.FileTree.Access

/-! How a file tree changes, place by place. A change is described by what may stand at a place
before and after it; making directories, pruning and writing files are three such changes, and
each is carried from one request to a sequence of them.
-/

namespace GoldenSuite.FileTree

-----------------------------------------------------------------------------------------
-- Nodes after one change
-----------------------------------------------------------------------------------------

/-- Dropping the entries of one place does not change what another place has. -/
theorem lookup_filter_ne {nodes : List (Place × Node)} {place other : Place}
    (different : other ≠ place)
    : (nodes.filter (fun entry => entry.1 ≠ place)).lookup other = nodes.lookup other := by
  induction nodes with
  | nil => rfl
  | cons entry rest ih =>
      obtain ⟨key, node⟩ := entry
      by_cases same : key = place
      · have skipped : (other == key) = false := by simpa [same] using different
        simp only [List.filter_cons, same, ne_eq, not_true_eq_false, decide_false,
          Bool.false_eq_true, if_false, List.lookup_cons, ih]
        rw [← same, skipped]
      · simp only [List.filter_cons, same, ne_eq, not_false_eq_true, decide_true, if_true,
          List.lookup_cons, ih]

/-- Dropping the entries of a place leaves it without a node. -/
theorem lookup_filter_self (nodes : List (Place × Node)) (place : Place)
    : (nodes.filter (fun entry => entry.1 ≠ place)).lookup place = none := by
  rw [List.lookup_eq_none_iff]
  intro entry member
  have kept := (List.mem_filter.mp member).2
  simp only [ne_eq, decide_not, Bool.not_eq_true', decide_eq_false_iff_not] at kept
  simpa using fun same => kept same.symm

/-- A node that is put stands at its place. -/
theorem find?_put_self {tree : FileTree} {place : Place} {node : Node} (inside : place ≠ [])
    : (tree.put place node).find? place = some node := by
  have kept : place.isEmpty = false := by simpa using inside
  simp [find?, put, kept]

/-- A node that is put leaves other places alone. -/
theorem find?_put_of_ne {tree : FileTree} {place other : Place} {node : Node}
    (different : other ≠ place)
    : (tree.put place node).find? other = tree.find? other := by
  have skipped : (other == place) = false := by simpa using different
  unfold find? put
  rw [List.lookup_cons, skipped, lookup_filter_ne different]

/-- An erased place has no node. -/
theorem find?_erase_self {tree : FileTree} {place : Place} (inside : place ≠ [])
    : (tree.erase place).find? place = none := by
  have kept : place.isEmpty = false := by simpa using inside
  simp only [find?, erase, kept, Bool.false_eq_true, if_false]
  exact lookup_filter_self tree.nodes place

/-- Erasing a place leaves others alone. -/
theorem find?_erase_of_ne {tree : FileTree} {place other : Place} (different : other ≠ place)
    : (tree.erase place).find? other = tree.find? other := by
  unfold find? erase
  rw [lookup_filter_ne different]

/-- A directory stands at the root. -/
theorem find?_nil (tree : FileTree) : tree.find? [] = some .directory :=
  rfl

-----------------------------------------------------------------------------------------
-- Changes
-----------------------------------------------------------------------------------------

/-- A tree comes from another one by changes of a kind: relative paths start at the same place,
and at every place stands the same as before unless the kind of change allows for what stands
there before and after.
-/
structure Changed (kind : Place → Option Node → Option Node → Prop) (before after : FileTree)
    : Prop where
  home : after.home = before.home
  node
    : ∀ place,
        after.find? place = before.find? place
        ∨ kind place (before.find? place) (after.find? place)

/-- Nothing has changed, whatever the kind. -/
theorem Changed.refl (kind : Place → Option Node → Option Node → Prop) (tree : FileTree)
    : Changed kind tree tree :=
  ⟨rfl, fun _ => Or.inl rfl⟩

/-- Changes of a kind that composes compose. -/
theorem Changed.trans {kind : Place → Option Node → Option Node → Prop}
    (compose : ∀ place old middle new,
      kind place old middle → kind place middle new → kind place old new)
    {before middle after : FileTree} (first : Changed kind before middle)
    (second : Changed kind middle after)
    : Changed kind before after := by
  refine ⟨second.home.trans first.home, fun place => ?_⟩
  rcases second.node place with same | changed
  · rw [same]
    exact first.node place
  · rcases first.node place with same | earlier
    · rw [same] at changed
      exact Or.inr changed
    · exact Or.inr (compose place _ _ _ earlier changed)

/-- A change of a kind is a change of any kind that allows for more. -/
theorem Changed.mono {kind wider : Place → Option Node → Option Node → Prop}
    (included : ∀ place old new, kind place old new → wider place old new)
    {before after : FileTree} (changed : Changed kind before after)
    : Changed wider before after :=
  ⟨changed.home, fun place => (changed.node place).imp_right (included place _ _)⟩

/-- Putting a node is a change of every kind that allows for it at its place. -/
theorem Changed.put {kind : Place → Option Node → Option Node → Prop} {tree : FileTree}
    {place : Place} {node : Node} (allowed : kind place (tree.find? place) (some node))
    : Changed kind tree (tree.put place node) := by
  refine ⟨rfl, fun other => ?_⟩
  by_cases same : other = place
  · subst same
    by_cases root : other = []
    · subst root
      exact Or.inl rfl
    · rw [find?_put_self root]
      exact Or.inr allowed
  · exact Or.inl (find?_put_of_ne same)

/-- Erasing a place is a change of every kind that allows for nothing to stand there. -/
theorem Changed.erase {kind : Place → Option Node → Option Node → Prop} {tree : FileTree}
    {place : Place} (allowed : kind place (tree.find? place) none)
    : Changed kind tree (tree.erase place) := by
  refine ⟨rfl, fun other => ?_⟩
  by_cases same : other = place
  · subst same
    by_cases root : other = []
    · subst root
      exact Or.inl rfl
    · rw [find?_erase_self root]
      exact Or.inr allowed
  · exact Or.inl (find?_erase_of_ne same)

-----------------------------------------------------------------------------------------
-- The three kinds of change
-----------------------------------------------------------------------------------------

/-- A directory is made where nothing stood. -/
def Makes (_ : Place) (old new : Option Node) : Prop :=
  old = none ∧ new = some .directory

/-- What stood at a place is taken away. -/
def Prunes (_ : Place) (_ new : Option Node) : Prop :=
  new = none

/-- A file is written at one of the given places, over a file or where nothing stood. -/
def Writes (places : Place → Prop) (place : Place) (old new : Option Node) : Prop :=
  places place
  ∧ (∃ data mode, new = some (.file data mode))
  ∧ (old = none ∨ ∃ data mode, old = some (.file data mode))

/-- A file that is written twice at a place is written there. -/
theorem Writes.trans {places : Place → Prop} {place : Place} {old middle new : Option Node}
    (first : Writes places place old middle) (second : Writes places place middle new)
    : Writes places place old new :=
  ⟨first.1, second.2.1, first.2.2⟩

-----------------------------------------------------------------------------------------
-- Requests
-----------------------------------------------------------------------------------------

/-- Making one directory changes the tree by it alone. -/
theorem mkdir_changed {tree after : FileTree} {path : String} (made : tree.mkdir path = .ok after)
    : Changed Makes tree after := by
  unfold mkdir at made
  split at made
  · cases made
  · rename_i place _
    split at made
    · rename_i missing
      cases made
      exact .put ⟨missing, rfl⟩
    · cases made

/-- A directory that is there is left, and one that is not is made. -/
theorem ensureDirectory_changed {tree after : FileTree} {path : String}
    (made : tree.ensureDirectory path = .ok after)
    : Changed Makes tree after := by
  unfold ensureDirectory at made
  split at made
  · cases made
    exact .refl _ tree
  · cases made
  · split at made
    · rename_i found
      cases made
      exact mkdir_changed found
    · split at made
      · cases made
        exact .refl _ tree
      · cases made

/-- Making directories one after the other only makes directories, by induction over them. -/
theorem ensureDirectories_changed (tree : FileTree) (paths : List String)
    : Changed Makes tree (tree.ensureDirectories paths).1 := by
  induction paths generalizing tree with
  | nil => exact .refl _ tree
  | cons path rest ih =>
      unfold ensureDirectories
      split
      · rename_i next made
        refine (ensureDirectory_changed made).trans ?_ (ih next)
        rintro place old middle new ⟨_, rfl⟩ ⟨missing, _⟩
        cases missing
      · exact .refl _ tree

/-- Making a directory and those on the way to it only makes directories. -/
theorem mkdirAll_changed (tree : FileTree) (path : String)
    : Changed Makes tree (tree.mkdirAll path).1 :=
  ensureDirectories_changed tree _

/-- Removing takes away one node. -/
theorem remove_changed {tree after : FileTree} {path : String}
    (removed : tree.remove path = .ok after)
    : Changed Prunes tree after := by
  unfold remove at removed
  split at removed
  · cases removed
  · split at removed
    · cases removed
      exact .erase rfl
    · cases removed
  · cases removed
    exact .erase rfl

/-- Writing a file changes the tree at the place that its path leads to, if at all. -/
theorem writeFile_changed {tree after : FileTree} {path : String} {data : Bytes}
    (wrote : tree.writeFile path data = .ok after)
    : Changed (Writes fun place => tree.locate true path = .ok place) tree after := by
  unfold writeFile at wrote
  split at wrote
  · cases wrote
  · rename_i place located
    split at wrote
    · rename_i missing
      cases wrote
      exact .put ⟨located, ⟨_, _, rfl⟩, Or.inl missing⟩
    · rename_i old mode present
      cases wrote
      exact .put ⟨located, ⟨_, _, rfl⟩, Or.inr ⟨old, mode, present⟩⟩
    · cases wrote
    · cases wrote
      exact .refl _ tree
    · cases wrote

end GoldenSuite.FileTree

import GoldenSuite.Proofs.FileTree.Changes
import GoldenSuite.Proofs.Path.Joining
import GoldenSuite.Proofs.Text.Order
import Mathlib.Data.List.Induction
import Mathlib.Data.List.Sort

/-! Well-formed file trees, as file systems have them: every place has one node, stands in a
directory and is named by plain names. In such a tree a listing is told by the nodes alone, so that
trees with the same nodes have the same listings.
-/

namespace GoldenSuite.FileTree

-----------------------------------------------------------------------------------------
-- Well-formed trees
-----------------------------------------------------------------------------------------

/-- What every file system guarantees: no place has two nodes, names are plain, whatever stands
somewhere stands in a directory, and relative paths start at a directory.
-/
structure WellFormed (tree : FileTree) : Prop where
  distinct : (tree.nodes.map Prod.fst).Nodup
  named : ∀ entry ∈ tree.nodes, ∀ name ∈ entry.1, Path.IsPlain name
  nested : ∀ entry ∈ tree.nodes, tree.find? entry.1.dropLast = some .directory
  home : tree.find? tree.home = some .directory

instance (tree : FileTree) : Decidable tree.WellFormed :=
  decidable_of_iff
    ((tree.nodes.map Prod.fst).Nodup
      ∧ (∀ entry ∈ tree.nodes, ∀ name ∈ entry.1, Path.IsPlain name)
      ∧ (∀ entry ∈ tree.nodes, tree.find? entry.1.dropLast = some .directory)
      ∧ tree.find? tree.home = some .directory)
    ⟨fun ⟨distinct, named, nested, home⟩ => ⟨distinct, named, nested, home⟩,
      fun wf => ⟨wf.distinct, wf.named, wf.nested, wf.home⟩⟩

/-- Looking up a place gives what is listed for it, if no place is listed twice. -/
theorem lookup_eq_some_iff_mem {nodes : List (Place × Node)}
    (distinct : (nodes.map Prod.fst).Nodup) {place : Place} {node : Node}
    : nodes.lookup place = some node ↔ (place, node) ∈ nodes := by
  induction nodes with
  | nil => simp
  | cons entry rest ih =>
      obtain ⟨key, value⟩ := entry
      obtain ⟨absent, others⟩ := List.nodup_cons.mp distinct
      rw [List.lookup_cons, List.mem_cons]
      by_cases same : place = key
      · subst same
        have unlisted : (place, node) ∉ rest := fun member =>
          absent (List.mem_map.mpr ⟨_, member, rfl⟩)
        simp [unlisted, eq_comm]
      · have skipped : (place == key) = false := by simpa using same
        simp [skipped, same, ih others]

/-- Below the root, the node at a place is the one that is listed for it. -/
theorem find?_eq_some_iff_mem {tree : FileTree} (distinct : (tree.nodes.map Prod.fst).Nodup)
    {place : Place} (inside : place ≠ []) {node : Node}
    : tree.find? place = some node ↔ (place, node) ∈ tree.nodes := by
  have kept : place.isEmpty = false := by simpa using inside
  rw [find?, kept]
  exact lookup_eq_some_iff_mem distinct

namespace WellFormed

variable {tree : FileTree}

/-- Whatever stands somewhere stands in a directory. -/
theorem parent (wf : tree.WellFormed) {place : Place} {node : Node}
    (found : tree.find? place = some node)
    : tree.find? place.dropLast = some .directory := by
  by_cases inside : place = []
  · subst inside
    rfl
  · exact wf.nested _ ((find?_eq_some_iff_mem wf.distinct inside).mp found)

/-- All places above one that has a node are directories, by induction on the names between
them.
-/
theorem above (wf : tree.WellFormed) {dir more : Place} {node : Node}
    (found : tree.find? (dir ++ more) = some node) (below : more ≠ [])
    : tree.find? dir = some .directory := by
  induction more using List.reverseRecOn generalizing node with
  | nil => exact absurd rfl below
  | append_singleton more name ih =>
      rw [← List.append_assoc] at found
      have outer := wf.parent found
      rw [List.dropLast_concat] at outer
      by_cases last : more = []
      · simpa [last] using outer
      · exact ih outer last

/-- Directories stand on the way to a directory. -/
theorem directory_above (wf : tree.WellFormed) {dir place : Place}
    (found : tree.find? dir = some .directory) (above : place <+: dir)
    : tree.find? place = some .directory := by
  obtain ⟨more, rfl⟩ := above
  by_cases same : more = []
  · simpa [same] using found
  · exact wf.above found same

/-- The names that lead to a node are plain. -/
theorem plain (wf : tree.WellFormed) {place : Place} {node : Node}
    (found : tree.find? place = some node)
    : ∀ name ∈ place, Path.IsPlain name := by
  by_cases inside : place = []
  · simp [inside]
  · exact wf.named _ ((find?_eq_some_iff_mem wf.distinct inside).mp found)

/-- A tree stays well formed if a node is put into a directory under a plain name, unless it would
take the place of a directory.
-/
theorem put (wf : tree.WellFormed) {dir : Place} {name : String} {node : Node}
    (parent : tree.find? dir = some .directory) (isPlain : Path.IsPlain name)
    (fits : node = .directory ∨ tree.find? (dir ++ [name]) ≠ some .directory)
    : (tree.put (dir ++ [name]) node).WellFormed := by
  have inside : dir ++ [name] ≠ [] := by simp
  have directory {place : Place} (found : tree.find? place = some .directory)
      : (tree.put (dir ++ [name]) node).find? place = some .directory := by
    by_cases same : place = dir ++ [name]
    · subst same
      rw [find?_put_self inside, fits.resolve_right fun other => other found]
    · rw [find?_put_of_ne same, found]
  have listed {entry : Place × Node} (member : entry ∈ (tree.put (dir ++ [name]) node).nodes)
      : entry = (dir ++ [name], node) ∨ entry ∈ tree.nodes :=
    (List.mem_cons.mp member).imp_right fun kept => (List.mem_filter.mp kept).1
  refine ⟨?_, ?_, ?_, directory wf.home⟩
  · refine List.nodup_cons.mpr ⟨?_, ?_⟩
    · rintro member
      obtain ⟨entry, kept, same⟩ := List.mem_map.mp member
      simp [same] at kept
    · exact (List.filter_sublist.map _).nodup wf.distinct
  · intro entry member
    rcases listed member with rfl | old
    · intro other named
      rcases List.mem_append.mp named with outer | last
      · exact wf.plain parent other outer
      · rw [List.mem_singleton.mp last]
        exact isPlain
    · exact wf.named entry old
  · intro entry member
    rcases listed member with rfl | old
    · rw [List.dropLast_concat]
      exact directory parent
    · exact directory (wf.nested entry old)

/-- A tree stays well formed if a node is erased that is no directory. -/
theorem erase (wf : tree.WellFormed) {place : Place}
    (noDirectory : tree.find? place ≠ some .directory)
    : (tree.erase place).WellFormed := by
  have directory {other : Place} (found : tree.find? other = some .directory)
      : (tree.erase place).find? other = some .directory := by
    rw [find?_erase_of_ne, found]
    rintro rfl
    exact noDirectory found
  have listed {entry : Place × Node} (member : entry ∈ (tree.erase place).nodes)
      : entry ∈ tree.nodes :=
    (List.mem_filter.mp member).1
  exact {
    distinct := (List.filter_sublist.map _).nodup wf.distinct
    named := fun entry member => wf.named entry (listed member)
    nested := fun entry member => directory (wf.nested entry (listed member))
    home := directory wf.home
  }

end WellFormed

-----------------------------------------------------------------------------------------
-- Listings
-----------------------------------------------------------------------------------------

/-- A place lies directly inside a directory under its last name. -/
theorem childName?_eq_some_iff {dir place : Place} {name : String}
    : childName? dir place = some name ↔ place = dir ++ [name] := by
  unfold childName?
  constructor
  · intro found
    split at found
    · rename_i inside
      rcases List.eq_nil_or_concat place with rfl | ⟨front, last, rfl⟩
      · cases found
      · simp only [List.concat_eq_append, List.dropLast_concat, List.getLast?_concat]
          at inside found
        rw [List.concat_eq_append, inside, Option.some.inj found]
    · cases found
  · rintro rfl
    simp

/-- What a directory holds is what stands at the places inside it. -/
theorem mem_children_iff {tree : FileTree} (distinct : (tree.nodes.map Prod.fst).Nodup)
    {dir : Place} {name : String} {node : Node}
    : (name, node) ∈ tree.children dir ↔ tree.find? (dir ++ [name]) = some node := by
  have inside : dir ++ [name] ≠ [] := by simp
  rw [find?_eq_some_iff_mem distinct inside, children, List.mem_filterMap]
  constructor
  · rintro ⟨⟨place, value⟩, member, told⟩
    obtain ⟨child, named, same⟩ := Option.map_eq_some_iff.mp told
    obtain ⟨rfl, rfl⟩ := Prod.mk.inj same
    rw [← childName?_eq_some_iff.mp named]
    exact member
  · intro member
    exact ⟨_, member, by simp [childName?_eq_some_iff.mpr rfl]⟩

/-- A directory holds no name twice. -/
theorem nodup_children {tree : FileTree} (distinct : (tree.nodes.map Prod.fst).Nodup) (dir : Place)
    : ((tree.children dir).map Prod.fst).Nodup := by
  have names : (tree.children dir).map Prod.fst
      = (tree.nodes.map Prod.fst).filterMap (childName? dir) := by
    simp only [children, List.map_filterMap, List.filterMap_map, Option.map_map]
    refine List.filterMap_congr fun entry _ => ?_
    rw [Function.comp_apply]
    cases childName? dir entry.1 <;> rfl
  rw [names]
  refine distinct.filterMap ?_
  intro left right name hl hr
  rw [childName?_eq_some_iff.mp hl, childName?_eq_some_iff.mp hr]

/-- The entries of a directory are the names inside it, each with whether a directory stands
there.
-/
theorem mem_entriesAt_iff {tree : FileTree} (distinct : (tree.nodes.map Prod.fst).Nodup)
    {dir : Place} {entry : Entry}
    : entry ∈ tree.entriesAt dir
      ↔ ∃ node,
          tree.find? (dir ++ [entry.name]) = some node
          ∧ entry.isDirectory = decide (node = .directory) := by
  rw [entriesAt, List.mem_mergeSort, List.mem_map]
  constructor
  · rintro ⟨⟨name, node⟩, member, rfl⟩
    exact ⟨node, (mem_children_iff distinct).mp member, rfl⟩
  · rintro ⟨node, found, told⟩
    refine ⟨(entry.name, node), (mem_children_iff distinct).mpr found, ?_⟩
    cases entry
    simp_all

/-- A listing has no name twice. -/
theorem nodup_entriesAt {tree : FileTree} (distinct : (tree.nodes.map Prod.fst).Nodup)
    (dir : Place)
    : ((tree.entriesAt dir).map Entry.name).Nodup := by
  have sorted := (List.mergeSort_perm
    ((tree.children dir).map fun child => (⟨child.1, child.2 = .directory⟩ : Entry))
    (fun a b => a.name ≤ b.name)).map Entry.name
  refine sorted.nodup_iff.mpr ?_
  rw [List.map_map]
  exact nodup_children distinct dir

/-- Listings are the same if the same nodes stand inside the directory. Witness: both are sorted by
names that occur once, and have the same entries.
-/
theorem entriesAt_congr {left right : FileTree} (hl : (left.nodes.map Prod.fst).Nodup)
    (hr : (right.nodes.map Prod.fst).Nodup) {dir : Place}
    (same : ∀ name, left.find? (dir ++ [name]) = right.find? (dir ++ [name]))
    : left.entriesAt dir = right.entriesAt dir := by
  have members (entry : Entry) : entry ∈ left.entriesAt dir ↔ entry ∈ right.entriesAt dir := by
    rw [mem_entriesAt_iff hl, mem_entriesAt_iff hr, same]
  have listed : (left.entriesAt dir).Perm (right.entriesAt dir) :=
    (List.perm_ext_iff_of_nodup (nodup_entriesAt hl dir).of_map
      (nodup_entriesAt hr dir).of_map).mpr members
  exact (sortedBy_mergeSort Entry.name _).eq_of_perm (sortedBy_mergeSort Entry.name _)
    (nodup_entriesAt hl dir) listed

end GoldenSuite.FileTree

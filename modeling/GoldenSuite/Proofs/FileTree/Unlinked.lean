import GoldenSuite.Proofs.FileTree.Straight
import GoldenSuite.Proofs.FileTree.Walking

/-! Trees without links. Every path leads where its names say, and cleaning a path does not change
where it leads. What is found by a cleaned path depends on nothing but the nodes on the way down to
its place, so trees that have these nodes in common cannot be told apart by it.
-/

namespace GoldenSuite.FileTree

-----------------------------------------------------------------------------------------
-- Where cleaned paths lead
-----------------------------------------------------------------------------------------

/-- A name that is pushed on a stack of cleaned names leads where it leads from their place. -/
theorem foldl_descend_pushName {rooted : Bool} {start : Place} {stack : List String}
    (cleaned : Path.IsCleaned rooted stack.reverse) (atRoot : rooted = true → start = [])
    (name : String)
    : (Path.pushName rooted stack name).reverse.foldl descend start
      = descend (stack.reverse.foldl descend start) name := by
  unfold Path.pushName
  split
  · rename_i self
    rw [self, descend, if_pos rfl]
  · rename_i notSelf
    split
    · rename_i up
      subst up
      cases stack with
      | nil =>
          cases rooted with
          | true => simp [descend, atRoot rfl]
          | false => simp
      | cons top rest =>
          dsimp only
          split
          · rename_i again
            simp [again]
          · rename_i other
            -- The name on top is plain, so the step up takes back the step it has led down.
            have plain : Path.IsPlain top := by
              obtain ⟨ups, names, parts, plain, _⟩ := cleaned
              have member : top ∈ List.replicate ups ".." ++ names := by
                rw [← parts]
                simp
              rcases List.mem_append.mp member with isUp | inner
              · exact absurd (List.eq_of_mem_replicate isUp) other
              · exact plain top inner
            rw [List.reverse_cons, List.foldl_append, List.foldl_cons, List.foldl_nil,
              descend_of_isPlain plain, descend, if_neg notSelf, if_pos rfl, List.dropLast_concat]
    · rw [List.reverse_cons, List.foldl_append]
      rfl

/-- Names that are pushed one after the other lead where they lead by themselves, by induction over
them.
-/
theorem foldl_descend_foldl_pushName {rooted : Bool} {start : Place} {stack names : List String}
    (cleaned : Path.IsCleaned rooted stack.reverse) (atRoot : rooted = true → start = [])
    (valid : ∀ name ∈ names, Path.IsName name)
    : (names.foldl (Path.pushName rooted) stack).reverse.foldl descend start
      = names.foldl descend (stack.reverse.foldl descend start) := by
  induction names generalizing stack with
  | nil => rfl
  | cons name rest ih =>
      rw [List.foldl_cons, List.foldl_cons, ih (cleaned.push (valid name (by simp)))
        (fun other member => valid other (by simp [member])),
        foldl_descend_pushName cleaned atRoot]

/-- The names that are left of a path lead where its names lead. -/
theorem foldl_descend_cleanNames (home : Place) (path : String)
    : (Path.cleanNames path).foldl descend (startOf home path) = placeOf home path := by
  have start : Path.IsCleaned (Path.isRooted path) ([] : List String).reverse :=
    ⟨0, [], rfl, by simp, fun _ => rfl⟩
  have atRoot : Path.isRooted path = true → startOf home path = [] := fun rooted => by
    rw [startOf, if_pos rooted]
  exact foldl_descend_foldl_pushName start atRoot fun _ => Path.isName_of_mem_names

/-- Cleaning a path does not change where it leads. -/
theorem placeOf_clean (home : Place) (path : String)
    : placeOf home (Path.clean path) = placeOf home path := by
  rw [placeOf_eq_cleanNames (Path.clean_clean path), Path.cleanNames_clean, startOf,
    Path.isRooted_clean, ← startOf, foldl_descend_cleanNames]

/-- A plain name that is joined to a path leads one further down. -/
theorem placeOf_join (home : Place) (dir : String) {name : String} (plain : Path.IsPlain name)
    : placeOf home (Path.join dir name) = placeOf home dir ++ [name] := by
  by_cases empty : dir = ""
  · subst empty
    have alone : Path.join "" name = Path.clean name := by
      rw [Path.join, if_pos rfl, if_neg plain.nonempty]
    have relative : startOf home name = home := by
      rw [startOf, Path.isRooted_of_isName plain.isName]
      rfl
    rw [alone, placeOf_clean, placeOf, Path.names_of_isName plain.isName, relative]
    exact descend_of_isPlain plain home
  · rw [placeOf, Path.names_join empty plain, startOf_join empty plain, List.foldl_append,
      foldl_descend_cleanNames]
    exact descend_of_isPlain plain _

-----------------------------------------------------------------------------------------
-- Trees without links
-----------------------------------------------------------------------------------------

/-- No link stands anywhere in a tree. -/
def Unlinked (tree : FileTree) : Prop :=
  ∀ place, NoLink (tree.find? place)

/-- A tree has no links if none is listed. -/
theorem unlinked_of_nodes {tree : FileTree} (listed : ∀ entry ∈ tree.nodes, NoLink (some entry.2))
    : tree.Unlinked := by
  intro place target found
  unfold find? at found
  split at found
  · cases found
  · obtain ⟨earlier, later, nodes, _⟩ := List.lookup_eq_some_iff.mp found
    exact listed (place, .link target) (by simp [nodes]) target rfl

/-- No link stands along any names. -/
theorem Unlinked.along {tree : FileTree} (unlinked : tree.Unlinked) (dir : Place)
    (names : List String)
    : tree.Along NoLink dir names := by
  induction names generalizing dir with
  | nil => trivial
  | cons name rest ih => exact ⟨unlinked _, ih _⟩

/-- Every path in its cleaned form is straight. -/
theorem Unlinked.straight {tree : FileTree} (unlinked : tree.Unlinked) {path : String}
    (cleaned : Path.clean path = path)
    : Straight tree path :=
  ⟨cleaned, fun place _ => unlinked place⟩

/-- A tree stays without links if none is added. -/
theorem Unlinked.changed {kind : Place → Option Node → Option Node → Prop}
    {before after : FileTree} (unlinked : before.Unlinked) (changed : Changed kind before after)
    (noLinks : ∀ place old new, kind place old new → NoLink new)
    : after.Unlinked := by
  intro place
  rcases changed.node place with same | different
  · rw [same]
    exact unlinked place
  · exact noLinks place _ _ different

/-- A directory that is made is no link. -/
theorem noLink_of_makes {place : Place} {old new : Option Node} (makes : Makes place old new)
    : NoLink new := by
  rw [makes.2]
  exact noLink_directory

/-- A directory is made inside a directory, under a plain name, so the tree stays well formed. -/
theorem WellFormed.mkdir_unlinked {tree after : FileTree} {path : String} (wf : tree.WellFormed)
    (unlinked : tree.Unlinked) (made : tree.mkdir path = .ok after)
    : after.WellFormed := by
  unfold mkdir at made
  generalize withoutClosingSlashes path = kept at made
  split at made
  · cases made
  · rename_i place located
    split at made
    · rename_i missing
      cases made
      have along := unlinked.along (startOf tree.home kept) (Path.names kept)
      obtain ⟨_, accepted⟩ := wf.of_locate_unlinked along located
      rw [accepted.locate_eq] at located
      obtain ⟨parent, name, inside, directory, plain⟩ :=
        wf.parent_of_walk (wf.find?_startOf kept) along.stepsOf (fun _ => isName_of_mem_stepsOf)
          located missing
      rw [inside]
      exact wf.put directory plain (Or.inl rfl)
    · cases made

/-- A directory that is not there is made, so the tree stays well formed. -/
theorem WellFormed.ensureDirectory_unlinked {tree after : FileTree} {path : String}
    (wf : tree.WellFormed) (unlinked : tree.Unlinked)
    (made : tree.ensureDirectory path = .ok after)
    : after.WellFormed := by
  unfold ensureDirectory at made
  split at made
  · cases made
    exact wf
  · cases made
  · split at made
    · rename_i new
      cases made
      exact wf.mkdir_unlinked unlinked new
    · split at made
      · cases made
        exact wf
      · cases made

/-- Directories are made one after the other, by induction over their paths. -/
theorem WellFormed.ensureDirectories_unlinked {tree : FileTree} (wf : tree.WellFormed)
    (unlinked : tree.Unlinked) (paths : List String)
    : (tree.ensureDirectories paths).1.WellFormed := by
  induction paths generalizing tree with
  | nil => exact wf
  | cons path rest ih =>
      unfold ensureDirectories
      split
      · rename_i next made
        exact ih (wf.ensureDirectory_unlinked unlinked made)
          (unlinked.changed (ensureDirectory_changed made) fun _ _ _ => noLink_of_makes)
      · exact wf

-----------------------------------------------------------------------------------------
-- Trees that agree on the way to a place
-----------------------------------------------------------------------------------------

/-- Two trees have the same nodes at a place and at all places above it. -/
def Agree (left right : FileTree) (place : Place) : Prop :=
  ∀ above, above <+: place → left.find? above = right.find? above

/-- A walk looks at nothing but the nodes that its names lead to, by induction over them. -/
theorem Unlinked.walk_congr {left right : FileTree} (unlinked : left.Unlinked) {follow : Bool}
    {links : Nat} {dir : Place} {names : List String}
    (same
      : ∀ start,
          start <+: names
          → left.find? (start.foldl descend dir) = right.find? (start.foldl descend dir))
    : left.walk follow links dir names = right.walk follow links dir names := by
  induction names generalizing dir with
  | nil => rw [walk, walk]
  | cons name rest ih =>
      have first := same [name] ⟨rest, rfl⟩
      have onward : left.walk follow links (descend dir name) rest
          = right.walk follow links (descend dir name) rest :=
        ih fun start isStart => same (name :: start) (by simpa using isStart)
      rw [walk, walk]
      by_cases self : name = "."
      · simpa [self, descend] using onward
      · by_cases up : name = ".."
        · simpa [self, up, descend] using onward
        · have down : descend dir name = dir ++ [name] := by
            rw [descend, if_neg self, if_neg up]
          simp only [List.foldl_cons, List.foldl_nil, down] at first
          rw [down] at onward
          simp only [if_neg self, if_neg up]
          split
          · rfl
          · rw [← first]
            cases found : left.find? (dir ++ [name]) with
            | none => rfl
            | some node =>
                cases node with
                | directory => exact onward
                | link target => exact absurd found (unlinked _ target)
                | _ => rfl

/-- Two well-formed trees in which relative paths start at the same place. There is no link in the
first one.
-/
structure Comparable (left right : FileTree) : Prop where
  unlinked : left.Unlinked
  first : left.WellFormed
  second : right.WellFormed
  home : right.home = left.home

section Agreeing

variable {left right : FileTree} (trees : Comparable left right) {path : String}
  (cleaned : Path.clean path = path) (agree : Agree left right (placeOf left.home path))

include trees cleaned agree

/-- A path in its cleaned form leads to the same place in trees that agree on the way to it. -/
theorem Comparable.locate (follow : Bool)
    : left.locate follow path = right.locate follow path := by
  obtain ⟨unlinked, hl, hr, home⟩ := trees
  have sameStart : startOf right.home path = startOf left.home path := by
    rw [home]
  have named {start : List String} (isStart : start <+: Path.names path)
      : left.find? (start.foldl descend (startOf left.home path))
        = right.find? (start.foldl descend (startOf left.home path)) := by
    rcases Path.names_eq_cleanNames cleaned with same | rfl
    · rw [same] at isStart
      have leads : (Path.cleanNames path).foldl descend (startOf left.home path)
          = placeOf left.home path :=
        foldl_descend_cleanNames left.home path
      have inLeft := hl.foldl_descend_start (hl.find?_startOf path)
        (Path.isCleaned_cleanNames path) isStart
      have inRight := hr.foldl_descend_start (hr.find?_startOf path)
        (Path.isCleaned_cleanNames path) isStart
      rw [leads] at inLeft
      rw [sameStart, leads] at inRight
      rcases inLeft with directory | above
      · rcases inRight with directory' | above
        · rw [directory, directory']
        · exact agree _ above
      · exact agree _ above
    · have few : start = [] ∨ start = ["."] := by
        have names : start <+: ["."] := isStart
        simpa [List.prefix_cons_iff] using names
      rcases few with rfl | rfl <;> exact agree _ List.prefix_rfl
  have walked : left.walk follow linkLimit (startOf left.home path) (stepsOf path)
      = right.walk follow linkLimit (startOf left.home path) (stepsOf path) := by
    refine unlinked.walk_congr fun start isStart => ?_
    rw [stepsOf] at isStart
    split at isStart
    · -- A closing slash stays at the place that the names have led to.
      rcases List.prefix_concat_iff.mp isStart with rfl | inner
      · rw [List.foldl_append]
        exact named List.prefix_rfl
      · exact named inner
    · exact named isStart
  simp only [FileTree.locate, sameStart, walked]

/-- The same node is found there. -/
theorem Comparable.look (follow : Bool)
    : left.look follow path = right.look follow path := by
  unfold FileTree.look
  rw [← trees.locate cleaned agree]
  cases located : left.locate follow path with
  | error cause => rfl
  | ok place =>
      obtain ⟨rfl, _⟩ := trees.first.of_locate_unlinked (trees.unlinked.along _ _) located
      dsimp only
      rw [agree _ List.prefix_rfl]

/-- The same is opened there. -/
theorem Comparable.openPath : left.openPath path = right.openPath path := by
  rw [FileTree.openPath, FileTree.openPath, trees.look cleaned agree]

/-- The same is read there. -/
theorem Comparable.readFile : left.readFile path = right.readFile path := by
  rw [FileTree.readFile, FileTree.readFile, trees.openPath cleaned agree]

/-- A file is written there in both trees or in none. -/
theorem Comparable.writeFile (data : Bytes)
    : (∃ cause,
        left.writeFile path data = .error cause ∧ right.writeFile path data = .error cause)
      ∨ (∃ node,
          left.writeFile path data = .ok (left.put (placeOf left.home path) node)
          ∧ right.writeFile path data = .ok (right.put (placeOf left.home path) node))
      ∨ left.writeFile path data = .ok left ∧ right.writeFile path data = .ok right := by
  unfold FileTree.writeFile
  rw [← trees.locate cleaned agree]
  cases located : left.locate true path with
  | error cause => exact Or.inl ⟨_, rfl, rfl⟩
  | ok place =>
      obtain ⟨rfl, _⟩ := trees.first.of_locate_unlinked (trees.unlinked.along _ _) located
      dsimp only
      rw [← agree _ List.prefix_rfl]
      cases found : left.find? (placeOf left.home path) with
      | none => exact Or.inr (Or.inl ⟨_, rfl, rfl⟩)
      | some node =>
          cases node with
          | file _ mode => exact Or.inr (Or.inl ⟨_, rfl, rfl⟩)
          | sink => exact Or.inr (Or.inr ⟨rfl, rfl⟩)
          | _ => exact Or.inl ⟨_, rfl, rfl⟩

end Agreeing

end GoldenSuite.FileTree

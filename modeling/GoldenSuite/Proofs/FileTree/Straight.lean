import GoldenSuite.Proofs.FileTree.Descent
import Mathlib.Data.List.Infix
import Mathlib.Data.List.TakeWhile

/-! Straight paths: in their cleaned form and through no link. Making a directory at such a path
makes nothing but directories on the way to it, and a plain name that is joined to it leads
directly into the directory.
-/

namespace GoldenSuite.FileTree

-----------------------------------------------------------------------------------------
-- Paths as texts
-----------------------------------------------------------------------------------------

/-- A path that is not refused as a text: it is not empty and holds no zero character, and neither
the path nor a name along it is too long.
-/
structure IsAccepted (path : String) : Prop where
  nonempty : path ≠ ""
  allowed : ¬path.toList.contains '\x00'
  short : path.utf8ByteSize < pathLimit
  names : ∀ name ∈ Path.names path, name.utf8ByteSize ≤ nameLimit

/-- An accepted path is walked. -/
theorem IsAccepted.locate_eq {path : String} (accepted : IsAccepted path) (tree : FileTree)
    (follow : Bool)
    : tree.locate follow path
      = tree.walk follow linkLimit (startOf tree.home path) (stepsOf path) := by
  rw [locate, if_neg accepted.nonempty, if_neg accepted.allowed,
    if_neg (Nat.not_le_of_lt accepted.short)]

/-- A path is looked up by locating it. -/
theorem look_eq_ok_iff {tree : FileTree} {follow : Bool} {path : String} {place : Place}
    {node : Node}
    : tree.look follow path = .ok (place, node)
      ↔ tree.locate follow path = .ok place ∧ tree.find? place = some node := by
  constructor
  · intro looked
    unfold look at looked
    split at looked
    · cases looked
    · rename_i located
      split at looked
      · rename_i found
        cases looked
        exact ⟨located, found⟩
      · cases looked
  · rintro ⟨located, found⟩
    simp only [look, located, found]

/-- The steps along an accepted path are short enough. -/
theorem IsAccepted.stepsOf_short {path : String} (accepted : IsAccepted path)
    : ∀ name ∈ stepsOf path, name.utf8ByteSize ≤ nameLimit := by
  intro name member
  rw [stepsOf] at member
  split at member
  · rcases List.mem_append.mp member with inner | closing
    · exact accepted.names name inner
    · rw [List.mem_singleton.mp closing]
      decide
  · exact accepted.names name member

/-- The steps along a path are names. -/
theorem isName_of_mem_stepsOf {path name : String} (member : name ∈ stepsOf path)
    : Path.IsName name := by
  rw [stepsOf] at member
  split at member
  · rcases List.mem_append.mp member with inner | closing
    · exact Path.isName_of_mem_names inner
    · rw [List.mem_singleton.mp closing]
      exact ⟨by decide, by decide⟩
  · exact Path.isName_of_mem_names member

/-- Relative paths start at a directory, and the others at the root. -/
theorem WellFormed.find?_startOf {tree : FileTree} (wf : tree.WellFormed) (path : String)
    : tree.find? (startOf tree.home path) = some .directory := by
  rw [startOf]
  split
  · rfl
  · exact wf.home

/-- A path along which no link stands leads where its names say, and is accepted if it leads
anywhere.
-/
theorem WellFormed.of_locate_unlinked {tree : FileTree} (wf : tree.WellFormed) {follow : Bool}
    {path : String} {place : Place}
    (unlinked : tree.Along NoLink (startOf tree.home path) (Path.names path))
    (located : tree.locate follow path = .ok place)
    : place = placeOf tree.home path ∧ IsAccepted path := by
  rw [locate] at located
  split at located
  · cases located
  · rename_i nonempty
    split at located
    · cases located
    · rename_i allowed
      split at located
      · cases located
      · rename_i short
        obtain ⟨rfl, shorts⟩ :=
          wf.of_walk_unlinked (wf.find?_startOf path) unlinked.stepsOf located
        refine ⟨foldl_descend_stepsOf path _, nonempty, allowed, Nat.lt_of_not_le short, ?_⟩
        intro name member
        refine shorts name ?_
        rw [stepsOf]
        split
        · exact List.mem_append_left _ member
        · exact member

/-- Directories along names end in one. -/
theorem Along.find?_foldl {tree : FileTree} {dir : Place} {names : List String}
    (along : tree.Along (· = some .directory) dir names)
    (found : tree.find? dir = some .directory)
    : tree.find? (names.foldl descend dir) = some .directory := by
  induction names generalizing dir with
  | nil => exact found
  | cons name rest ih => exact ih along.2 along.1

/-- An accepted path along directories leads to a directory. -/
theorem WellFormed.look_directories {tree : FileTree} (wf : tree.WellFormed) {path : String}
    (accepted : IsAccepted path)
    (along : tree.Along (· = some .directory) (startOf tree.home path) (Path.names path))
    (follow : Bool)
    : tree.look follow path = .ok (placeOf tree.home path, .directory) := by
  have walked : tree.locate follow path = .ok (placeOf tree.home path) := by
    rw [accepted.locate_eq, ← List.append_nil (stepsOf path), walk_through along.stepsOf,
      if_pos accepted.stepsOf_short, foldl_descend_stepsOf, walk]
    rfl
  have found : tree.find? (placeOf tree.home path) = some .directory :=
    along.find?_foldl (wf.find?_startOf path)
  simp only [look, walked, found]

-----------------------------------------------------------------------------------------
-- Straight paths
-----------------------------------------------------------------------------------------

/-- A path is straight if it is in its cleaned form and no link stands on the way to the place it
leads to, or there.
-/
structure Straight (tree : FileTree) (path : String) : Prop where
  cleaned : Path.clean path = path
  unlinked : ∀ place, place <+: placeOf tree.home path → NoLink (tree.find? place)

instance (tree : FileTree) (path : String) : Decidable (Straight tree path) :=
  decidable_of_iff
    (Path.clean path = path
      ∧ ∀ place ∈ (placeOf tree.home path).inits, NoLink (tree.find? place))
    ⟨fun ⟨cleaned, unlinked⟩ =>
        ⟨cleaned, fun place above => unlinked place ((List.mem_inits _ _).mpr above)⟩,
      fun straight =>
        ⟨straight.cleaned, fun place listed =>
          straight.unlinked place ((List.mem_inits _ _).mp listed)⟩⟩

/-- A path in its cleaned form is not empty. -/
theorem Straight.nonempty {tree : FileTree} {path : String} (straight : Straight tree path)
    : path ≠ "" := by
  rintro rfl
  exact absurd straight.cleaned (by decide)

/-- A path stays straight in a tree that changes without new links. -/
theorem Straight.changed {kind : Place → Option Node → Option Node → Prop}
    {before after : FileTree} {path : String} (straight : Straight before path)
    (changed : Changed kind before after)
    (noLinks : ∀ place old new, kind place old new → NoLink new)
    : Straight after path := by
  refine ⟨straight.cleaned, fun place above => ?_⟩
  rw [changed.home] at above
  rcases changed.node place with same | different
  · rw [same]
    exact straight.unlinked place above
  · exact noLinks place _ _ different

/-- What holds of directories and of all places on the way to a path in its cleaned form holds
along the names that are left of it.
-/
theorem WellFormed.along_cleanNames {tree : FileTree} (wf : tree.WellFormed) {path : String}
    {holds : Option Node → Prop} (cleaned : Path.clean path = path)
    (directory : holds (some .directory))
    (held : ∀ place, place <+: placeOf tree.home path → holds (tree.find? place))
    : tree.Along holds (startOf tree.home path) (Path.cleanNames path) := by
  refine wf.along_cleaned directory (wf.find?_startOf path) (Path.isCleaned_cleanNames path) ?_
  rw [← placeOf_eq_cleanNames cleaned]
  exact held

/-- No link stands along a straight path. -/
theorem Straight.along {tree : FileTree} {path : String} (straight : Straight tree path)
    (wf : tree.WellFormed)
    : tree.Along NoLink (startOf tree.home path) (Path.cleanNames path) :=
  wf.along_cleanNames straight.cleaned noLink_directory straight.unlinked

/-- If a directory stands where a path in its cleaned form leads, directories stand along it. -/
theorem WellFormed.along_directories {tree : FileTree} (wf : tree.WellFormed) {path : String}
    (cleaned : Path.clean path = path)
    (found : tree.find? (placeOf tree.home path) = some .directory)
    : tree.Along (· = some .directory) (startOf tree.home path) (Path.cleanNames path) :=
  wf.along_cleanNames cleaned rfl fun _ => wf.directory_above found

-----------------------------------------------------------------------------------------
-- Directories on the way
-----------------------------------------------------------------------------------------

/-- One path sets out as another one does: it has the first ones of its names, from the same place
on.
-/
structure SetsOut (path stage : String) : Prop where
  names : Path.names stage <+: Path.names path
  rooted : Path.isRooted stage = Path.isRooted path

/-- The directories that a path names on its way set out as it does. -/
theorem setsOut_of_mem_stages {path stage : String} (nonempty : path ≠ "")
    (member : stage.toList ∈ Path.stages path.toList)
    : SetsOut path stage := by
  obtain ⟨names, rooted, _⟩ := Path.names_of_stage member nonempty
  exact ⟨names, rooted⟩

/-- What holds along a path in its cleaned form holds along those that set out as it does. -/
theorem WellFormed.along_setsOut {tree : FileTree} (wf : tree.WellFormed) {path stage : String}
    {holds : Option Node → Prop} (cleaned : Path.clean path = path) (setsOut : SetsOut path stage)
    (directory : holds (some .directory))
    (along : tree.Along holds (startOf tree.home path) (Path.cleanNames path))
    : tree.Along holds (startOf tree.home stage) (Path.names stage) := by
  have whole : tree.Along holds (startOf tree.home path) (Path.names path) := by
    rcases Path.names_eq_cleanNames cleaned with same | rfl
    · rw [same]
      exact along
    · exact ⟨wf.home ▸ directory, trivial⟩
  obtain ⟨more, split⟩ := setsOut.names
  rw [← split] at whole
  rw [startOf, setsOut.rooted]
  exact (along_append.mp whole).1

/-- A path that sets out as one in its cleaned form leads to a directory or to a place on the
way.
-/
theorem WellFormed.placeOf_setsOut {tree : FileTree} (wf : tree.WellFormed) {path stage : String}
    (cleaned : Path.clean path = path) (setsOut : SetsOut path stage)
    : tree.find? (placeOf tree.home stage) = some .directory
      ∨ placeOf tree.home stage <+: placeOf tree.home path := by
  have start : startOf tree.home stage = startOf tree.home path := by
    rw [startOf, startOf, setsOut.rooted]
  rw [placeOf_eq_cleanNames cleaned, placeOf, start]
  rcases Path.names_eq_cleanNames cleaned with same | rfl
  · exact wf.foldl_descend_start (wf.find?_startOf path) (Path.isCleaned_cleanNames path)
      (same ▸ setsOut.names)
  · right
    have few : Path.names stage = [] ∨ Path.names stage = ["."] := by
      have names : Path.names stage <+: ["."] := setsOut.names
      simpa [List.prefix_cons_iff] using names
    rcases few with none | self
    · rw [none]
      exact List.prefix_rfl
    · rw [self]
      exact List.prefix_rfl

/-- A path is what is left without its closing slashes, and these. -/
theorem eq_withoutClosingSlashes_append (path : String)
    : ∃ slashes : List Char,
        path = withoutClosingSlashes path ++ String.ofList slashes
        ∧ (∀ c ∈ slashes, c = '/')
        ∧ (path ≠ "" → withoutClosingSlashes path ≠ "") := by
  unfold withoutClosingSlashes
  dsimp only
  split
  · exact ⟨[], by simp, by simp, id⟩
  · rename_i nonempty
    refine ⟨(path.toList.reverse.takeWhile (· = '/')).reverse, ?_, ?_, fun _ => ?_⟩
    · apply String.toList_injective
      have whole := congrArg List.reverse
        (List.takeWhile_append_dropWhile (p := (· = '/')) (l := path.toList.reverse))
      rw [List.reverse_append, List.reverse_reverse] at whole
      simpa using whole.symm
    · intro c member
      simpa using List.mem_takeWhile_imp (List.mem_reverse.mp member)
    · simpa using nonempty

/-- A path leads to the same place without its closing slashes, in the same way. -/
theorem names_withoutClosingSlashes (path : String)
    : Path.names (withoutClosingSlashes path) = Path.names path
      ∧ Path.isRooted (withoutClosingSlashes path) = Path.isRooted path := by
  obtain ⟨slashes, text, only, left⟩ := eq_withoutClosingSlashes_append path
  by_cases empty : path = ""
  · subst empty
    exact ⟨rfl, rfl⟩
  · generalize withoutClosingSlashes path = kept at text left ⊢
    have named : kept.toList ≠ [] := by simpa using left empty
    obtain ⟨c, rest, start⟩ := List.exists_cons_of_ne_nil named
    constructor
    · rw [text, Path.names_append_slashes kept only]
    · simp [text, Path.isRooted, start]

/-- Nothing stands at the end of a walk only if it ends inside a directory, under a plain name. -/
theorem WellFormed.parent_of_walk {tree : FileTree} (wf : tree.WellFormed) {follow : Bool}
    {links : Nat} {dir place : Place} {names : List String}
    (found : tree.find? dir = some .directory) (unlinked : tree.Along NoLink dir names)
    (valid : ∀ name ∈ names, Path.IsName name)
    (walked : tree.walk follow links dir names = .ok place) (missing : tree.find? place = none)
    : ∃ parent name,
        place = parent ++ [name]
        ∧ tree.find? parent = some .directory
        ∧ Path.IsPlain name := by
  rcases List.eq_nil_or_concat names with rfl | ⟨front, last, rfl⟩
  · rw [walk] at walked
    obtain rfl := Except.ok.inj walked
    rw [found] at missing
    cases missing
  · rw [List.concat_eq_append] at unlinked walked valid
    obtain ⟨before, noLink, _⟩ := along_append.mp unlinked
    obtain ⟨parent, _, onward⟩ := wf.walk_onward found before (by simp) walked
    obtain ⟨rfl, _⟩ := of_walk_singleton (fun _ => noLink) onward
    have isName : Path.IsName last := valid last (by simp)
    -- `.` and `..` lead to directories, which are there.
    have notSelf : last ≠ "." := by
      rintro rfl
      rw [descend, if_pos rfl, parent] at missing
      cases missing
    have notParent : last ≠ ".." := by
      rintro rfl
      rw [descend, if_neg notSelf, if_pos rfl, wf.parent parent] at missing
      cases missing
    have plain : Path.IsPlain last := ⟨isName.nonempty, isName.unslashed, notSelf, notParent⟩
    exact ⟨_, last, descend_of_isPlain plain _, parent, plain⟩

/-- A directory is made on the way to a place. -/
def MakesAbove (dir place : Place) (old new : Option Node) : Prop :=
  place <+: dir ∧ Makes place old new

/-- What is made on the way was not there before, so it is made once. -/
theorem MakesAbove.trans {dir place : Place} {old middle new : Option Node}
    (first : MakesAbove dir place old middle) (second : MakesAbove dir place middle new)
    : MakesAbove dir place old new := by
  obtain ⟨_, _, rfl⟩ := first
  obtain ⟨_, missing, _⟩ := second
  cases missing

/-- A directory is no link. -/
theorem MakesAbove.noLink {dir place : Place} {old new : Option Node}
    (makes : MakesAbove dir place old new)
    : NoLink new := by
  obtain ⟨_, _, rfl⟩ := makes
  simp [NoLink]

/-- Directories stay while others are made. -/
theorem Changed.directory {dir place : Place} {before after : FileTree}
    (changed : Changed (MakesAbove dir) before after)
    (found : before.find? place = some .directory)
    : after.find? place = some .directory := by
  rcases changed.node place with same | ⟨_, _, made⟩
  · rw [same, found]
  · exact made

/-- What stands after one or more directories have been made on the way to a straight path. -/
structure Paved (path : String) (before after : FileTree) : Prop where
  wellFormed : after.WellFormed
  changed : Changed (MakesAbove (placeOf before.home path)) before after

/-- Nothing has to be made. -/
theorem WellFormed.paved {tree : FileTree} (wf : tree.WellFormed) (path : String)
    : Paved path tree tree :=
  ⟨wf, .refl _ tree⟩

/-- A straight path stays straight while directories are made on the way to it. -/
theorem Paved.straight {path : String} {before after : FileTree} (paved : Paved path before after)
    (straight : Straight before path)
    : Straight after path :=
  straight.changed paved.changed fun _ _ _ makes => makes.noLink

/-- Directories may be made one after the other. -/
theorem Paved.trans {path : String} {before middle after : FileTree}
    (first : Paved path before middle) (second : Paved path middle after)
    : Paved path before after := by
  refine ⟨second.wellFormed, first.changed.trans ?_ ?_⟩
  · exact fun _ _ _ _ made again => made.trans again
  · rw [← first.changed.home]
    exact second.changed

/-- Making one directory on the way to a straight path makes nothing else. -/
theorem WellFormed.mkdir_paved {tree after : FileTree} {path stage : String}
    (wf : tree.WellFormed) (straight : Straight tree path) (setsOut : SetsOut path stage)
    (made : tree.mkdir stage = .ok after)
    : Paved path tree after ∧ after.find? (placeOf tree.home stage) = some .directory := by
  obtain ⟨names, rooted⟩ := names_withoutClosingSlashes stage
  unfold mkdir at made
  generalize withoutClosingSlashes stage = kept at made names rooted
  have start : startOf tree.home kept = startOf tree.home stage := by
    rw [startOf, startOf, rooted]
  have same : placeOf tree.home kept = placeOf tree.home stage := by
    rw [placeOf, placeOf, names, start]
  have unlinked : tree.Along NoLink (startOf tree.home kept) (Path.names kept) := by
    rw [names, start]
    exact wf.along_setsOut straight.cleaned setsOut noLink_directory (straight.along wf)
  split at made
  · cases made
  · rename_i place located
    split at made
    · rename_i missing
      cases made
      obtain ⟨rfl, accepted⟩ := wf.of_locate_unlinked unlinked located
      rw [accepted.locate_eq] at located
      obtain ⟨parent, name, inside, directory, plain⟩ :=
        wf.parent_of_walk (wf.find?_startOf kept) unlinked.stepsOf
          (fun _ => isName_of_mem_stepsOf) located missing
      have above : placeOf tree.home kept <+: placeOf tree.home path := by
        rw [same]
        refine (wf.placeOf_setsOut straight.cleaned setsOut).resolve_left fun present => ?_
        rw [← same, missing] at present
        cases present
      refine ⟨⟨?_, .put ⟨above, missing, rfl⟩⟩, ?_⟩
      · rw [inside]
        exact wf.put directory plain (Or.inl rfl)
      · rw [← same]
        refine find?_put_self ?_
        rw [inside]
        simp
    · cases made

/-- A directory on the way to a straight path is there afterwards, and nothing but directories on
the way has been made for it.
-/
theorem WellFormed.ensureDirectory_paved {tree after : FileTree} {path stage : String}
    (wf : tree.WellFormed) (straight : Straight tree path) (setsOut : SetsOut path stage)
    (made : tree.ensureDirectory stage = .ok after)
    : Paved path tree after ∧ after.find? (placeOf tree.home stage) = some .directory := by
  have there {follow : Bool} {place : Place}
      (looked : tree.look follow stage = .ok (place, .directory))
      : tree.find? (placeOf tree.home stage) = some .directory := by
    obtain ⟨located, found⟩ := look_eq_ok_iff.mp looked
    have unlinked := wf.along_setsOut straight.cleaned setsOut noLink_directory (straight.along wf)
    obtain ⟨rfl, _⟩ := wf.of_locate_unlinked unlinked located
    exact found
  unfold ensureDirectory at made
  split at made
  · rename_i looked
    cases made
    exact ⟨wf.paved path, there looked⟩
  · cases made
  · split at made
    · rename_i new
      cases made
      exact wf.mkdir_paved straight setsOut new
    · split at made
      · rename_i isDirectory
        cases made
        unfold isDirectoryAt at isDirectory
        split at isDirectory
        · rename_i looked
          exact ⟨wf.paved path, there looked⟩
        · cases isDirectory
      · cases made

/-- Directories on the way to a straight path are made one after the other, by induction over
them. If none fails they are all there afterwards.
-/
theorem WellFormed.ensureDirectories_paved {tree : FileTree} {path : String} {stages : List String}
    (wf : tree.WellFormed) (straight : Straight tree path)
    (setsOut : ∀ stage ∈ stages, SetsOut path stage)
    : Paved path tree (tree.ensureDirectories stages).1
      ∧ ((tree.ensureDirectories stages).2 = none
        → ∀ stage ∈ stages,
            (tree.ensureDirectories stages).1.find? (placeOf tree.home stage)
              = some .directory) := by
  induction stages generalizing tree with
  | nil => exact ⟨wf.paved path, by simp⟩
  | cons stage rest ih =>
      unfold ensureDirectories
      split
      · rename_i next made
        obtain ⟨paved, there⟩ := wf.ensureDirectory_paved straight (setsOut stage (by simp)) made
        obtain ⟨later, all⟩ := ih paved.wellFormed (paved.straight straight) fun other member =>
          setsOut other (by simp [member])
        refine ⟨paved.trans later, fun unbroken other member => ?_⟩
        rw [paved.changed.home] at all
        rcases List.mem_cons.mp member with rfl | inner
        · exact later.changed.directory there
        · exact all unbroken other inner
      · exact ⟨wf.paved path, fun broken => by cases broken⟩

/-- Making a directory at a straight path makes nothing but directories on the way to it. It is
there afterwards if nothing fails.
-/
theorem WellFormed.mkdirAll_paved {tree : FileTree} {path : String} (wf : tree.WellFormed)
    (straight : Straight tree path)
    : Paved path tree (tree.mkdirAll path).1
      ∧ ((tree.mkdirAll path).2 = none
        → (tree.mkdirAll path).1.find? (placeOf tree.home path) = some .directory) := by
  have setsOut : ∀ stage ∈ (Path.stages path.toList).map String.ofList, SetsOut path stage := by
    intro stage member
    obtain ⟨text, listed, rfl⟩ := List.mem_map.mp member
    exact setsOut_of_mem_stages straight.nonempty (by simpa using listed)
  obtain ⟨paved, all⟩ := wf.ensureDirectories_paved straight setsOut
  refine ⟨paved, fun unbroken => all unbroken path ?_⟩
  obtain ⟨earlier, split⟩ := Path.stages_eq_append path.toList
  simp [split]

/-- The directories on the way to an accepted path are accepted. -/
theorem IsAccepted.stage {path stage : String} (accepted : IsAccepted path)
    (member : stage.toList ∈ Path.stages path.toList)
    : IsAccepted stage := by
  obtain ⟨names, _, nonempty⟩ := Path.names_of_stage member accepted.nonempty
  have part : ∃ more, path = stage ++ more := by
    rcases Path.of_mem_stages member with same | ⟨_, more, text⟩
    · exact ⟨"", String.toList_injective (by simp [same])⟩
    · exact ⟨String.ofList ('/' :: more), String.toList_injective (by simp [text])⟩
  obtain ⟨more, rfl⟩ := part
  refine ⟨nonempty, fun zero => accepted.allowed (by simp_all), ?_, fun name member =>
    accepted.names name (names.subset member)⟩
  refine Nat.lt_of_le_of_lt ?_ accepted.short
  rw [String.utf8ByteSize_append]
  exact Nat.le_add_right _ _

/-- Nothing is made where the directories are there, by induction over them. -/
theorem ensureDirectories_of_present {tree : FileTree} {stages : List String}
    (present : ∀ stage ∈ stages, tree.ensureDirectory stage = .ok tree)
    : tree.ensureDirectories stages = (tree, none) := by
  induction stages with
  | nil => rfl
  | cons stage rest ih =>
      rw [ensureDirectories, present stage (by simp)]
      exact ih fun other member => present other (by simp [member])

/-- Nothing is made at an accepted path that leads to a directory. -/
theorem WellFormed.mkdirAll_present {tree : FileTree} {path : String} (wf : tree.WellFormed)
    (cleaned : Path.clean path = path) (accepted : IsAccepted path)
    (found : tree.find? (placeOf tree.home path) = some .directory)
    : tree.mkdirAll path = (tree, none) := by
  refine ensureDirectories_of_present fun stage member => ?_
  obtain ⟨text, listed, rfl⟩ := List.mem_map.mp member
  have onWay : (String.ofList text).toList ∈ Path.stages path.toList := by simpa using listed
  have along : tree.Along (· = some .directory) (startOf tree.home (String.ofList text))
      (Path.names (String.ofList text)) :=
    wf.along_setsOut cleaned (setsOut_of_mem_stages accepted.nonempty onWay) rfl
      (wf.along_directories cleaned found)
  simp only [ensureDirectory, wf.look_directories (accepted.stage onWay) along true]

-----------------------------------------------------------------------------------------
-- Names inside a directory
-----------------------------------------------------------------------------------------

/-- A joined path is walked along what is left of the directory's path, and then the name. -/
theorem stepsOf_join {path name : String} (nonempty : path ≠ "") (plain : Path.IsPlain name)
    : stepsOf (Path.join path name) = Path.cleanNames path ++ [name] := by
  have unclosed := Path.getLast?_join_ne_slash nonempty plain
  rw [stepsOf, Path.names_join nonempty plain]
  simp [unclosed]

/-- A joined path starts where the directory's path does. -/
theorem startOf_join {path name : String} (nonempty : path ≠ "") (plain : Path.IsPlain name)
    (home : Place)
    : startOf home (Path.join path name) = startOf home path := by
  rw [startOf, startOf, Path.isRooted_join nonempty plain]

/-- A plain name leads into its directory, unless a link is followed there. -/
theorem walk_name {tree : FileTree} {follow : Bool} {links : Nat} {dir : Place} {name : String}
    (plain : Path.IsPlain name)
    (noLink : follow = true → NoLink (tree.find? (dir ++ [name])))
    : tree.walk follow links dir [name]
      = if nameLimit < name.utf8ByteSize then .error .nameTooLong else .ok (dir ++ [name]) := by
  rw [walk, if_neg plain.notSelf, if_neg plain.notParent]
  split
  · rfl
  · cases found : tree.find? (dir ++ [name]) with
    | none => simp [found]
    | some node =>
        cases node with
        | directory => simp only [found, walk]
        | link target =>
            cases follow with
            | false => simp [found]
            | true => exact absurd found (noLink rfl target)
        | _ => simp [found]

/-- If a plain name that is joined to a straight path leads anywhere, it leads directly into the
directory, which is there.
-/
theorem WellFormed.of_locate_join {tree : FileTree} {path name : String} {follow : Bool}
    {place : Place} (wf : tree.WellFormed) (straight : Straight tree path)
    (plain : Path.IsPlain name)
    (noLink : follow = true → NoLink (tree.find? (placeOf tree.home path ++ [name])))
    (located : tree.locate follow (Path.join path name) = .ok place)
    : place = placeOf tree.home path ++ [name]
      ∧ tree.find? (placeOf tree.home path) = some .directory
      ∧ IsAccepted (Path.join path name) := by
  have nonempty := straight.nonempty
  rw [locate] at located
  split at located
  · cases located
  · rename_i named
    split at located
    · cases located
    · rename_i allowed
      split at located
      · cases located
      · rename_i short
        rw [stepsOf_join nonempty plain, startOf_join nonempty plain] at located
        obtain ⟨directory, shorts, onward⟩ :=
          wf.walk_onward (wf.find?_startOf path) (straight.along wf) (by simp) located
        rw [← placeOf_eq_cleanNames straight.cleaned] at directory onward
        rw [walk_name plain noLink] at onward
        split at onward
        · cases onward
        · rename_i fits
          refine ⟨(Except.ok.inj onward).symm, directory, named, allowed,
            Nat.lt_of_not_le short, ?_⟩
          rw [Path.names_join nonempty plain]
          intro other member
          rcases List.mem_append.mp member with inner | last
          · exact shorts other inner
          · rw [List.mem_singleton.mp last]
            exact Nat.le_of_not_lt fits

/-- A plain name that is joined to the path of a directory is found inside it, unless the path is
not accepted. It is never refused because something on the way is missing.
-/
theorem WellFormed.locate_join {tree : FileTree} {path name : String} {follow : Bool}
    (wf : tree.WellFormed) (cleaned : Path.clean path = path) (nonempty : path ≠ "")
    (found : tree.find? (placeOf tree.home path) = some .directory) (plain : Path.IsPlain name)
    (noLink : follow = true → NoLink (tree.find? (placeOf tree.home path ++ [name])))
    : (IsAccepted (Path.join path name)
        → tree.locate follow (Path.join path name) = .ok (placeOf tree.home path ++ [name]))
      ∧ tree.locate follow (Path.join path name) ≠ .error .noEntry := by
  have along := wf.along_directories cleaned found
  have walked : tree.walk follow linkLimit (startOf tree.home (Path.join path name))
        (stepsOf (Path.join path name))
      = if ∀ other ∈ Path.cleanNames path, other.utf8ByteSize ≤ nameLimit then
          if nameLimit < name.utf8ByteSize then .error .nameTooLong
          else .ok (placeOf tree.home path ++ [name])
        else .error .nameTooLong := by
    rw [stepsOf_join nonempty plain, startOf_join nonempty plain, walk_through along,
      ← placeOf_eq_cleanNames cleaned, walk_name plain noLink]
  constructor
  · intro accepted
    have shorts := accepted.names
    rw [Path.names_join nonempty plain] at shorts
    rw [accepted.locate_eq, walked, if_pos fun other member => shorts other (by simp [member]),
      if_neg (Nat.not_lt_of_le (shorts name (by simp)))]
  · rw [locate, if_neg (Path.join_plain_ne_empty path plain)]
    split
    · simp
    · split
      · simp
      · rw [walked]
        split
        · split <;> simp
        · simp

/-- If nothing but a directory stands at a plain name inside a directory with a straight path, only
a new file can be written there.
-/
theorem WellFormed.writeFile_join {tree after : FileTree} {path name : String} {data : Bytes}
    (wf : tree.WellFormed) (straight : Straight tree path) (plain : Path.IsPlain name)
    (free : ∀ node, tree.find? (placeOf tree.home path ++ [name]) = some node → node = .directory)
    (wrote : tree.writeFile (Path.join path name) data = .ok after)
    : tree.find? (placeOf tree.home path) = some .directory
      ∧ IsAccepted (Path.join path name)
      ∧ tree.find? (placeOf tree.home path ++ [name]) = none
      ∧ after = tree.put (placeOf tree.home path ++ [name]) (.file data plainMode) := by
  have noLink : NoLink (tree.find? (placeOf tree.home path ++ [name])) := by
    intro target linked
    cases free _ linked
  unfold writeFile at wrote
  split at wrote
  · cases wrote
  · rename_i place located
    obtain ⟨rfl, directory, accepted⟩ :=
      wf.of_locate_join straight plain (fun _ => noLink) located
    cases stands : tree.find? (placeOf tree.home path ++ [name]) with
    | none =>
        rw [stands] at wrote
        exact ⟨directory, accepted, rfl, (Except.ok.inj wrote).symm⟩
    | some node =>
        obtain rfl := free node stands
        rw [stands] at wrote
        cases wrote

end GoldenSuite.FileTree

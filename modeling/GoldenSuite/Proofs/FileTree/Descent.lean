import GoldenSuite.Proofs.FileTree.WellFormed
import GoldenSuite.Proofs.Path.Cleaning

/-! Paths that go through no link. Such a path leads where its names say: `..` goes back to the
directory above, and every other name one further down. A walk along it depends on nothing but the
nodes on its way.
-/

namespace GoldenSuite.FileTree

-----------------------------------------------------------------------------------------
-- Where names lead
-----------------------------------------------------------------------------------------

/-- Where a name leads from a directory, if no link is followed. -/
def descend (dir : Place) (name : String) : Place :=
  if name = "." then dir else if name = ".." then dir.dropLast else dir ++ [name]

/-- A plain name leads into the directory. -/
theorem descend_of_isPlain {name : String} (plain : Path.IsPlain name) (dir : Place)
    : descend dir name = dir ++ [name] := by
  rw [descend, if_neg plain.notSelf, if_neg plain.notParent]

/-- Plain names lead further and further down, by induction over them. -/
theorem foldl_descend_plain {names : List String} (plain : ∀ name ∈ names, Path.IsPlain name)
    (dir : Place)
    : names.foldl descend dir = dir ++ names := by
  induction names generalizing dir with
  | nil => simp
  | cons name rest ih =>
      rw [List.foldl_cons, descend_of_isPlain (plain name (by simp)),
        ih (fun other member => plain other (by simp [member]))]
      simp

/-- The place that a path leads to, if it goes through no link. -/
def placeOf (home : Place) (path : String) : Place :=
  (Path.names path).foldl descend (startOf home path)

/-- A closing slash does not change where a path leads. -/
theorem foldl_descend_stepsOf (path : String) (dir : Place)
    : (stepsOf path).foldl descend dir = (Path.names path).foldl descend dir := by
  rw [stepsOf]
  split
  · rw [List.foldl_append]
    rfl
  · rfl

/-- A path in its cleaned form leads where the names that are left of it lead. -/
theorem placeOf_eq_cleanNames {path : String} (cleaned : Path.clean path = path) (home : Place)
    : placeOf home path = (Path.cleanNames path).foldl descend (startOf home path) := by
  rcases Path.names_eq_cleanNames cleaned with same | rfl
  · rw [placeOf, same]
  · rfl

-----------------------------------------------------------------------------------------
-- Nodes along the way
-----------------------------------------------------------------------------------------

/-- What stands along names, at each place they lead to, one after the other. -/
def Along (tree : FileTree) (holds : Option Node → Prop) : Place → List String → Prop
  | _, [] => True
  | dir, name :: rest =>
      holds (tree.find? (descend dir name)) ∧ tree.Along holds (descend dir name) rest

/-- No link stands there. -/
def NoLink (node : Option Node) : Prop :=
  ∀ target, node ≠ some (.link target)

instance : (node : Option Node) → Decidable (NoLink node)
  | some (.link target) => isFalse fun noLink => noLink target rfl
  | some (.file _ _) => isTrue fun _ same => by cases same
  | some .directory => isTrue fun _ same => by cases same
  | some (.program _) => isTrue fun _ same => by cases same
  | some .sink => isTrue fun _ same => by cases same
  | none => isTrue fun _ same => by cases same

/-- A directory is no link. -/
theorem noLink_directory : NoLink (some .directory) := by
  simp [NoLink]

/-- What holds along names holds along the first of them, and from there on along the others. -/
theorem along_append {tree : FileTree} {holds : Option Node → Prop} {dir : Place}
    {first second : List String}
    : tree.Along holds dir (first ++ second)
      ↔ tree.Along holds dir first ∧ tree.Along holds (first.foldl descend dir) second := by
  induction first generalizing dir with
  | nil => simp [Along]
  | cons name rest ih => simp [Along, ih, and_assoc]

/-- What holds along names holds in a weaker form, too. -/
theorem Along.mono {tree : FileTree} {holds weaker : Option Node → Prop} {dir : Place}
    {names : List String} (implies : ∀ node, holds node → weaker node)
    (along : tree.Along holds dir names)
    : tree.Along weaker dir names := by
  induction names generalizing dir with
  | nil => trivial
  | cons name rest ih => exact ⟨implies _ along.1, ih along.2⟩

/-- A closing slash leads along nothing new. -/
theorem Along.stepsOf {tree : FileTree} {holds : Option Node → Prop} {dir : Place} {path : String}
    (along : tree.Along holds dir (Path.names path))
    : tree.Along holds dir (stepsOf path) := by
  rw [FileTree.stepsOf]
  split
  · rename_i closing
    have named : Path.names path ≠ [] := by
      obtain ⟨_, some⟩ := Bool.and_eq_true_iff.mp closing
      simpa using some
    obtain ⟨front, last, split⟩ := List.eq_nil_or_concat (Path.names path) |>.resolve_left named
    rw [List.concat_eq_append] at split
    rw [split] at along ⊢
    -- The last name has led to the place that the closing slash stays at.
    have ended := (along_append.mp along).2.1
    exact along_append.mpr ⟨along, by simpa [descend] using ended, trivial⟩
  · exact along

/-- Steps up from a directory go along directories, by induction on their number. -/
theorem WellFormed.along_ups {tree : FileTree} (wf : tree.WellFormed) {dir : Place}
    (found : tree.find? dir = some .directory) (ups : Nat)
    : tree.Along (· = some .directory) dir (List.replicate ups "..")
      ∧ tree.find? ((List.replicate ups "..").foldl descend dir) = some .directory := by
  induction ups generalizing dir with
  | zero => exact ⟨trivial, found⟩
  | succ ups ih =>
      have above : tree.find? (descend dir "..") = some .directory := wf.parent found
      obtain ⟨along, ended⟩ := ih above
      exact ⟨⟨above, along⟩, ended⟩

/-- What holds of all places on the way down holds along plain names. -/
theorem along_plain {tree : FileTree} {holds : Option Node → Prop} {dir : Place}
    {names : List String} (plain : ∀ name ∈ names, Path.IsPlain name)
    (held : ∀ place, place <+: dir ++ names → holds (tree.find? place))
    : tree.Along holds dir names := by
  induction names generalizing dir with
  | nil => trivial
  | cons name rest ih =>
      have down := descend_of_isPlain (plain name (by simp)) dir
      refine ⟨?_, ih (fun other member => plain other (by simp [member])) ?_⟩
      · rw [down]
        exact held _ ⟨rest, by simp⟩
      · rw [down]
        intro place below
        exact held place (by simpa using below)

/-- What holds of directories and of all places above the one that cleaned names lead to holds
along these names: they go up through directories and then down.
-/
theorem WellFormed.along_cleaned {tree : FileTree} (wf : tree.WellFormed)
    {holds : Option Node → Prop} (directory : holds (some .directory)) {dir : Place}
    (found : tree.find? dir = some .directory) {rooted : Bool} {names : List String}
    (cleaned : Path.IsCleaned rooted names)
    (held : ∀ place, place <+: names.foldl descend dir → holds (tree.find? place))
    : tree.Along holds dir names := by
  obtain ⟨ups, rest, rfl, plain, _⟩ := cleaned
  have along : tree.Along holds dir (List.replicate ups "..") := by
    refine (wf.along_ups found ups).1.mono ?_
    rintro node rfl
    exact directory
  refine along_append.mpr ⟨along, along_plain plain fun place below => held place ?_⟩
  rw [List.foldl_append, foldl_descend_plain plain]
  exact below

/-- The first ones of cleaned names lead to a directory or to a place on the way down. -/
theorem WellFormed.foldl_descend_start {tree : FileTree} (wf : tree.WellFormed) {dir : Place}
    (found : tree.find? dir = some .directory) {rooted : Bool} {names start : List String}
    (cleaned : Path.IsCleaned rooted names) (isStart : start <+: names)
    : tree.find? (start.foldl descend dir) = some .directory
      ∨ start.foldl descend dir <+: names.foldl descend dir := by
  obtain ⟨ups, rest, rfl, plain, _⟩ := cleaned
  rcases List.prefix_or_prefix_of_prefix isStart (List.prefix_append _ rest) with
    early | ⟨down, rfl⟩
  · left
    have steps : start = List.replicate start.length ".." := by
      refine List.eq_replicate_length.mpr fun name member => ?_
      exact List.eq_of_mem_replicate (early.subset member)
    rw [steps]
    exact (wf.along_ups found start.length).2
  · right
    have isDown : down <+: rest := (List.prefix_append_right_inj _).mp isStart
    have inner : ∀ name ∈ down, Path.IsPlain name := fun name member =>
      plain name (isDown.subset member)
    rw [List.foldl_append, List.foldl_append, foldl_descend_plain plain,
      foldl_descend_plain inner]
    exact (List.prefix_append_right_inj _).mpr isDown

-----------------------------------------------------------------------------------------
-- Walking along
-----------------------------------------------------------------------------------------

/-- A walk that goes on after names along which no link stands goes through directories, and on
from where the names lead; by induction over the names.
-/
theorem WellFormed.walk_onward {tree : FileTree} (wf : tree.WellFormed) {follow : Bool}
    {links : Nat} {dir : Place} {names more : List String} {place : Place}
    (found : tree.find? dir = some .directory) (unlinked : tree.Along NoLink dir names)
    (goesOn : more ≠ []) (walked : tree.walk follow links dir (names ++ more) = .ok place)
    : tree.find? (names.foldl descend dir) = some .directory
      ∧ (∀ name ∈ names, name.utf8ByteSize ≤ nameLimit)
      ∧ tree.walk follow links (names.foldl descend dir) more = .ok place := by
  induction names generalizing dir with
  | nil => exact ⟨found, by simp, walked⟩
  | cons name rest ih =>
      obtain ⟨noLink, others⟩ := unlinked
      have left : (rest ++ more).isEmpty = false := by simp [goesOn]
      have onward {next : Place} (same : descend dir name = next)
          (short : name.utf8ByteSize ≤ nameLimit) (down : tree.find? next = some .directory)
          (later : tree.walk follow links next (rest ++ more) = .ok place)
          : tree.find? ((name :: rest).foldl descend dir) = some .directory
            ∧ (∀ name' ∈ name :: rest, name'.utf8ByteSize ≤ nameLimit)
            ∧ tree.walk follow links ((name :: rest).foldl descend dir) more = .ok place := by
        subst same
        obtain ⟨ended, shorts, reached⟩ := ih down others later
        refine ⟨ended, ?_, reached⟩
        intro other member
        rcases List.mem_cons.mp member with rfl | inner
        · exact short
        · exact shorts other inner
      rw [List.cons_append, walk] at walked
      split at walked
      · rename_i self
        exact onward (by rw [descend, if_pos self]) (by subst self; decide) found walked
      · rename_i notSelf
        split at walked
        · rename_i up
          exact onward (by rw [descend, if_neg notSelf, if_pos up]) (by subst up; decide)
            (wf.parent found) walked
        · rename_i notParent
          have down : descend dir name = dir ++ [name] := by
            rw [descend, if_neg notSelf, if_neg notParent]
          rw [down] at noLink
          split at walked
          · cases walked
          · rename_i short
            dsimp only at walked
            rw [left] at walked
            split at walked
            · cases walked
            · rename_i directory
              exact onward down (Nat.le_of_not_lt short) directory walked
            · rename_i target linked
              exact absurd linked (noLink target)
            · cases walked

/-- One name leads where it says, unless a link is followed. -/
theorem of_walk_singleton {tree : FileTree} {follow : Bool} {links : Nat} {dir : Place}
    {name : String} {place : Place}
    (noLink : follow = true → NoLink (tree.find? (descend dir name)))
    (walked : tree.walk follow links dir [name] = .ok place)
    : place = descend dir name ∧ name.utf8ByteSize ≤ nameLimit := by
  rw [walk] at walked
  split at walked
  · rename_i self
    subst self
    rw [walk] at walked
    exact ⟨(Except.ok.inj walked).symm, by decide⟩
  · rename_i notSelf
    split at walked
    · rename_i up
      subst up
      rw [walk] at walked
      exact ⟨(Except.ok.inj walked).symm, by decide⟩
    · rename_i notParent
      have down : descend dir name = dir ++ [name] := by
        rw [descend, if_neg notSelf, if_neg notParent]
      rw [down] at noLink ⊢
      split at walked
      · cases walked
      · rename_i short
        refine ⟨?_, Nat.le_of_not_lt short⟩
        dsimp only [List.isEmpty_nil] at walked
        split at walked
        · exact (Except.ok.inj walked).symm
        · rw [walk] at walked
          exact (Except.ok.inj walked).symm
        · rename_i target linked
          cases follow with
          | false => exact (Except.ok.inj walked).symm
          | true => exact absurd linked (noLink rfl target)
        · exact (Except.ok.inj walked).symm

/-- A walk along which no link stands leads where its names say. -/
theorem WellFormed.of_walk_unlinked {tree : FileTree} (wf : tree.WellFormed) {follow : Bool}
    {links : Nat} {dir : Place} {names : List String} {place : Place}
    (found : tree.find? dir = some .directory) (unlinked : tree.Along NoLink dir names)
    (walked : tree.walk follow links dir names = .ok place)
    : place = names.foldl descend dir ∧ ∀ name ∈ names, name.utf8ByteSize ≤ nameLimit := by
  rcases List.eq_nil_or_concat names with rfl | ⟨front, last, rfl⟩
  · rw [walk] at walked
    exact ⟨(Except.ok.inj walked).symm, by simp⟩
  · rw [List.concat_eq_append] at unlinked walked ⊢
    obtain ⟨before, noLink, _⟩ := along_append.mp unlinked
    obtain ⟨_, shorts, onward⟩ := wf.walk_onward found before (by simp) walked
    obtain ⟨rfl, short⟩ := of_walk_singleton (fun _ => noLink) onward
    refine ⟨by rw [List.foldl_append]; rfl, ?_⟩
    intro name member
    rcases List.mem_append.mp member with inner | isLast
    · exact shorts name inner
    · rw [List.mem_singleton.mp isLast]
      exact short

/-- A walk goes through directories to where its names say, unless a name is too long; by induction
over the names.
-/
theorem walk_through {tree : FileTree} {follow : Bool} {links : Nat} {dir : Place}
    {names more : List String} (along : tree.Along (· = some .directory) dir names)
    : tree.walk follow links dir (names ++ more)
      = if ∀ name ∈ names, name.utf8ByteSize ≤ nameLimit then
          tree.walk follow links (names.foldl descend dir) more
        else .error .nameTooLong := by
  induction names generalizing dir with
  | nil => simp
  | cons name rest ih =>
      obtain ⟨found, others⟩ := along
      have onward := ih others
      rw [List.foldl_cons, List.cons_append, walk]
      split
      · rename_i self
        subst self
        have short : ".".utf8ByteSize ≤ nameLimit := by decide
        simpa [descend, short] using onward
      · rename_i notSelf
        split
        · rename_i up
          subst up
          have short : "..".utf8ByteSize ≤ nameLimit := by decide
          simpa [descend, short] using onward
        · rename_i notParent
          have down : descend dir name = dir ++ [name] := by
            rw [descend, if_neg notSelf, if_neg notParent]
          rw [down] at found onward ⊢
          split
          · rename_i long
            have short : ¬name.utf8ByteSize ≤ nameLimit := Nat.not_le_of_lt long
            simp [short]
          · rename_i short
            have fits : name.utf8ByteSize ≤ nameLimit := Nat.le_of_not_lt short
            simp only [found]
            simpa [fits] using onward

end GoldenSuite.FileTree

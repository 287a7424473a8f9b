import GoldenSuite.Proofs.Fault.Refusal
import GoldenSuite.Proofs.Scratch.Reset
import Mathlib

/-! What a reset of the scratch directory leaves, place by place: directories on the way to it and
there, nothing where it is to remove something, and everything else as it was. So a second reset
finds nothing to do; and where something other than a directory stands in the way, a reset fails and
leaves all as it was.
-/

namespace GoldenSuite.Scratch

open FileTree

-----------------------------------------------------------------------------------------
-- What is left
-----------------------------------------------------------------------------------------

/-- Something stands at a place that a reset is to remove: no directory, but directly inside the
scratch directory, and not the placeholder.
-/
def Leftover (tree : FileTree) (dir place : Place) : Prop :=
  Inside dir place ∧ ∃ node, tree.find? place = some node ∧ node ≠ .directory

/-- A tree after a reset, place by place. -/
structure Tidied (dir : Place) (before after : FileTree) : Prop where
  way : ∀ place, place <+: dir → after.find? place = some .directory
  gone : ∀ place, Leftover before dir place → after.find? place = none
  kept
    : ∀ place,
        ¬place <+: dir
        → ¬Leftover before dir place
        → after.find? place = before.find? place

/-- A reset that does not fail leaves the tree tidied. -/
theorem tidied_of_reset {tree after : FileTree} {scratch : String} (wf : tree.WellFormed)
    (straight : Straight tree scratch) (cleared : reset tree scratch = (after, none))
    : Tidied (placeOf tree.home scratch) tree after := by
  obtain ⟨_, made, paved, found, clean, _⟩ := reset_cleared wf straight cleared
  have found' : after.find? (placeOf tree.home scratch) = some .directory :=
    (find?_directory_iff clean.alters _).mpr found
  -- Directories are made on the way only, so nothing is made where something is removed.
  have unmade {place : Place} (offWay : ¬place <+: placeOf tree.home scratch)
      : made.find? place = tree.find? place :=
    (paved.changed.node place).resolve_right fun makes => offWay makes.1
  refine ⟨fun place => clean.wellFormed.directory_above found', ?_, ?_⟩
  · rintro place ⟨inside, node, stands, noDirectory⟩
    have offWay : ¬place <+: placeOf tree.home scratch := fun above =>
      not_inside_of_above above inside
    rcases clean.changed.node place with same | ⟨_, _, gone⟩
    · rw [unmade offWay, stands] at same
      exact absurd (clean.clean place inside node same) noDirectory
    · exact gone
  · intro place offWay spared
    rcases clean.changed.node place with same | ⟨inside, noDirectory, gone⟩
    · rw [same, unmade offWay]
    · rw [unmade offWay] at noDirectory
      cases stands : tree.find? place with
      | none => exact gone
      | some node =>
          refine absurd ⟨inside, node, stands, ?_⟩ spared
          rintro rfl
          exact noDirectory stands

/-- Directories inside the scratch directory stay, with all that is below them. -/
theorem Tidied.subdirectory {dir : Place} {before after : FileTree}
    (tidied : Tidied dir before after) {name : String}
    (directory : before.find? (dir ++ [name]) = some .directory) (below : List String)
    : after.find? (dir ++ name :: below) = before.find? (dir ++ name :: below) := by
  refine tidied.kept _ not_above_of_below ?_
  rintro ⟨⟨other, _, same⟩, node, stands, noDirectory⟩
  obtain ⟨rfl, rfl⟩ : name = other ∧ below = [] := by simpa using same
  exact noDirectory (Option.some.inj (stands.symm.trans directory))

/-- What was there before a reset stays, unless it is to be removed. -/
theorem Tidied.stays {dir place : Place} {before after : FileTree}
    (tidied : Tidied dir before after) (wf : before.WellFormed)
    (there : before.find? dir = some .directory) (spared : ¬Leftover before dir place)
    : after.find? place = before.find? place := by
  by_cases above : place <+: dir
  · rw [tidied.way place above, wf.directory_above there above]
  · exact tidied.kept place above spared

-----------------------------------------------------------------------------------------
-- A second reset
-----------------------------------------------------------------------------------------

/-- Nothing is changed if no entry is to be removed, by induction over the entries. -/
theorem clear_eq_self {dir : String} {tree : FileTree} {entries : List Entry}
    (spared : ∀ entry ∈ entries, isLeftover entry = false)
    : clear dir tree entries = (tree, none) := by
  induction entries with
  | nil => rfl
  | cons entry rest ih =>
      rw [clear, spared entry (by simp)]
      exact ih fun other member => spared other (by simp [member])

/-- A second reset does not fail and changes nothing. -/
theorem reset_again {tree after : FileTree} {scratch : String} (wf : tree.WellFormed)
    (straight : Straight tree scratch) (cleared : reset tree scratch = (after, none))
    : reset after scratch = (after, none) := by
  obtain ⟨accepted, made, paved, found, clean, _⟩ := reset_cleared wf straight cleared
  have home : made.home = tree.home := paved.changed.home
  rw [← home] at found clean
  have straight' : Straight after scratch :=
    straight_of_changed (paved.straight straight) clean.alters
  have found' : after.find? (placeOf after.home scratch) = some .directory := by
    rw [clean.changed.home]
    exact (find?_directory_iff clean.alters _).mpr found
  rw [reset_eq_clear clean.wellFormed straight' accepted found']
  apply clear_eq_self
  intro entry member
  obtain ⟨node, stands, told⟩ := (mem_entriesAt_iff clean.wellFormed.distinct).mp member
  by_contra leftover
  rw [Bool.not_eq_false, isLeftover_iff] at leftover
  obtain ⟨noDirectory, other⟩ := leftover
  rw [clean.changed.home] at stands
  have directory := clean.clean _ ⟨entry.name, other, rfl⟩ node stands
  simp [told, directory] at noDirectory

-----------------------------------------------------------------------------------------
-- Something in the way
-----------------------------------------------------------------------------------------

/-- Something other than a directory stands at a place or on the way to it. -/
def Blocked (tree : FileTree) (dir : Place) : Prop :=
  ∃ place node, place <+: dir ∧ tree.find? place = some node ∧ node ≠ .directory

/-- No directory stands behind what is in the way. -/
theorem Blocked.not_directory {tree : FileTree} {dir : Place} (blocked : Blocked tree dir)
    (wf : tree.WellFormed)
    : tree.find? dir ≠ some .directory := by
  obtain ⟨place, node, above, stands, noDirectory⟩ := blocked
  intro found
  rw [wf.directory_above found above] at stands
  exact noDirectory (Option.some.inj stands).symm

/-- No directories are made if something is in the way: those before it are there, and those
behind it cannot be made.
-/
theorem Blocked.unpaved {path : String} {before after : FileTree}
    (blocked : Blocked before (placeOf before.home path)) (wf : before.WellFormed)
    (paved : Paved path before after) (place : Place)
    : after.find? place = before.find? place := by
  rcases paved.changed.node place with same | ⟨onWay, missing, made⟩
  · exact same
  · exfalso
    obtain ⟨obstacle, node, above, stands, noDirectory⟩ := blocked
    have stays : after.find? obstacle = some node := by
      rcases paved.changed.node obstacle with same | ⟨_, missing, _⟩
      · rw [same, stands]
      · rw [stands] at missing
        cases missing
    rcases List.prefix_or_prefix_of_prefix above onWay with before' | behind
    · rw [paved.wellFormed.directory_above made before'] at stays
      exact noDirectory (Option.some.inj stays).symm
    · obtain ⟨more, rfl⟩ := behind
      by_cases same : more = []
      · simp [same, missing] at stands
      · rw [wf.above stands same] at missing
        cases missing

/-- Nothing is taken away where no directory stands. -/
theorem Swept.unswept {dir : Place} {before after : FileTree} (swept : Swept dir before after)
    (wf : before.WellFormed) (noDirectory : before.find? dir ≠ some .directory) (place : Place)
    : after.find? place = before.find? place := by
  rcases swept.changed.node place with same | ⟨⟨name, _, rfl⟩, _, gone⟩
  · exact same
  · cases stands : before.find? (dir ++ [name]) with
    | none => exact gone
    | some node => exact absurd (wf.above stands (by simp)) noDirectory

/-- A reset fails if something other than a directory is in the way, and changes nothing. -/
theorem reset_blocked {tree : FileTree} {scratch : String} (wf : tree.WellFormed)
    (straight : Straight tree scratch) (blocked : Blocked tree (placeOf tree.home scratch))
    : (∃ fault, (reset tree scratch).2 = some fault ∧ fault.has .filesystem = true)
      ∧ ∀ place, (reset tree scratch).1.find? place = tree.find? place := by
  obtain ⟨made, paved, swept⟩ := reset_swept wf straight
  have unpaved := blocked.unpaved wf paved
  have noDirectory : made.find? (placeOf tree.home scratch) ≠ some .directory := by
    rw [unpaved]
    exact blocked.not_directory wf
  constructor
  · cases outcome : reset tree scratch with
    | mk after fault =>
        cases fault with
        | some fault => exact ⟨fault, rfl, has_filesystem_of_reset (congrArg Prod.snd outcome)⟩
        | none =>
            -- A reset that does not fail leaves a directory, and taking away leaves none there.
            exfalso
            rw [outcome] at swept
            exact noDirectory ((find?_directory_iff swept.alters _).mp
              ((tidied_of_reset wf straight outcome).way _ List.prefix_rfl))
  · intro place
    rw [swept.unswept paved.wellFormed noDirectory, unpaved]

/-- A reset that does not fail leaves the scratch directory there. Of what stands directly inside
it, only directories and the placeholder are left, the placeholder as it was and the directories
with all that was below them. Links other than the placeholder are gone, whatever they led to, and
what they led to is as it was, with all below it, unless it is itself to be removed. Nothing else
changes, but for directories made on the way. A second reset does not fail and changes nothing. A
reset fails with a failure of the file system and changes nothing if something other than a
directory stands there or on the way. The path of the scratch directory is in its cleaned form and
goes through no link.
-/
theorem reset_postcondition {tree : FileTree} {scratch : String} (wf : tree.WellFormed)
    (straight : Straight tree scratch)
    : (∀ after,
        reset tree scratch = (after, none)
        → after.find? (placeOf tree.home scratch) = some .directory
          ∧ (∀ name node,
              node ≠ .directory
              → (after.find? (placeOf tree.home scratch ++ [name]) = some node
                ↔ name = placeholder
                  ∧ tree.find? (placeOf tree.home scratch ++ [name]) = some node))
          ∧ (∀ name below,
              tree.find? (placeOf tree.home scratch ++ [name]) = some .directory
              → after.find? (placeOf tree.home scratch ++ name :: below)
                = tree.find? (placeOf tree.home scratch ++ name :: below))
          ∧ (∀ name target,
              name ≠ placeholder
              → tree.find? (placeOf tree.home scratch ++ [name]) = some (.link target)
              → after.find? (placeOf tree.home scratch ++ [name]) = none
                ∧ ∀ links place below,
                    tree.walk true links (startOf (placeOf tree.home scratch) target)
                        (stepsOf target)
                      = .ok place
                    → ¬Leftover tree (placeOf tree.home scratch) (place ++ below)
                    → after.find? (place ++ below) = tree.find? (place ++ below))
          ∧ (∀ place,
              ¬place <+: placeOf tree.home scratch
              → ¬Leftover tree (placeOf tree.home scratch) place
              → after.find? place = tree.find? place)
          ∧ reset after scratch = (after, none))
      ∧ (Blocked tree (placeOf tree.home scratch)
        → (∃ fault, (reset tree scratch).2 = some fault ∧ fault.has .filesystem = true)
          ∧ ∀ place, (reset tree scratch).1.find? place = tree.find? place) := by
  refine ⟨fun after cleared => ?_, reset_blocked wf straight⟩
  have tidied := tidied_of_reset wf straight cleared
  refine ⟨tidied.way _ List.prefix_rfl, ?_, ?_, ?_, tidied.kept, reset_again wf straight cleared⟩
  · intro name node noDirectory
    exact find?_reset_iff wf straight cleared name noDirectory
  · intro name below directory
    exact tidied.subdirectory directory below
  · intro name target other linked
    refine ⟨tidied.gone _ ⟨⟨name, other, rfl⟩, _, linked, by simp⟩, ?_⟩
    intro links place below _ spared
    exact tidied.stays wf (wf.above linked (by simp)) spared

/-- A scratch directory with its placeholder, a directory, an output, and links to a directory, to a
file and to nothing.
-/
def litteredTree : FileTree where
  nodes :=
    [(["v"], .directory), (["v", "a.v"], .file [65] 0o644), (["s"], .directory),
      (["s", ".keep"], .file [66] 0o644), (["s", "sub"], .directory),
      (["s", "sub", "b"], .file [67] 0o644), (["s", "o"], .file [68] 0o644),
      (["s", "d"], .link "../v"), (["s", "f"], .link "../v/a.v"), (["s", "x"], .link "../w")]
  home := []

/-- The same without the output and the links. -/
def tidyTree : FileTree where
  nodes :=
    [(["v"], .directory), (["v", "a.v"], .file [65] 0o644), (["s"], .directory),
      (["s", ".keep"], .file [66] 0o644), (["s", "sub"], .directory),
      (["s", "sub", "b"], .file [67] 0o644)]
  home := []

/-- A reset removes the output and the links, but not the program behind the link to its directory;
a second one has nothing to do. No directory is made behind the program.
-/
theorem reset_postcondition_litteredTree
    : litteredTree.WellFormed
      ∧ Straight litteredTree "s"
      ∧ reset litteredTree "s" = (tidyTree, none)
      ∧ tidyTree.find? ["s", ".keep"] = some (.file [66] 0o644)
      ∧ tidyTree.find? ["s", "sub", "b"] = some (.file [67] 0o644)
      ∧ tidyTree.find? ["s", "d"] = none
      ∧ tidyTree.find? ["v", "a.v"] = some (.file [65] 0o644)
      ∧ reset tidyTree "s" = (tidyTree, none)
      ∧ Straight litteredTree "v/a.v/t"
      ∧ ∃ fault,
          (reset litteredTree "v/a.v/t").2 = some fault ∧ fault.has .filesystem = true := by
  have wf : litteredTree.WellFormed := by decide
  have straight : Straight litteredTree "s" := by decide
  have through : Straight litteredTree "v/a.v/t" := by decide
  have cleared : reset litteredTree "s" = (tidyTree, none) := by cbv
  have dir : placeOf litteredTree.home "s" = ["s"] := by decide
  have target : litteredTree.walk true linkLimit (startOf ["s"] "../v") (stepsOf "../v")
      = .ok ["v"] := by
    have steps : stepsOf "../v" = ["..", "v"] := by decide
    have start : startOf ["s"] "../v" = ["s"] := by decide
    rw [steps, start]
    cbv
  have outside : ¬Leftover litteredTree ["s"] ["v", "a.v"] := by
    rintro ⟨⟨name, _, same⟩, _⟩
    exact absurd (congrArg List.head? same) (by simp)
  have blocked : Blocked litteredTree (placeOf litteredTree.home "v/a.v/t") :=
    ⟨["v", "a.v"], .file [65] 0o644, by decide, by decide, by decide⟩
  have post := (reset_postcondition wf straight).1 tidyTree cleared
  rw [dir] at post
  obtain ⟨_, placeholder, directories, links, _, again⟩ := post
  obtain ⟨gone, spared⟩ := links "d" "../v" (by decide) (by decide)
  exact ⟨wf, straight, cleared,
    (placeholder ".keep" (.file [66] 0o644) (by decide)).mpr ⟨rfl, by decide⟩,
    directories "sub" ["b"] (by decide), gone, spared linkLimit ["v"] ["a.v"] target outside, again,
    through, ((reset_postcondition wf through).2 blocked).1⟩

end GoldenSuite.Scratch

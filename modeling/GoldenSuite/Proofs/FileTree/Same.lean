import GoldenSuite.Proofs.FileTree.Walking
import GoldenSuite.Proofs.FileTree.WellFormed

/-! Trees with the same nodes. They may be kept in another order, but no request can tell: paths
lead to the same places, the same is read there, and changes lead to trees with the same nodes
again.
-/

namespace GoldenSuite.FileTree

/-- Two trees have the same nodes, and relative paths start at the same place. -/
structure Same (left right : FileTree) : Prop where
  home : left.home = right.home
  node : ∀ place, left.find? place = right.find? place

/-- Having the same nodes does not depend on the order. -/
theorem Same.symm {left right : FileTree} (same : Same left right) : Same right left :=
  ⟨same.home.symm, fun place => (same.node place).symm⟩

/-- The same node is put. -/
theorem Same.put {left right : FileTree} (same : Same left right) (place : Place) (node : Node)
    : Same (left.put place node) (right.put place node) := by
  refine ⟨same.home, fun other => ?_⟩
  by_cases root : other = []
  · rw [root, find?_nil, find?_nil]
  · by_cases own : other = place
    · subst own
      rw [find?_put_self root, find?_put_self root]
    · rw [find?_put_of_ne own, find?_put_of_ne own, same.node other]

-----------------------------------------------------------------------------------------
-- Looking
-----------------------------------------------------------------------------------------

/-- A walk asks for nothing but nodes, by induction over it. -/
theorem Same.walk {left right : FileTree} (same : Same left right) (follow : Bool) (links : Nat)
    (dir : Place) (steps : List String)
    : left.walk follow links dir steps = right.walk follow links dir steps := by
  fun_induction left.walk follow links dir steps with
  | case1 links dir => rw [FileTree.walk]
  | case2 links dir rest ih => rw [FileTree.walk, if_pos rfl, ih]
  | case3 links dir rest notDot ih => rw [FileTree.walk, if_neg notDot, if_pos rfl, ih]
  | case4 links dir name rest notDot notDots long =>
      rw [FileTree.walk, if_neg notDot, if_neg notDots, if_pos long]
  | case5 links dir name rest notDot notDots short next found ended
  | case6 links dir name rest notDot notDots short next found goesOn
  | case8 links dir name rest notDot notDots short next target found ended
  | case9 dir name rest notDot notDots short next target found goesOn
  | case11 links dir name rest notDot notDots short next node notDirectory notLink found ended
  | case12 links dir name rest notDot notDots short next node notDirectory notLink found goesOn =>
      rw [same.node] at found
      rw [FileTree.walk, if_neg notDot, if_neg notDots, if_neg short]
      simp_all [next]
  | case7 links dir name rest notDot notDots short next found ih =>
      rw [same.node] at found
      rw [FileTree.walk, if_neg notDot, if_neg notDots, if_neg short, ih]
      simp only [next] at found
      simp only [found, next]
  | case10 dir name rest notDot notDots short next target found goesOn fewer ih =>
      rw [same.node] at found
      rw [FileTree.walk, if_neg notDot, if_neg notDots, if_neg short, ih]
      simp only [next] at found
      simp only [found, goesOn, Bool.false_eq_true, if_false]

/-- Paths lead to the same places. -/
theorem Same.locate {left right : FileTree} (same : Same left right) (follow : Bool)
    (path : String)
    : left.locate follow path = right.locate follow path := by
  rw [FileTree.locate, FileTree.locate, same.home, same.walk]

/-- Paths lead to the same nodes. -/
theorem Same.look {left right : FileTree} (same : Same left right) (follow : Bool) (path : String)
    : left.look follow path = right.look follow path := by
  simp only [FileTree.look, same.locate, same.node]

/-- Directories are found at the same paths. -/
theorem Same.isDirectoryAt {left right : FileTree} (same : Same left right) (follow : Bool)
    (path : String)
    : left.isDirectoryAt follow path = right.isDirectoryAt follow path := by
  rw [FileTree.isDirectoryAt, FileTree.isDirectoryAt, same.look]

/-- The same is opened. -/
theorem Same.openPath {left right : FileTree} (same : Same left right) (path : String)
    : left.openPath path = right.openPath path := by
  rw [FileTree.openPath, FileTree.openPath, same.look]

/-- The same is read. -/
theorem Same.readFile {left right : FileTree} (same : Same left right) (path : String)
    : left.readFile path = right.readFile path := by
  rw [FileTree.readFile, FileTree.readFile, same.openPath]

/-- The same is listed, if no place has two nodes. -/
theorem Same.readDir {left right : FileTree} (same : Same left right) (hl : left.WellFormed)
    (hr : right.WellFormed) (path : String)
    : left.readDir path = right.readDir path := by
  have listings (place : Place) : left.entriesAt place = right.entriesAt place :=
    entriesAt_congr hl.distinct hr.distinct fun name => same.node _
  simp only [FileTree.readDir, same.look, listings]

-----------------------------------------------------------------------------------------
-- Changing
-----------------------------------------------------------------------------------------

/-- Two requests are refused alike, or lead to trees with the same nodes. -/
inductive SameAnswer {ε : Type} : Except ε FileTree → Except ε FileTree → Prop
  | ok {left right : FileTree} (same : Same left right) : SameAnswer (.ok left) (.ok right)
  | error (cause : ε) : SameAnswer (.error cause) (.error cause)

/-- Writing a file leads to the same nodes. -/
theorem Same.writeFile {left right : FileTree} (same : Same left right) (path : String)
    (data : Bytes)
    : SameAnswer (left.writeFile path data) (right.writeFile path data) := by
  simp only [FileTree.writeFile, same.locate, same.node]
  split
  · exact .error _
  · split
    · exact .ok (same.put _ _)
    · exact .ok (same.put _ _)
    · exact .error _
    · exact .ok same
    · exact .error _

/-- Making a directory leads to the same nodes. -/
theorem Same.mkdir {left right : FileTree} (same : Same left right) (path : String)
    : SameAnswer (left.mkdir path) (right.mkdir path) := by
  simp only [FileTree.mkdir, same.locate, same.node]
  split
  · exact .error _
  · split
    · exact .ok (same.put _ _)
    · exact .error _

/-- Making a directory that is missing leads to the same nodes. -/
theorem Same.ensureDirectory {left right : FileTree} (same : Same left right) (path : String)
    : SameAnswer (left.ensureDirectory path) (right.ensureDirectory path) := by
  simp only [FileTree.ensureDirectory, same.look, same.isDirectoryAt]
  split
  · exact .ok same
  · exact .error _
  · have made := same.mkdir path
    generalize left.mkdir path = first at made ⊢
    generalize right.mkdir path = second at made ⊢
    cases made with
    | ok same => exact .ok same
    | error cause =>
        dsimp only
        split
        · exact .ok same
        · exact .error _

/-- Making directories one after the other leads to the same nodes, by induction over them. -/
theorem Same.ensureDirectories {left right : FileTree} (same : Same left right)
    (paths : List String)
    : Same (left.ensureDirectories paths).1 (right.ensureDirectories paths).1
      ∧ (left.ensureDirectories paths).2 = (right.ensureDirectories paths).2 := by
  induction paths generalizing left right with
  | nil => exact ⟨same, rfl⟩
  | cons path rest ih =>
      have made := same.ensureDirectory path
      unfold FileTree.ensureDirectories
      generalize left.ensureDirectory path = first at made ⊢
      generalize right.ensureDirectory path = second at made ⊢
      cases made with
      | ok same => exact ih same
      | error cause => exact ⟨same, rfl⟩

/-- Making a directory and those on the way leads to the same nodes. -/
theorem Same.mkdirAll {left right : FileTree} (same : Same left right) (path : String)
    : Same (left.mkdirAll path).1 (right.mkdirAll path).1
      ∧ (left.mkdirAll path).2 = (right.mkdirAll path).2 :=
  same.ensureDirectories _

end GoldenSuite.FileTree

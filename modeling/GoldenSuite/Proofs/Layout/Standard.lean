import GoldenSuite.Command.Settings
import GoldenSuite.Proofs.Path.Cleaning
import GoldenSuite.Proofs.Run.Keeping
import Mathlib

/-! Standard layouts. Whatever the text of a tests directory, the four directories of its layout are
siblings right below it, so none of them holds another, and no output of a case takes the path of
something that a case reads.
-/

namespace GoldenSuite

-----------------------------------------------------------------------------------------
-- Parents
-----------------------------------------------------------------------------------------

namespace Path

/-- The directory of a path, worked out from the text alone: what stands up to the last slash,
cleaned.
-/
def parent (path : String) : String :=
  clean (String.ofList (path.toList.reverse.dropWhile (· ≠ '/')).reverse)

/-- A path lies at or below another, told by the texts alone: both start at the same point, and the
names of the inner one go on with plain ones.
-/
def Contains (outer inner : String) : Prop :=
  isRooted inner = isRooted outer
  ∧ ∃ below, (∀ name ∈ below, IsPlain name) ∧ cleanNames inner = cleanNames outer ++ below

/-- A closing slash does not matter when a path is cleaned. -/
theorem clean_append_slash {path : String} (nonempty : path ≠ "")
    : clean (path ++ "/") = clean path := by
  have rooted : isRooted (path ++ "/") = isRooted path := by
    simpa using isRooted_append nonempty ""
  have same : names (path ++ "/") = names path := by
    have nothing : names "" = [] := rfl
    simpa [nothing] using names_append_slash path ""
  rw [clean, cleanNames, rooted, same, clean, cleanNames]

/-- The text before a name that is joined to a directory is cleaned to what the directory is
cleaned to.
-/
theorem clean_leadOf (dir : String) : clean (leadOf dir) = clean dir := by
  by_cases empty : dir = ""
  · rw [leadOf, if_pos empty, empty]
  · rw [leadOf, if_neg empty]
    by_cases none : cleanNames dir = []
    · rw [clean.eq_def dir, none]
      cases isRooted dir <;> rfl
    · have text : lead (isRooted dir) (cleanNames dir) = clean dir ++ "/" := by
        rw [clean]
        cases isRooted dir <;> simp [lead, render, none, String.append_assoc]
      rw [text, clean_append_slash (clean_ne_empty dir), clean_clean]

/-- The text before a joined name is empty or ends in a slash. -/
theorem leadOf_eq_empty_or (dir : String)
    : leadOf dir = "" ∨ (leadOf dir).toList.getLast? = some '/' := by
  unfold leadOf lead
  split
  · exact .inl rfl
  · cases isRooted dir <;> by_cases none : cleanNames dir = []
      <;> simp [none, List.getLast?_cons]

/-- A plain name stands right below the directory that it is joined to. -/
theorem parent_join (dir : String) {name : String} (plain : IsPlain name)
    : parent (join dir name) = clean dir := by
  have skipped : ∀ c ∈ name.toList.reverse, decide (c ≠ '/') = true := by
    intro c member
    have other : c ≠ '/' := fun same => plain.unslashed (by simpa [same] using member)
    simpa using other
  have kept : ((leadOf dir).toList.reverse.dropWhile (· ≠ '/')).reverse = (leadOf dir).toList := by
    rcases leadOf_eq_empty_or dir with empty | slash
    · simp [empty]
    · obtain ⟨front, text⟩ := List.getLast?_eq_some_iff.mp slash
      simp [text]
  rw [parent, join_plain dir plain, String.toList_append, List.reverse_append,
    List.dropWhile_append_of_pos skipped, kept, String.ofList_toList, clean_leadOf]

/-- The names of a joined path are those that are left of the directory, and the name. -/
theorem cleanNames_join (dir : String) {name : String} (plain : IsPlain name)
    : cleanNames (join dir name) = cleanNames dir ++ [name] := by
  by_cases empty : dir = ""
  · subst empty
    rw [join, if_pos rfl, if_neg plain.nonempty, cleanNames_clean, cleanNames,
      names_of_isName plain.isName]
    simp [pushName, plain.notSelf, plain.notParent, cleanNames, names, segments]
  · rw [join, if_neg empty, cleanNames_clean, cleanNames_append_plain empty plain]

/-- Of two names in one directory neither holds the other. -/
theorem eq_of_contains_join {dir left right : String} (hl : IsPlain left) (hr : IsPlain right)
    (contains : Contains (join dir left) (join dir right))
    : left = right := by
  obtain ⟨_, below, _, same⟩ := contains
  rw [cleanNames_join dir hl, cleanNames_join dir hr, List.append_assoc] at same
  have heads := List.append_cancel_left same
  simp only [List.cons_append, List.nil_append, List.cons.injEq] at heads
  exact heads.1.symm

end Path

-----------------------------------------------------------------------------------------
-- The files of cases
-----------------------------------------------------------------------------------------

namespace Discovery

/-- The entries of a directory of a well-formed tree have plain names. -/
theorem Listed.isPlain {tree : FileTree} {dir : String} {entries : List FileTree.Entry}
    {entry : FileTree.Entry} (listed : Listed tree dir entries) (wf : tree.WellFormed)
    (member : entry ∈ entries)
    : Path.IsPlain entry.name := by
  rcases listed.read with read | ⟨rfl, _⟩
  · unfold FileTree.readDir at read
    split at read
    · cases read
    · obtain rfl := Except.ok.inj read
      obtain ⟨node, stands, _⟩ := (FileTree.mem_entriesAt_iff wf.distinct).mp member
      exact wf.plain stands entry.name (by simp)
    · cases read
  · exact absurd member List.not_mem_nil

/-- The files of a discovered case stand right below the directories of the layout. -/
structure Housed (layout : Layout) (tc : TestCase) : Prop where
  program : Path.parent tc.program = Path.clean layout.programs
  input : tc.input ≠ "" → Path.parent tc.input = Path.clean layout.inputs
  reference : Path.parent tc.reference = Path.clean layout.references
  actual : Path.parent tc.actual = Path.clean layout.scratch
  written : tc.actual ≠ ""

/-- Discovered cases are housed: all their files have plain names, which are joined to the
directories of the layout.
-/
theorem housed_of_discover {tree : FileTree} {layout : Layout} {selects : String → Bool}
    {cases : List TestCase} (wf : tree.WellFormed)
    (found : discover tree layout selects = .ok cases)
    : ∀ tc ∈ cases, Housed layout tc := by
  obtain ⟨programs, inputs, listedPrograms, listedInputs, rfl⟩ := exists_listings wf found
  intro tc member
  have described : Described layout programs inputs tc :=
    mem_casesIn.mp (List.mem_filter.mp member).1
  have plain := described.plain listedPrograms listedInputs
  have reference : Path.parent tc.reference = Path.clean layout.references := by
    rw [described.paths.2.2, Path.parent_join _ plain]
  have actual : Path.parent tc.actual = Path.clean layout.scratch := by
    rw [described.paths.2.1, Path.parent_join _ plain]
  have written : tc.actual ≠ "" := by
    rw [described.paths.2.1]
    exact Path.join_plain_ne_empty _ plain
  cases described with
  | withInput isInput longest =>
      exact ⟨Path.parent_join _ (listedPrograms.isPlain wf longest.member.2),
        fun _ => Path.parent_join _ (listedInputs.isPlain wf isInput.2), reference, actual, written⟩
  | withoutInput isProgram _ =>
      exact ⟨Path.parent_join _ (listedPrograms.isPlain wf isProgram.2),
        fun some => absurd rfl some, reference, actual, written⟩

/-- No output of a case takes the path of something that a case reads, if the scratch directory is
none of the other directories.
-/
theorem Housed.actual_ne {layout : Layout} {tc other : TestCase} (housed : Housed layout tc)
    (housed' : Housed layout other)
    (programs : Path.clean layout.scratch ≠ Path.clean layout.programs)
    (inputs : Path.clean layout.scratch ≠ Path.clean layout.inputs)
    (references : Path.clean layout.scratch ≠ Path.clean layout.references)
    : tc.actual ≠ other.reference ∧ tc.actual ≠ other.input ∧ tc.actual ≠ other.program := by
  refine ⟨fun same => references ?_, fun same => inputs ?_, fun same => programs ?_⟩
  · rw [← housed.actual, same, housed'.reference]
  · rw [← housed.actual, same, housed'.input (same ▸ housed.written)]
  · rw [← housed.actual, same, housed'.program]

end Discovery

-----------------------------------------------------------------------------------------
-- Standard layouts
-----------------------------------------------------------------------------------------

namespace Layout

/-- The directories of a layout. -/
def directories (layout : Layout) : List String :=
  [layout.programs, layout.inputs, layout.references, layout.scratch]

/-- The names that the directories of a standard layout have in the tests directory. -/
def standardNames : List String := ["v", "input", "output", "our"]

theorem directories_under (dir : String)
    : (under dir).directories = standardNames.map (Path.join dir) :=
  rfl

theorem isPlain_of_mem_standardNames {name : String} (member : name ∈ standardNames)
    : Path.IsPlain name := by
  revert name
  decide

/-- Of the directories of a standard layout none is another one or holds it. -/
theorem directories_under_pairwise (dir : String)
    : (under dir).directories.Pairwise fun left right =>
        left ≠ right ∧ ¬Path.Contains left right ∧ ¬Path.Contains right left := by
  have distinct : standardNames.Pairwise fun left right => left ≠ right := by decide
  rw [directories_under, List.pairwise_map]
  refine distinct.imp_of_mem ?_
  intro left right leftMember rightMember different
  have hl := isPlain_of_mem_standardNames leftMember
  have hr := isPlain_of_mem_standardNames rightMember
  exact ⟨fun same => different (Path.join_injective hl hr same),
    fun contains => different (Path.eq_of_contains_join hl hr contains),
    fun contains => different (Path.eq_of_contains_join hr hl contains).symm⟩

/-- The scratch directory of a standard layout is none of the others, also when both are cleaned. -/
theorem clean_scratch_ne (dir : String) {name : String} (member : name ∈ standardNames)
    (other : "our" ≠ name)
    : Path.clean (under dir).scratch ≠ Path.clean (Path.join dir name) := by
  have our : Path.IsPlain "our" := by decide
  have plain := isPlain_of_mem_standardNames member
  have scratch : Path.clean (under dir).scratch = Path.join dir "our" := Path.clean_join dir our
  rw [scratch, Path.clean_join dir plain]
  exact fun same => other (Path.join_injective our plain same)

/-- A layout without empty directories is not refused for one. -/
theorem invalid?_ne_emptyDirectory {config : Config}
    (nonempty : ∀ path ∈ config.layout.directories, path ≠ "")
    : config.invalid? ≠ some .emptyDirectory := by
  simp only [directories, List.forall_mem_cons] at nonempty
  obtain ⟨programs, inputs, references, scratch, _⟩ := nonempty
  simp only [Config.invalid?, programs, inputs, references, scratch, decide_false, Bool.or_self,
    Bool.false_eq_true, if_false]
  split_ifs <;> simp

/-- Standard layouts never overlap. The directories below a tests directory of any text are not
empty, cleaned, and right below what the text is cleaned to; none of them is another one or holds
it. A configuration with a tests directory has this layout, whatever its extension, and is not
refused for its directories. The outputs of cases of such a layout take no path of a reference, an
input or a program.
-/
theorem under_separate (dir : String)
    : (∀ path ∈ (under dir).directories,
        path ≠ "" ∧ Path.clean path = path ∧ Path.parent path = Path.clean dir)
      ∧ ((under dir).directories.Pairwise fun left right =>
        left ≠ right ∧ ¬Path.Contains left right ∧ ¬Path.Contains right left)
      ∧ (∀ (settings : Settings) (below : Config),
          settings.testsDir = some dir
          → (settings.applyTo below).layout
              = { under dir with programExt := below.layout.programExt }
            ∧ (settings.applyTo below).invalid? ≠ some .emptyDirectory)
      ∧ ∀ ext tree selects cases,
          FileTree.WellFormed tree
          → Discovery.discover tree { under dir with programExt := ext } selects = .ok cases
          → ∀ tc ∈ cases,
              ∀ other ∈ cases,
                tc.actual ≠ other.reference
                ∧ tc.actual ≠ other.input
                ∧ tc.actual ≠ other.program := by
  have sound : ∀ path ∈ (under dir).directories,
      path ≠ "" ∧ Path.clean path = path ∧ Path.parent path = Path.clean dir := by
    rw [directories_under]
    intro path member
    obtain ⟨name, listed, rfl⟩ := List.mem_map.mp member
    have plain := isPlain_of_mem_standardNames listed
    exact ⟨Path.join_plain_ne_empty dir plain, Path.clean_join dir plain,
      Path.parent_join dir plain⟩
  refine ⟨sound, directories_under_pairwise dir, ?_, ?_⟩
  · intro settings below given
    have layout : (settings.applyTo below).layout
        = { under dir with programExt := below.layout.programExt } := by
      simp [Settings.applyTo, Settings.layoutFrom, given]
    refine ⟨layout, invalid?_ne_emptyDirectory ?_⟩
    rw [layout]
    exact fun path member => (sound path member).1
  · intro ext tree selects cases wf found tc member other member'
    have housed := Discovery.housed_of_discover wf found
    exact (housed tc member).actual_ne (housed other member')
      (clean_scratch_ne dir (by decide) (by decide))
      (clean_scratch_ne dir (by decide) (by decide))
      (clean_scratch_ne dir (by decide) (by decide))

/-- A suite right where relative paths start, with a program and an input for it. -/
def homeSuite : FileTree where
  nodes :=
    [(["v"], .directory), (["v", "a.v"], .file [] 0o644), (["input"], .directory),
      (["input", "a.txt"], .file [] 0o644)]
  home := []

/-- Settings with a tests directory that leads back to where relative paths start. -/
def roundabout : Settings where
  testsDir := some "T/.."

/-- The case of the suite does not write to its own input. -/
theorem under_separate_roundabout
    : (roundabout.testsDir = some "T/.." ∧ homeSuite.WellFormed)
      ∧ (roundabout.applyTo .default).invalid? ≠ some .emptyDirectory
      ∧ ∃ cases,
          Discovery.discover homeSuite (roundabout.applyTo .default).layout (fun _ => true)
            = .ok cases
          ∧ (∃ tc ∈ cases, tc.base = "a")
          ∧ ∀ tc ∈ cases, tc.actual ≠ tc.input := by
  have wf : homeSuite.WellFormed := by decide
  obtain ⟨_, _, given, separate⟩ := under_separate "T/.."
  have programs : Discovery.Listed homeSuite (roundabout.applyTo .default).layout.programs
      [⟨"a.v", false⟩] :=
    ⟨Or.inl (by cbv), by decide, by decide, by decide⟩
  have inputs : Discovery.Listed homeSuite (roundabout.applyTo .default).layout.inputs
      [⟨"a.txt", false⟩] :=
    ⟨Or.inl (by cbv), by decide, by decide, by decide⟩
  have found := Discovery.discover_of_listed programs inputs (fun _ => true)
  obtain ⟨tc, described, base⟩ : ∃ tc,
      Discovery.Described (roundabout.applyTo .default).layout [⟨"a.v", false⟩]
        [⟨"a.txt", false⟩] tc
      ∧ tc.base = "a" :=
    Discovery.exists_described_of_program (by decide)
  refine ⟨⟨rfl, wf⟩, (given roundabout .default rfl).2, _, found, ⟨tc, ?_, base⟩, ?_⟩
  · exact List.mem_filter.mpr ⟨Discovery.mem_casesIn.mpr described, rfl⟩
  · intro tc member
    exact (separate ".v" _ _ _ wf found tc member tc member).2.1

end Layout

end GoldenSuite

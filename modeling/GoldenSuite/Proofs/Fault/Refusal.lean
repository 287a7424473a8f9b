import GoldenSuite.Discovery
import GoldenSuite.Scratch

/-! Requests that the system refuses, and what becomes of a refusal on the way up: a reset of the
scratch directory and a case call it a failure of the file system, discovery only says which
directory it was about to list.
-/

namespace GoldenSuite

/-- A fault that is nothing but the system's answer to a request. -/
def Fault.IsRefusal (fault : Fault) : Prop :=
  ∃ request path cause, fault = .refused request path cause

/-- A refusal carries no mark but that of what does not exist. -/
theorem Fault.IsRefusal.has_eq_false {fault : Fault} (refusal : fault.IsRefusal) {mark : Mark}
    (other : mark ≠ .notExist)
    : fault.has mark = false := by
  obtain ⟨request, path, cause, rfl⟩ := refusal
  simp [Fault.has, other]

/-- A failure of the file system around a refusal is marked as such, and carries no other mark but
that of what does not exist.
-/
theorem Fault.IsRefusal.has_filesystem {cause : Fault} (refusal : cause.IsRefusal) (doing : String)
    {mark : Mark} (other : mark ≠ .notExist)
    : (Fault.filesystem doing cause).has mark = decide (mark = .filesystem) := by
  simp [Fault.filesystem, Fault.has, refusal.has_eq_false other, eq_comm]

-----------------------------------------------------------------------------------------
-- Requests
-----------------------------------------------------------------------------------------

namespace FileTree

/-- A file is not opened only for a refusal. -/
theorem isRefusal_of_openPath {tree : FileTree} {path : String} {fault : Fault}
    (failed : tree.openPath path = .error fault)
    : fault.IsRefusal := by
  unfold openPath at failed
  split at failed
  · cases failed
    exact ⟨_, _, _, rfl⟩
  · cases failed
  · cases failed
  · cases failed

/-- A file is not read only for a refusal. -/
theorem isRefusal_of_readFile {tree : FileTree} {path : String} {fault : Fault}
    (failed : tree.readFile path = .error fault)
    : fault.IsRefusal := by
  unfold readFile at failed
  split at failed
  · rename_i cause unopened
    cases failed
    exact isRefusal_of_openPath unopened
  · cases failed
  · cases failed
    exact ⟨_, _, _, rfl⟩

/-- A file is not written only for a refusal. -/
theorem isRefusal_of_writeFile {tree : FileTree} {path : String} {data : Bytes}
    {fault : Fault} (failed : tree.writeFile path data = .error fault)
    : fault.IsRefusal := by
  unfold writeFile at failed
  split at failed
  · cases failed
    exact ⟨_, _, _, rfl⟩
  · split at failed
    · cases failed
    · cases failed
    · cases failed
      exact ⟨_, _, _, rfl⟩
    · cases failed
    · cases failed
      exact ⟨_, _, _, rfl⟩

/-- A directory is not listed only for a refusal. -/
theorem isRefusal_of_readDir {tree : FileTree} {path : String} {fault : Fault}
    (failed : tree.readDir path = .error fault)
    : fault.IsRefusal := by
  unfold readDir at failed
  split at failed
  · cases failed
    exact ⟨_, _, _, rfl⟩
  · cases failed
  · cases failed
    exact ⟨_, _, _, rfl⟩

/-- A file is not removed only for a refusal. -/
theorem isRefusal_of_remove {tree : FileTree} {path : String} {fault : Fault}
    (failed : tree.remove path = .error fault)
    : fault.IsRefusal := by
  unfold remove at failed
  split at failed
  · cases failed
    exact ⟨_, _, _, rfl⟩
  · split at failed
    · cases failed
    · cases failed
      exact ⟨_, _, _, rfl⟩
  · cases failed

/-- A directory is not made only for a refusal. -/
theorem isRefusal_of_ensureDirectory {tree : FileTree} {path : String} {fault : Fault}
    (failed : tree.ensureDirectory path = .error fault)
    : fault.IsRefusal := by
  unfold ensureDirectory at failed
  split at failed
  · cases failed
  · cases failed
    exact ⟨_, _, _, rfl⟩
  · split at failed
    · cases failed
    · split at failed
      · cases failed
      · cases failed
        exact ⟨_, _, _, rfl⟩

/-- A chain of directories is not made only for a refusal, by induction over the chain. -/
theorem isRefusal_of_ensureDirectories {tree : FileTree} {paths : List String} {fault : Fault}
    (failed : (tree.ensureDirectories paths).2 = some fault)
    : fault.IsRefusal := by
  induction paths generalizing tree with
  | nil => cases failed
  | cons path rest ih =>
      unfold ensureDirectories at failed
      split at failed
      · exact ih failed
      · rename_i cause unmade
        obtain rfl := Option.some.inj failed
        exact isRefusal_of_ensureDirectory unmade

end FileTree

-----------------------------------------------------------------------------------------
-- Resetting the scratch directory
-----------------------------------------------------------------------------------------

namespace Scratch

/-- Clearing fails only with a failure of the file system around a refusal, by induction over the
entries.
-/
theorem of_clear_failed {dir : String} {tree : FileTree} {entries : List FileTree.Entry}
    {fault : Fault} (failed : (clear dir tree entries).2 = some fault)
    : ∃ doing cause, fault = .filesystem doing cause ∧ cause.IsRefusal := by
  induction entries generalizing tree with
  | nil => cases failed
  | cons entry rest ih =>
      unfold clear at failed
      split at failed
      · split at failed
        · exact ih failed
        · rename_i cause discarded
          obtain rfl := Option.some.inj failed
          unfold discard at discarded
          split at discarded
          · cases discarded
          · rename_i refusal refused
            split at discarded
            · cases discarded
            · cases discarded
              exact ⟨_, _, rfl, FileTree.isRefusal_of_remove refused⟩
      · exact ih failed

/-- A reset fails only with a failure of the file system around a refusal. -/
theorem of_reset_failed {tree : FileTree} {dir : String} {fault : Fault}
    (failed : (reset tree dir).2 = some fault)
    : ∃ doing cause, fault = .filesystem doing cause ∧ cause.IsRefusal := by
  unfold reset at failed
  split at failed
  · rename_i made cause unmade
    obtain rfl := Option.some.inj failed
    exact ⟨_, _, rfl, FileTree.isRefusal_of_ensureDirectories (congrArg Prod.snd unmade)⟩
  · split at failed
    · rename_i cause unlisted
      obtain rfl := Option.some.inj failed
      exact ⟨_, _, rfl, FileTree.isRefusal_of_readDir unlisted⟩
    · exact of_clear_failed failed

/-- A reset fails only with a failure of the file system. -/
theorem has_filesystem_of_reset {tree : FileTree} {dir : String} {fault : Fault}
    (failed : (reset tree dir).2 = some fault)
    : fault.has .filesystem = true := by
  obtain ⟨doing, cause, rfl, _⟩ := of_reset_failed failed
  rfl

end Scratch

-----------------------------------------------------------------------------------------
-- Discovery
-----------------------------------------------------------------------------------------

namespace Discovery

/-- A directory cannot be listed, and not because it is missing. -/
def Unlistable (tree : FileTree) (dir : String) (cause : Fault) : Prop :=
  tree.readDir dir = .error cause ∧ cause.has .notExist = false

/-- The files of a directory are not found exactly when it is unlistable. -/
theorem filesWithExt_eq_error_iff {tree : FileTree} {dir ext : String} {fault : Fault}
    : filesWithExt tree dir ext = .error fault
      ↔ ∃ cause,
          Unlistable tree dir cause ∧ fault = .context ("listing " ++ dir ++ ": ") cause := by
  unfold filesWithExt Unlistable
  cases listed : tree.readDir dir with
  | ok entries => simp
  | error cause =>
      cases missing : cause.has .notExist with
      | true => simp [missing]
      | false =>
          constructor
          · intro failed
            simp only [missing] at failed
            cases failed
            exact ⟨cause, ⟨rfl, missing⟩, rfl⟩
          · rintro ⟨_, ⟨same, _⟩, rfl⟩
            cases same
            simp [missing]

/-- Discovery fails exactly when the directory of the programs or, the programs being found, that
of the inputs is unlistable.
-/
theorem discover_eq_error_iff {tree : FileTree} {layout : Layout} {selects : String → Bool}
    {fault : Fault}
    : discover tree layout selects = .error fault
      ↔ filesWithExt tree layout.programs layout.programExt = .error fault
        ∨ (∃ programs, filesWithExt tree layout.programs layout.programExt = .ok programs)
          ∧ filesWithExt tree layout.inputs textExt = .error fault := by
  unfold discover
  cases programs : filesWithExt tree layout.programs layout.programExt with
  | error cause => simp [bind, Except.bind]
  | ok found =>
      cases inputs : filesWithExt tree layout.inputs textExt with
      | error cause => simp [bind, Except.bind]
      | ok others => simp [bind, Except.bind, pure, Except.pure]

/-- Discovery fails only for a directory that is unlistable. -/
theorem of_discover_failed {tree : FileTree} {layout : Layout} {selects : String → Bool}
    {fault : Fault} (failed : discover tree layout selects = .error fault)
    : ∃ dir cause,
        (dir = layout.programs ∨ dir = layout.inputs)
        ∧ Unlistable tree dir cause
        ∧ fault = .context ("listing " ++ dir ++ ": ") cause := by
  rcases discover_eq_error_iff.mp failed with programs | ⟨_, inputs⟩
  · obtain ⟨cause, unlistable, told⟩ := filesWithExt_eq_error_iff.mp programs
    exact ⟨_, cause, Or.inl rfl, unlistable, told⟩
  · obtain ⟨cause, unlistable, told⟩ := filesWithExt_eq_error_iff.mp inputs
    exact ⟨_, cause, Or.inr rfl, unlistable, told⟩

/-- A failure of discovery is not called one of the file system. -/
theorem not_has_filesystem_of_discover {tree : FileTree} {layout : Layout}
    {selects : String → Bool} {fault : Fault}
    (failed : discover tree layout selects = .error fault)
    : fault.has .filesystem = false := by
  obtain ⟨dir, cause, _, unlistable, rfl⟩ := of_discover_failed failed
  obtain ⟨request, path, refusal, rfl⟩ := FileTree.isRefusal_of_readDir unlistable.1
  rfl

end Discovery

end GoldenSuite

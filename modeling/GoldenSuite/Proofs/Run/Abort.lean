import GoldenSuite.Proofs.Fault.Nesting
import GoldenSuite.Proofs.Fault.Refusal
import GoldenSuite.Proofs.Run.Prefix

/-! Runs that could not begin. They end with a runtime fault around what the system answered, and
without a tally. Only a failed reset is called a failure of the file system; a directory that
cannot be listed is not.
-/

namespace GoldenSuite

variable {σ : Type}

namespace Harness

/-- The fault of a run whose scratch directory could not be reset. -/
structure ResetFailure (h : Harness σ) (s : Session σ) (fault : Fault) : Prop where
  failed
    : ∃ inner,
        (Scratch.reset s.tree h.config.layout.scratch).2 = some inner ∧ fault = .runtime inner
  marked : fault.has .filesystem = true

/-- The fault of a run in which programs or inputs could not be listed, although their directory is
not missing.
-/
structure ListingFailure (h : Harness σ) (s : Session σ) (fault : Fault) : Prop where
  reset : (Scratch.reset s.tree h.config.layout.scratch).2 = none
  failed
    : ∃ dir cause,
        (dir = h.config.layout.programs ∨ dir = h.config.layout.inputs)
        ∧ Discovery.Unlistable (Scratch.reset s.tree h.config.layout.scratch).1 dir cause
        ∧ fault = .runtime (.context ("listing " ++ dir ++ ": ") cause)
  unmarked : fault.has .filesystem = false

/-- The fault of a failed reset is that of the system, marked. -/
theorem of_unreset {h : Harness σ} {s : Session σ} {tree : FileTree} {inner : Fault}
    (reset : Scratch.reset s.tree h.config.layout.scratch = (tree, some inner))
    : (∃ cause : Fault, cause.IsRefusal ∧ cause.Within (.runtime inner))
      ∧ h.ResetFailure s (.runtime inner) := by
  have failed : (Scratch.reset s.tree h.config.layout.scratch).2 = some inner :=
    congrArg Prod.snd reset
  obtain ⟨doing, cause, told, refusal⟩ := Scratch.of_reset_failed failed
  have inside : cause.Within inner := told ▸ .pairSecond .itself
  have marked : inner.has .filesystem = true := Scratch.has_filesystem_of_reset failed
  exact ⟨⟨cause, refusal, .runtime inside⟩, ⟨inner, failed, rfl⟩, marked⟩

/-- The fault of a failed discovery is that of the system, without a mark. -/
theorem of_undiscovered {h : Harness σ} {s : Session σ} {tree : FileTree} {inner : Fault}
    (reset : Scratch.reset s.tree h.config.layout.scratch = (tree, none))
    (found : Discovery.discover tree h.config.layout h.selects = .error inner)
    : (∃ cause : Fault, cause.IsRefusal ∧ cause.Within (.runtime inner))
      ∧ h.ListingFailure s (.runtime inner) := by
  obtain ⟨dir, cause, which, unlistable, told⟩ := Discovery.of_discover_failed found
  have inside : cause.Within inner := told ▸ .context .itself
  have unmarked : inner.has .filesystem = false := Discovery.not_has_filesystem_of_discover found
  refine ⟨⟨cause, FileTree.isRefusal_of_readDir unlistable.1, .runtime inside⟩, ?_⟩
  exact {
    reset := congrArg Prod.snd reset
    failed := ⟨dir, cause, which, by rw [reset]; exact unlistable, by rw [told]⟩
    unmarked := unmarked
  }

/-- A run that has begun has a tally, and no fault but the request to stop. -/
theorem ending_fault (h : Harness σ) (outcome : Session σ × Tally × Bool)
    : (h.ending outcome).tally ≠ none
      ∧ ((h.ending outcome).fault = none ∨ (h.ending outcome).fault = some (.mark .canceled)) := by
  obtain ⟨s, tally, cut⟩ := outcome
  cases cut with
  | true => simp [ending]
  | false => simp [ending]

/-- Runs that could not begin. If a run ends with a fault other than the request to stop, then there
is no tally, and the fault is a runtime fault around the system's refusal. It carries the mark of
the file system if the scratch directory could not be reset, and does not carry it if a directory
could not be listed; the directory is not missing then. A run whose scratch directory is reset and
whose directories can be listed or are missing has a tally.
-/
theorem run_abort_cause (h : Harness σ) (s : Session σ)
    : (∀ fault,
        (h.run s).fault = some fault
        → fault ≠ .mark .canceled
        → (h.run s).tally = none
          ∧ fault.isRuntime = true
          ∧ (∃ cause : Fault, cause.IsRefusal ∧ cause.Within fault)
          ∧ (h.ResetFailure s fault ∨ h.ListingFailure s fault))
      ∧ ((Scratch.reset s.tree h.config.layout.scratch).2 = none
        → (∀ dir cause,
            dir = h.config.layout.programs ∨ dir = h.config.layout.inputs
            → ¬Discovery.Unlistable (Scratch.reset s.tree h.config.layout.scratch).1 dir cause)
        → (h.run s).tally ≠ none
          ∧ ((h.run s).fault = none ∨ (h.run s).fault = some (.mark .canceled))) := by
  have course := h.run_course s
  generalize h.run s = out at course ⊢
  cases course with
  | @unreset tree inner reset =>
      refine ⟨?_, ?_⟩
      · rintro _ ⟨⟩ _
        obtain ⟨refusal, failure⟩ := of_unreset reset
        exact ⟨rfl, rfl, refusal, Or.inl failure⟩
      · intro fine
        rw [reset] at fine
        cases fine
  | @undiscovered tree inner reset found =>
      refine ⟨?_, ?_⟩
      · rintro _ ⟨⟩ _
        obtain ⟨refusal, failure⟩ := of_undiscovered reset found
        exact ⟨rfl, rfl, refusal, Or.inr failure⟩
      · intro _ listable
        obtain ⟨dir, cause, which, unlistable, _⟩ := Discovery.of_discover_failed found
        rw [reset] at listable
        exact absurd unlistable (listable dir cause which)
  | @ran tree cases reset found =>
      obtain ⟨tally, ends⟩ := h.ending_fault (h.runCases (h.opening s tree cases) .empty cases)
      refine ⟨?_, fun _ _ => ⟨tally, ends⟩⟩
      intro fault ended own
      rcases ends with none | canceled
      · rw [none] at ended
        cases ended
      · rw [canceled] at ended
        exact absurd (Option.some.inj ended).symm own

/-- A file where the directory of the programs should be. -/
def flatSuite : FileTree where
  nodes := [(["v"], .file [] 0o644)]
  home := []

/-- A directory of programs that cannot be listed aborts the run, with a fault that is not called a
failure of the file system.
-/
theorem run_abort_unmarked
    : ∃ fault,
        ((echoing Discovery.shortLayout fun _ => false).run (.start flatSuite ⟨[], []⟩ false)).fault
          = some fault
        ∧ fault ≠ .mark .canceled
        ∧ ¬fault.has .filesystem = true := by
  have reset
      : Scratch.reset flatSuite "s" = (⟨(["s"], .directory) :: flatSuite.nodes, []⟩, none) := by
    cbv
  have found
      : Discovery.discover ⟨(["s"], .directory) :: flatSuite.nodes, []⟩ Discovery.shortLayout
          (fun _ => true)
        = .error (.context "listing v: " (.refused "open" "v" .notDirectory)) := by
    cbv
  refine ⟨.runtime (.context "listing v: " (.refused "open" "v" .notDirectory)), ?_, ?_, ?_⟩
  · rw [run_of_undiscovered (h := echoing Discovery.shortLayout fun _ => false) reset found]
  · simp
  · decide

end Harness

end GoldenSuite

import GoldenSuite.Proofs.FileTree.Same
import GoldenSuite.Proofs.Run.Parallel

/-! Runs in trees with the same nodes. The same is found, read, written and printed in them, so if
an executor answers alike in such trees, then runs of its harness go side by side there.
-/

namespace GoldenSuite

open FileTree

variable {σ : Type} {related : σ → σ → Prop}

/-- The likeness of sessions that have printed the same, in trees with the same nodes. -/
def Likeness.same (related : σ → σ → Prop) : Likeness σ σ where
  trees := Same
  hosts := related
  outputs := Eq
  opens := Same.openPath
  writes := by
    intro left right same path data
    have wrote := same.writeFile path data
    generalize left.writeFile path data = first at wrote ⊢
    generalize right.writeFile path data = second at wrote ⊢
    cases wrote with
    | ok same => exact Or.inr ⟨_, _, rfl, rfl, same⟩
    | error cause => exact Or.inl ⟨cause, rfl, rfl⟩

/-- The same is said about a result. -/
theorem Reporter.finished_same {left right : FileTree} (same : Same left right)
    (reporter : Reporter) (result : CaseResult)
    : reporter.finished left result = reporter.finished right result := by
  rw [Reporter.finished, Reporter.finished, Reporter.diff, Reporter.diff, same.readFile,
    same.readFile]

namespace Harness

variable {h : Harness σ} {left right : Session σ}

/-- A harness goes side by side with itself if its executor answers alike. -/
theorem parallel_same (answers : h.executor.Parallel (.same related) h.executor)
    : h.Parallel (.same related) id (fun _ => True) h where
  interrupts := rfl
  answers := answers
  judges := fun _ _ _ _ => rfl
  starts := by
    rintro printed _ rfl tc _
    rfl
  finishes := by
    rintro printed _ tree other rfl same result _
    exact congrArg (printed ++ ·) (h.reporter.finished_same same result)

/-- The same files are found. -/
theorem filesWithExt_same {left right : FileTree} (same : Same left right) (hl : left.WellFormed)
    (hr : right.WellFormed) (dir ext : String)
    : Discovery.filesWithExt left dir ext = Discovery.filesWithExt right dir ext := by
  rw [Discovery.filesWithExt, Discovery.filesWithExt, same.readDir hl hr]

/-- The same cases are found. -/
theorem discover_same {left right : FileTree} (same : Same left right) (hl : left.WellFormed)
    (hr : right.WellFormed) (layout : Layout) (selects : String → Bool)
    : Discovery.discover left layout selects = Discovery.discover right layout selects := by
  simp only [Discovery.discover, filesWithExt_same same hl hr]

/-- Runs begin alike if resets of their trees end the same, and the sessions agree in all else. -/
theorem outset_same
    (same
      : Same (Scratch.reset left.tree h.config.layout.scratch).1
          (Scratch.reset right.tree h.config.layout.scratch).1)
    (sameFault
      : (Scratch.reset left.tree h.config.layout.scratch).2
        = (Scratch.reset right.tree h.config.layout.scratch).2)
    (hl : (Scratch.reset left.tree h.config.layout.scratch).1.WellFormed)
    (hr : (Scratch.reset right.tree h.config.layout.scratch).1.WellFormed)
    (host : related left.host right.host) (cancelled : left.cancelled = right.cancelled)
    (polls : left.polls = right.polls) (output : left.output = right.output)
    : Outset (.same related) (fun _ => True) h h left right where
  tree := same
  fault := sameFault
  found := discover_same same hl hr _ _
  covers := fun _ _ _ _ _ => trivial
  host := host
  cancelled := cancelled
  polls := polls
  output := output

end Harness

end GoldenSuite

import GoldenSuite.Proofs.Run.Keeping
import GoldenSuite.Proofs.Run.Passing

/-! What a run may change in the file tree. Whichever course it takes, it makes directories on the
way to the scratch directory and changes what stands directly inside it, apart from directories and
the placeholder. Everything else is left alone, also where links inside the directory lead.
-/

namespace GoldenSuite.Harness

open FileTree

variable {σ : Type}

/-- What stands inside the scratch directory is removed or written, unless it is a directory. -/
def Rewrites (dir place : Place) (old new : Option Node) : Prop :=
  Scratch.Inside dir place
  ∧ old ≠ some .directory
  ∧ (new = none ∨ ∃ data, new = some (.file data plainMode))

/-- What a run may change: a directory is made on the way to the scratch directory, or an entry
inside it that is no directory is removed or written.
-/
def MayChange (dir place : Place) (old new : Option Node) : Prop :=
  MakesAbove dir place old new ∨ Rewrites dir place old new

/-- The changes of a run compose. Nothing stands both on the way to the scratch directory and
inside it.
-/
theorem MayChange.trans {dir place : Place} {old middle new : Option Node}
    (first : MayChange dir place old middle) (second : MayChange dir place middle new)
    : MayChange dir place old new := by
  rcases first with made | altered
  · rcases second with again | later
    · exact Or.inl (made.trans again)
    · exact absurd later.1 (Scratch.not_inside_of_above made.1)
  · rcases second with made | later
    · exact absurd altered.1 (Scratch.not_inside_of_above made.1)
    · exact Or.inr ⟨altered.1, altered.2.1, later.2.2⟩

/-- A reset changes no more than a run may. -/
theorem reset_mayChange {tree : FileTree} {scratch : String} (wf : tree.WellFormed)
    (straight : Straight tree scratch)
    : Changed (MayChange (placeOf tree.home scratch)) tree (Scratch.reset tree scratch).1 := by
  obtain ⟨made, paved, swept⟩ := Scratch.reset_swept wf straight
  refine Changed.trans ?_ (paved.changed.mono ?_) (swept.changed.mono ?_)
  · exact fun _ _ _ _ first second => first.trans second
  · exact fun _ _ _ makes => Or.inl makes
  · rintro place old new ⟨inside, noDirectory, gone⟩
    exact Or.inr ⟨inside, noDirectory, Or.inl gone⟩

/-- The last line of the log does not change the tree. -/
theorem tree_ending (h : Harness σ) (out : Session σ × Tally × Bool)
    : (h.ending out).session.tree = out.1.tree := by
  obtain ⟨after, tally, cut⟩ := out
  cases cut <;> rfl

/-- The place of the scratch directory. -/
def scratchPlace (h : Harness σ) (s : Session σ) : Place :=
  placeOf s.tree.home h.config.layout.scratch

/-- A run changes no more than it may, whichever course it takes. -/
theorem run_mayChange {h : Harness σ} {s : Session σ} (keeps : h.executor.KeepsTree)
    (wf : s.tree.WellFormed) (straight : Straight s.tree h.config.layout.scratch)
    : Changed (MayChange (h.scratchPlace s)) s.tree (h.run s).session.tree := by
  have cleared := reset_mayChange wf straight
  have course := h.run_course s
  generalize h.run s = out at course ⊢
  cases course with
  | unreset reset =>
      rw [reset] at cleared
      exact cleared
  | undiscovered reset found =>
      rw [reset] at cleared
      exact cleared
  | @ran tree cases reset found =>
      obtain ⟨ready, home⟩ := ready_of_reset wf straight reset found
      obtain ⟨stores, _⟩ := runCases_stores (s := h.opening s tree cases) keeps ready .empty
      rw [reset] at cleared
      rw [tree_ending]
      refine cleared.trans ?_ (stores.mono ?_)
      · exact fun _ _ _ _ first second => first.trans second
      · rintro place old new ⟨name, other, inside, _, missing, written⟩
        have same : (h.opening s tree cases).tree.home = s.tree.home := home
        rw [same] at inside
        exact Or.inr ⟨⟨name, other, inside⟩, by simp [missing], Or.inr written⟩

/-- What was there before the changes of a run stays, unless it is inside the scratch directory and
no directory.
-/
theorem find?_of_mayChange {dir place : Place} {before after : FileTree} {node : Node}
    (changed : Changed (MayChange dir) before after) (found : before.find? place = some node)
    (spared : ¬Scratch.Inside dir place ∨ node = .directory)
    : after.find? place = some node := by
  rcases changed.node place with same | ⟨_, missing, _⟩ | ⟨inside, noDirectory, _⟩
  · rw [same, found]
  · rw [found] at missing
    cases missing
  · rcases spared with outside | rfl
    · exact absurd inside outside
    · exact absurd found noDirectory

/-- Whatever happens in a run, the only differences that it makes in the tree are that the scratch
directory and missing directories on the way to it are made, and that entries directly inside it,
other than directories and the placeholder, are removed or written. Everything else stays as it
is: all that is neither on the way nor inside, whatever else was there, the placeholder, the
directories inside with all that is below them, and what the links inside led to, unless this
stands inside itself. The executor leaves the tree alone, and the path of the scratch directory is
in its cleaned form and goes through no link.
-/
theorem run_changes_scratch_only {h : Harness σ} {s : Session σ} (keeps : h.executor.KeepsTree)
    (wf : s.tree.WellFormed) (straight : Straight s.tree h.config.layout.scratch)
    : Changed (MayChange (h.scratchPlace s)) s.tree (h.run s).session.tree
      ∧ (∀ place,
          ¬place <+: h.scratchPlace s
          → ¬Scratch.Inside (h.scratchPlace s) place
          → (h.run s).session.tree.find? place = s.tree.find? place)
      ∧ (∀ place node,
          s.tree.find? place = some node
          → ¬Scratch.Inside (h.scratchPlace s) place
          → (h.run s).session.tree.find? place = some node)
      ∧ (h.run s).session.tree.find? (h.scratchPlace s ++ [Scratch.placeholder])
        = s.tree.find? (h.scratchPlace s ++ [Scratch.placeholder])
      ∧ (∀ name below,
          s.tree.find? (h.scratchPlace s ++ [name]) = some .directory
          → (h.run s).session.tree.find? (h.scratchPlace s ++ name :: below)
            = s.tree.find? (h.scratchPlace s ++ name :: below))
      ∧ ∀ name target links place,
          s.tree.find? (h.scratchPlace s ++ [name]) = some (.link target)
          → s.tree.walk true links (startOf (h.scratchPlace s) target) (stepsOf target) = .ok place
          → ¬Scratch.Inside (h.scratchPlace s) place
          → (h.run s).session.tree.find? place = s.tree.find? place := by
  have changed := run_mayChange keeps wf straight
  have apart (place : Place) (offWay : ¬place <+: h.scratchPlace s)
      (outside : ¬Scratch.Inside (h.scratchPlace s) place)
      : (h.run s).session.tree.find? place = s.tree.find? place := by
    rcases changed.node place with same | ⟨above, _⟩ | ⟨inside, _⟩
    · exact same
    · exact absurd above offWay
    · exact absurd inside outside
  have beyond {name : String} {below : List String} : ¬h.scratchPlace s ++ name :: below
      <+: h.scratchPlace s := by
    intro above
    have shorter := above.length_le
    rw [List.length_append, List.length_cons] at shorter
    omega
  refine ⟨changed, apart, ?_, ?_, ?_, ?_⟩
  · exact fun place node found outside => find?_of_mayChange changed found (Or.inl outside)
  · refine apart _ beyond ?_
    rintro ⟨name, other, same⟩
    exact other (by simpa using same.symm)
  · intro name below directory
    cases below with
    | nil => rw [find?_of_mayChange changed directory (Or.inr rfl), directory]
    | cons next below =>
        refine apart _ beyond ?_
        rintro ⟨other, _, same⟩
        have lengths := congrArg List.length same
        simp at lengths
  · intro name target links place linked reached outside
    -- A link stands inside the directory, so all directories on the way to it are there.
    by_cases above : place <+: h.scratchPlace s
    · obtain ⟨more, split⟩ := above
      rw [← split, List.append_assoc] at linked
      have directory := wf.above linked (by simp)
      rw [directory]
      exact find?_of_mayChange changed directory (Or.inr rfl)
    · exact apart place above outside

/-- A scratch directory with its placeholder, a directory with a file, and a link to a program. -/
def usedSuite : FileTree where
  nodes :=
    [(["v"], .directory), (["v", "a.v"], .file [65] 0o644), (["s"], .directory),
      (["s", ".keep"], .file [] 0o644), (["s", "sub"], .directory),
      (["s", "sub", "b.txt"], .file [67] 0o644), (["s", "l"], .link "../v/a.v")]
  home := []

/-- A run that is asked to stop at its third look leaves the placeholder, the directory and the
program behind the link as they were.
-/
theorem run_changes_scratch_only_usedSuite
    : Scripted.executor.KeepsTree
      ∧ usedSuite.WellFormed
      ∧ Straight usedSuite "s"
      ∧ ((echoing Discovery.shortLayout (· == 2)).run
            (.start usedSuite ⟨[], []⟩ false)).session.tree.find? ["s", ".keep"]
          = some (.file [] 0o644)
      ∧ ((echoing Discovery.shortLayout (· == 2)).run
            (.start usedSuite ⟨[], []⟩ false)).session.tree.find? ["s", "sub", "b.txt"]
          = some (.file [67] 0o644)
      ∧ ((echoing Discovery.shortLayout (· == 2)).run
            (.start usedSuite ⟨[], []⟩ false)).session.tree.find? ["v", "a.v"]
          = some (.file [65] 0o644) := by
  have wf : usedSuite.WellFormed := by decide
  have straight : Straight usedSuite "s" := by decide
  have dir : (echoing Discovery.shortLayout (· == 2)).scratchPlace
      (.start usedSuite ⟨[], []⟩ false) = ["s"] := by
    decide
  have target : usedSuite.walk true linkLimit (startOf ["s"] "../v/a.v") (stepsOf "../v/a.v")
      = .ok ["v", "a.v"] := by
    have steps : stepsOf "../v/a.v" = ["..", "v", "a.v"] := by decide
    have start : startOf ["s"] "../v/a.v" = ["s"] := by decide
    rw [steps, start]
    cbv
  obtain ⟨_, _, _, placeholder, directories, links⟩ :=
    run_changes_scratch_only (h := echoing Discovery.shortLayout (· == 2))
      (s := .start usedSuite ⟨[], []⟩ false) scripted_keepsTree wf straight
  rw [dir] at placeholder directories links
  have outside : ¬Scratch.Inside ["s"] ["v", "a.v"] := by
    rintro ⟨name, _, same⟩
    exact absurd (congrArg List.head? same) (by simp)
  exact ⟨scripted_keepsTree, wf, straight, placeholder, directories "sub" ["b.txt"] (by decide),
    links "l" "../v/a.v" linkLimit ["v", "a.v"] (by decide) target outside⟩

end GoldenSuite.Harness

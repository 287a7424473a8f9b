import GoldenSuite.Proofs.Run.Alike
import GoldenSuite.Proofs.Run.Outputs
import GoldenSuite.Proofs.Scratch.Residue

/-! Earlier runs leave no influence. Whatever stands inside the scratch directory, a run makes the
same calls, records the same results, prints the same and ends in the same tree, as long as it can
be removed; and what an earlier run has left there can be removed. An entry that cannot be removed
makes a difference, and so does an executor that changes the tree.
-/

namespace GoldenSuite

open FileTree

variable {σ : Type}

-----------------------------------------------------------------------------------------
-- Executors that depend on the program and its input alone
-----------------------------------------------------------------------------------------

/-- An executor whose answers depend on nothing but the path of the program, what can be read from
it, and what can be read from its input.
-/
def Executor.Determined (executor : Executor σ) : Prop :=
  ∃ answer
      : String → Except Fault Bytes → Option (Bytes × Option Fault)
        → Execution × Option Fault × Bool,
    ∀ invocation tree cancelled host,
      ((executor invocation tree cancelled host).execution,
          (executor invocation tree cancelled host).fault,
          (executor invocation tree cancelled host).cancels)
        = answer invocation.program (tree.readFile invocation.program)
            (invocation.stdin.map Stdin.readAll)

/-- Such an executor answers alike in trees with the same nodes, whatever its states, if it leaves
them alone.
-/
theorem Executor.Determined.parallel {executor : Executor σ} (determined : executor.Determined)
    (keeps : executor.KeepsTree)
    : executor.Parallel (.same fun _ _ => True) executor := by
  obtain ⟨answer, answers⟩ := determined
  intro invocation left right cancelled first second same _
  have replies := (answers invocation left cancelled first).trans
    ((Same.readFile same invocation.program ▸ answers invocation right cancelled second).symm)
  simp only [Prod.mk.injEq] at replies
  obtain ⟨execution, fault, cancels⟩ := replies
  refine ⟨execution, fault, cancels, ?_, trivial⟩
  rw [keeps, keeps]
  exact same

namespace Harness

-----------------------------------------------------------------------------------------
-- Runs that cannot be told apart
-----------------------------------------------------------------------------------------

/-- Runs from two sessions cannot be told apart: they return the same fault, record the same
results, make the same invocations of their executor, print the same, and end in trees with the
same nodes.
-/
structure Indistinguishable (h : Harness σ) (left right : Session σ) : Prop where
  fault : (h.run left).fault = (h.run right).fault
  tally : (h.run left).tally = (h.run right).tally
  invocations
    : (h.calls left).map Exchange.invocation = (h.calls right).map Exchange.invocation
  output : (h.run left).session.output = (h.run right).session.output
  tree : Same (h.run left).session.tree (h.run right).session.tree

/-- Fresh runs cannot be told apart if resets of their trees end the same. -/
theorem indistinguishable_of_reset {h : Harness σ} {left right : FileTree}
    (determined : h.executor.Determined) (keeps : h.executor.KeepsTree) (hl : left.WellFormed)
    (hr : right.WellFormed)
    (straightLeft : Straight left h.config.layout.scratch)
    (straightRight : Straight right h.config.layout.scratch)
    (same
      : Same (Scratch.reset left h.config.layout.scratch).1
          (Scratch.reset right h.config.layout.scratch).1)
    (sameFault
      : (Scratch.reset left h.config.layout.scratch).2
        = (Scratch.reset right h.config.layout.scratch).2)
    (first second : σ) (cancelled : Bool)
    : h.Indistinguishable (.start left first cancelled) (.start right second cancelled) := by
  obtain ⟨_, _, sweptLeft⟩ := Scratch.reset_swept hl straightLeft
  obtain ⟨_, _, sweptRight⟩ := Scratch.reset_swept hr straightRight
  have parallel := parallel_same (determined.parallel keeps)
  have outset
      : Outset (.same fun _ _ => True) (fun _ => True) h h (.start left first cancelled)
          (.start right second cancelled) :=
    outset_same same sameFault sweptLeft.wellFormed sweptRight.wellFormed trivial rfl rfl rfl
  have alike := parallel.run outset
  refine {
    fault := alike.fault
    tally := ?_
    invocations := parallel.invocations outset
    output := alike.session.output
    tree := alike.session.tree
  }
  rcases alike.tally with ⟨none, none'⟩ | ⟨results, recorded, recorded'⟩
  · rw [none, none']
  · rw [recorded, recorded', List.map_id]

/-- A run that has reset its scratch directory only adds outputs to what the reset has left, by a
path that is accepted.
-/
theorem run_stores {h : Harness σ} {s : Session σ} {cleared : FileTree}
    (keeps : h.executor.KeepsTree) (wf : s.tree.WellFormed)
    (straight : Straight s.tree h.config.layout.scratch)
    (reset : Scratch.reset s.tree h.config.layout.scratch = (cleared, none))
    : Changed (Stores h.config.layout.scratch (h.scratchPlace s)) cleared (h.run s).session.tree
      ∧ (h.run s).session.tree.WellFormed := by
  obtain ⟨_, made, paved, _, clean, _⟩ := Scratch.reset_cleared wf straight reset
  have course := h.run_course s
  generalize h.run s = out at course ⊢
  cases course with
  | unreset failed =>
      rw [reset] at failed
      cases failed
  | @undiscovered tree _ again found =>
      obtain rfl : cleared = tree := congrArg Prod.fst (reset.symm.trans again)
      exact ⟨.refl _ cleared, clean.wellFormed⟩
  | @ran tree cases again found =>
      obtain rfl : cleared = tree := congrArg Prod.fst (reset.symm.trans again)
      obtain ⟨ready, home⟩ := ready_of_reset wf straight reset found
      have stores := runCases_stores (s := h.opening s cleared cases) keeps ready .empty
      have dir : placeOf (h.opening s cleared cases).tree.home h.config.layout.scratch
          = h.scratchPlace s :=
        congrArg (placeOf · h.config.layout.scratch) home
      rw [dir] at stores
      rw [tree_ending]
      exact stores

/-- What a run has left is removed again by the next reset, which leads to the tree to which the
reset of that run has led.
-/
theorem reset_run {h : Harness σ} {s : Session σ} {cleared : FileTree}
    (keeps : h.executor.KeepsTree) (wf : s.tree.WellFormed)
    (straight : Straight s.tree h.config.layout.scratch)
    (reset : Scratch.reset s.tree h.config.layout.scratch = (cleared, none))
    : Straight (h.run s).session.tree h.config.layout.scratch
      ∧ ∃ again,
          Scratch.reset (h.run s).session.tree h.config.layout.scratch = (again, none)
          ∧ Same again cleared := by
  obtain ⟨stores, wfFinal⟩ := run_stores keeps wf straight reset
  obtain ⟨accepted, made, paved, found, clean, _⟩ := Scratch.reset_cleared wf straight reset
  generalize (h.run s).session.tree = final at stores wfFinal ⊢
  have home : cleared.home = s.tree.home := clean.changed.home.trans paved.changed.home
  have dir : placeOf cleared.home h.config.layout.scratch = h.scratchPlace s := by
    rw [home]
    rfl
  have dirFinal : placeOf final.home h.config.layout.scratch = h.scratchPlace s := by
    rw [stores.home]
    exact dir
  have alters : Changed (Scratch.Alters (h.scratchPlace s)) cleared final :=
    stores.mono fun _ _ _ => Stores.alters
  have straightCleared : Straight cleared h.config.layout.scratch := by
    refine Scratch.straight_of_changed (paved.straight straight) ?_
    rw [paved.changed.home]
    exact clean.alters
  have straightFinal : Straight final h.config.layout.scratch :=
    Scratch.straight_of_changed straightCleared (dir ▸ alters)
  have foundFinal : final.find? (placeOf final.home h.config.layout.scratch)
      = some .directory := by
    rw [dirFinal, Scratch.find?_directory_iff alters, Scratch.find?_directory_iff clean.alters]
    exact found
  -- Only stored outputs are there to be removed, and their paths have been accepted.
  have removable : Scratch.Removable final h.config.layout.scratch := by
    intro name node other stands noDirectory
    rw [dirFinal] at stands
    rcases stores.node (h.scratchPlace s ++ [name]) with same | ⟨stored, _, spot, ok, _⟩
    · rw [same] at stands
      exact absurd (clean.clean _ ⟨name, other, rfl⟩ node stands) noDirectory
    · obtain rfl : name = stored := by simpa using spot
      exact ok
  obtain ⟨again, resetAgain, cleanAgain⟩ :=
    Scratch.reset_accepted wfFinal straightFinal accepted foundFinal removable
  rw [dirFinal] at cleanAgain
  refine ⟨straightFinal, again, resetAgain, ?_⟩
  have itself : Scratch.Cleared (h.scratchPlace s) cleared cleared :=
    ⟨.refl clean.wellFormed _, clean.clean⟩
  exact (Scratch.Cleared.same alters itself cleanAgain).symm

/-- Earlier runs leave no influence. If a first run has reset the scratch directory, then however it
has ended and whatever its executor has answered, a run after it cannot be told apart from one in
the tree before it. More generally, runs cannot be told apart in trees that differ only in what
stands directly inside the scratch directory, apart from directories and the placeholder, if the
paths of all this are accepted. The executor leaves the tree alone, and its answers depend on the
program and its input alone; the path of the scratch directory is in its cleaned form and goes
through no link.
-/
theorem run_forgets_residue {h : Harness σ} (determined : h.executor.Determined)
    (keeps : h.executor.KeepsTree)
    : (∀ {τ : Type} (first : Harness τ) (s : Session τ),
        first.config.layout.scratch = h.config.layout.scratch
        → first.executor.KeepsTree
        → s.tree.WellFormed
        → Straight s.tree h.config.layout.scratch
        → (Scratch.reset s.tree h.config.layout.scratch).2 = none
        → ∀ host other cancelled,
            h.Indistinguishable (.start (first.run s).session.tree host cancelled)
              (.start s.tree other cancelled))
      ∧ ∀ left right,
          left.WellFormed
          → right.WellFormed
          → Straight left h.config.layout.scratch
          → Changed (Scratch.Alters (placeOf left.home h.config.layout.scratch)) left right
          → Scratch.Removable left h.config.layout.scratch
          → Scratch.Removable right h.config.layout.scratch
          → ∀ host other cancelled,
              h.Indistinguishable (.start left host cancelled) (.start right other cancelled) := by
  refine ⟨?_, ?_⟩
  · intro τ first s sameScratch keepsFirst wf straight unbroken host other cancelled
    have reset : Scratch.reset s.tree first.config.layout.scratch
        = ((Scratch.reset s.tree h.config.layout.scratch).1, none) := by
      rw [sameScratch, ← unbroken]
    have straightFirst : Straight s.tree first.config.layout.scratch := sameScratch ▸ straight
    obtain ⟨straightFinal, again, resetAgain, same⟩ := reset_run keepsFirst wf straightFirst reset
    obtain ⟨_, wfFinal⟩ := run_stores keepsFirst wf straightFirst reset
    rw [sameScratch] at straightFinal resetAgain
    refine indistinguishable_of_reset determined keeps wfFinal wf straightFinal straight ?_ ?_ _
      _ _
    · rw [resetAgain]
      exact same
    · rw [resetAgain, unbroken]
  · intro left right hl hr straight changed removableLeft removableRight host other cancelled
    obtain ⟨same, sameFault⟩ :=
      Scratch.reset_alters hl hr straight changed removableLeft removableRight
    exact indistinguishable_of_reset determined keeps hl hr straight
      (Scratch.straight_of_changed straight changed) same sameFault _ _ _

-----------------------------------------------------------------------------------------
-- A program that prints its own text
-----------------------------------------------------------------------------------------

/-- An executor under which every program prints its own text. -/
def quoting : Executor Unit := fun invocation tree _ _ =>
  { execution := Scripted.plainExecution ((tree.readFile invocation.program).toOption.getD []) 0
    fault := none
    tree := tree
    host := ()
    stderr := []
    cancels := false }

/-- It depends on nothing but the program. -/
theorem quoting_determined : quoting.Determined :=
  ⟨fun _ source _ => (Scripted.plainExecution (source.toOption.getD []) 0, none, false),
    fun _ _ _ _ => rfl⟩

/-- It leaves the tree alone. -/
theorem quoting_keepsTree : quoting.KeepsTree :=
  fun _ _ _ _ => rfl

/-- A harness without filter, colours or log, whose programs print their own text. -/
def quotingHarness (layout : Layout) (interrupts : Nat → Bool) : Harness Unit where
  config := { Config.default with layout }
  logger := { threshold := .warn, colors := false, clock := "" }
  selects := fun _ => true
  executor := quoting
  reporter := ⟨false, false⟩
  interrupts := interrupts

/-- The link in the scratch directory of the suite can be removed. -/
theorem usedSuite_removable : Scratch.Removable usedSuite "s" := by
  intro name node other stands noDirectory
  have wf : usedSuite.WellFormed := by decide
  have dir : placeOf usedSuite.home "s" = ["s"] := by decide
  rw [dir, find?_eq_some_iff_mem wf.distinct (by simp)] at stands
  simp only [usedSuite, List.singleton_append, List.mem_cons, Prod.mk.injEq, List.cons.injEq,
    and_true, true_and, reduceCtorEq, false_and, and_false, List.not_mem_nil, or_false, false_or,
    String.reduceEq] at stands
  rcases stands with ⟨rfl, _⟩ | ⟨_, rfl⟩ | ⟨rfl, _⟩
  · exact absurd rfl other
  · exact absurd rfl noDirectory
  · have path : Path.join "s" "l" = "s/l" := by decide
    rw [path]
    exact ⟨by decide, by decide, by decide, by decide⟩

/-- What is left in the scratch directory of the suite once the link is gone can be removed, too. -/
theorem usedSuiteReset_removable : Scratch.Removable usedSuiteReset "s" := by
  intro name node other stands noDirectory
  refine usedSuite_removable name node other ?_ noDirectory
  have erased : Changed Prunes usedSuite usedSuiteReset := .erase rfl
  rw [erased.home] at stands
  rcases erased.node (placeOf usedSuite.home "s" ++ [name]) with same | gone
  · rw [← same]
    exact stands
  · rw [gone] at stands
    cases stands

/-- Over the suite, neither a run that was asked to stop nor the link in the scratch directory has
any influence.
-/
theorem run_forgets_residue_usedSuite
    : quoting.Determined
      ∧ quoting.KeepsTree
      ∧ usedSuite.WellFormed
      ∧ usedSuiteReset.WellFormed
      ∧ Straight usedSuite "s"
      ∧ (Scratch.reset usedSuite "s").2 = none
      ∧ Changed (Scratch.Alters (placeOf usedSuite.home "s")) usedSuite usedSuiteReset
      ∧ Scratch.Removable usedSuite "s"
      ∧ Scratch.Removable usedSuiteReset "s"
      ∧ (quotingHarness Discovery.shortLayout fun _ => false).Indistinguishable
          (.start
            ((quotingHarness Discovery.shortLayout (· == 2)).run
              (.start usedSuite () false)).session.tree
            () false)
          (.start usedSuite () false)
      ∧ (quotingHarness Discovery.shortLayout fun _ => false).Indistinguishable
          (.start usedSuite () false) (.start usedSuiteReset () false) := by
  have wf : usedSuite.WellFormed := by decide
  have wfReset : usedSuiteReset.WellFormed := by decide
  have straight : Straight usedSuite "s" := by decide
  have unbroken : (Scratch.reset usedSuite "s").2 = none := by rw [reset_usedSuite]
  have dir : placeOf usedSuite.home "s" = ["s"] := by decide
  have changed
      : Changed (Scratch.Alters (placeOf usedSuite.home "s")) usedSuite usedSuiteReset := by
    rw [dir]
    exact .erase ⟨⟨"l", by decide, rfl⟩, by decide, by simp⟩
  obtain ⟨afterRun, anyTrees⟩ :=
    run_forgets_residue (h := quotingHarness Discovery.shortLayout fun _ => false)
      quoting_determined quoting_keepsTree
  exact ⟨quoting_determined, quoting_keepsTree, wf, wfReset, straight, unbroken, changed,
    usedSuite_removable, usedSuiteReset_removable,
    afterRun (quotingHarness Discovery.shortLayout (· == 2)) (.start usedSuite () false) rfl
      quoting_keepsTree wf straight unbroken () () false,
    anyTrees usedSuite usedSuiteReset wf wfReset straight changed usedSuite_removable
      usedSuiteReset_removable () () false⟩

-----------------------------------------------------------------------------------------
-- Entries that cannot be removed
-----------------------------------------------------------------------------------------

/-- A run in which an entry of the scratch directory cannot be removed fails as a whole. -/
theorem fault_of_unremovable {h : Harness σ} {s : Session σ} (wf : s.tree.WellFormed)
    (straight : Straight s.tree h.config.layout.scratch)
    (stuck : ¬Scratch.Removable s.tree h.config.layout.scratch)
    : ∃ fault, (h.run s).fault = some fault ∧ fault.has .filesystem = true := by
  have course := h.run_course s
  generalize h.run s = out at course ⊢
  cases course with
  | @unreset _ fault reset =>
      have marked : fault.has .filesystem = true :=
        Scratch.has_filesystem_of_reset (congrArg Prod.snd reset)
      exact ⟨.runtime fault, rfl, marked⟩
  | undiscovered reset _ => exact absurd (Scratch.removable_of_reset wf straight reset) stuck
  | ran reset _ => exact absurd (Scratch.removable_of_reset wf straight reset) stuck

/-- A run that has reset its scratch directory has no such fault as a whole. -/
theorem fault_of_reset {h : Harness σ} {s : Session σ}
    (unbroken : (Scratch.reset s.tree h.config.layout.scratch).2 = none) {fault : Fault}
    (failed : (h.run s).fault = some fault)
    : fault.has .filesystem = false := by
  have course := h.run_course s
  generalize h.run s = out at course failed
  cases course with
  | unreset reset =>
      rw [reset] at unbroken
      cases unbroken
  | @undiscovered _ cause _ found =>
      have unmarked : cause.has .filesystem = false :=
        Discovery.not_has_filesystem_of_discover found
      obtain rfl := Option.some.inj failed
      exact unmarked
  | ran _ _ =>
      unfold ending at failed
      split at failed
      · obtain rfl := Option.some.inj failed
        rfl
      · cases failed

/-- Runs are told apart if an entry of the scratch directory can be removed in one of the trees
only.
-/
theorem distinguishable_of_unremovable {h : Harness σ} {left right : FileTree}
    (wf : left.WellFormed) (straight : Straight left h.config.layout.scratch)
    (stuck : ¬Scratch.Removable left h.config.layout.scratch)
    (unbroken : (Scratch.reset right h.config.layout.scratch).2 = none) (first second : σ)
    (cancelled : Bool)
    : ¬h.Indistinguishable (.start left first cancelled) (.start right second cancelled) := by
  intro same
  obtain ⟨fault, failed, marked⟩ :=
    fault_of_unremovable (s := .start left first cancelled) wf straight stuck
  have unmarked := fault_of_reset (s := .start right second cancelled) unbroken
    (same.fault.symm.trans failed)
  rw [marked] at unmarked
  cases unmarked

-----------------------------------------------------------------------------------------
-- A path that is too long
-----------------------------------------------------------------------------------------

/-- Directories of one name, one inside the other. -/
def corridor (name : String) : Nat → FileTree
  | 0 => ⟨[], []⟩
  | depth + 1 => (corridor name depth).put (List.replicate (depth + 1) name) .directory

/-- A corridor is well formed and has nothing but its directories, by induction on its depth. -/
theorem corridor_directories {name : String} (plain : Path.IsPlain name) (depth : Nat)
    : (corridor name depth).WellFormed
      ∧ (corridor name depth).home = []
      ∧ (corridor name depth).find? (List.replicate depth name) = some .directory
      ∧ ∀ place node,
          (corridor name depth).find? place = some node
          → node = .directory ∧ ∀ other ∈ place, other = name := by
  induction depth with
  | zero =>
      refine ⟨(by decide : (⟨[], []⟩ : FileTree).WellFormed), rfl, rfl, fun place node found => ?_⟩
      cases place with
      | nil => exact ⟨(Option.some.inj found).symm, by simp⟩
      | cons name rest => cases found
  | succ depth ih =>
      obtain ⟨wf, home, found, only⟩ := ih
      have deeper : List.replicate (depth + 1) name = List.replicate depth name ++ [name] :=
        List.replicate_succ'
      rw [corridor, deeper]
      refine ⟨wf.put found plain (Or.inl rfl), home, find?_put_self (by simp),
        fun place node stands => ?_⟩
      by_cases same : place = List.replicate depth name ++ [name]
      · subst same
        rw [find?_put_self (by simp)] at stands
        refine ⟨(Option.some.inj stands).symm, fun other member => ?_⟩
        rw [← deeper] at member
        exact List.eq_of_mem_replicate member
      · rw [find?_put_of_ne same] at stands
        exact only place node stands

/-- The path to the end of a corridor. -/
def corridorPath (name : String) (depth : Nat) : String :=
  Path.render false (List.replicate depth name)

/-- The path through a corridor is in its cleaned form and leads along its names. -/
theorem corridorPath_leads {name : String} (plain : Path.IsPlain name) (depth : Nat)
    : Path.clean (corridorPath name (depth + 1)) = corridorPath name (depth + 1)
      ∧ Path.names (corridorPath name (depth + 1)) = List.replicate (depth + 1) name
      ∧ Path.cleanNames (corridorPath name (depth + 1)) = List.replicate (depth + 1) name
      ∧ placeOf [] (corridorPath name (depth + 1)) = List.replicate (depth + 1) name := by
  have plains : ∀ other ∈ List.replicate (depth + 1) name, Path.IsPlain other := by
    intro other member
    rw [List.eq_of_mem_replicate member]
    exact plain
  have valid : ∀ other ∈ List.replicate (depth + 1) name, Path.IsName other := fun other member =>
    (plains other member).isName
  have names : Path.names (corridorPath name (depth + 1)) = List.replicate (depth + 1) name :=
    Path.names_render valid (Or.inr (by simp))
  have relative : Path.isRooted (corridorPath name (depth + 1)) = false :=
    Path.isRooted_render valid
  refine ⟨Path.clean_render plains (by simp), names, ?_, ?_⟩
  · rw [Path.cleanNames, names, Path.foldl_pushName_plain plains, List.append_nil,
      List.reverse_reverse]
  · rw [placeOf, startOf, names, relative, foldl_descend_plain plains]
    rfl

/-- A corridor that is one name longer. -/
theorem corridorPath_succ (name : String) (depth : Nat)
    : corridorPath name (depth + 2) = corridorPath name (depth + 1) ++ "/" ++ name := by
  rw [corridorPath, List.replicate_succ', Path.render_append_of_ne_nil (by simp)]
  rfl

/-- The length of the path through a corridor, by induction on the depth. -/
theorem utf8ByteSize_corridorPath (name : String) (depth : Nat)
    : (corridorPath name (depth + 1)).utf8ByteSize
      = name.utf8ByteSize + depth * (name.utf8ByteSize + 1) := by
  induction depth with
  | zero => simp [corridorPath, Path.render]
  | succ depth ih =>
      have slash : "/".utf8ByteSize = 1 := by decide
      rw [corridorPath_succ, String.utf8ByteSize_append, String.utf8ByteSize_append, ih, slash,
        Nat.succ_mul]
      omega

/-- The path through a corridor holds slashes and the characters of the name alone, by induction on
the depth.
-/
theorem mem_corridorPath {name : String} {depth : Nat} {c : Char}
    (member : c ∈ (corridorPath name (depth + 1)).toList)
    : c = '/' ∨ c ∈ name.toList := by
  induction depth with
  | zero => exact Or.inr (by simpa [corridorPath, Path.render] using member)
  | succ depth ih =>
      rw [corridorPath_succ] at member
      simp only [String.toList_append, List.mem_append, or_assoc] at member
      rcases member with earlier | slash | last
      · exact ih earlier
      · exact Or.inl (by simpa using slash)
      · exact Or.inr last

/-- The path through a corridor is accepted if neither it nor the name is too long. -/
theorem corridorPath_accepted {name : String} (plain : Path.IsPlain name) {depth : Nat}
    (allowed : '\x00' ∉ name.toList) (fits : name.utf8ByteSize ≤ nameLimit)
    (short : name.utf8ByteSize + depth * (name.utf8ByteSize + 1) < pathLimit)
    : IsAccepted (corridorPath name (depth + 1)) := by
  refine ⟨?_, ?_, ?_, ?_⟩
  · intro empty
    have named := (corridorPath_leads plain depth).2.1
    rw [empty] at named
    cases named
  · rw [List.contains_iff_mem]
    intro zero
    rcases mem_corridorPath zero with slash | inName
    · exact absurd slash (by decide)
    · exact allowed inName
  · rw [utf8ByteSize_corridorPath]
    exact short
  · rw [(corridorPath_leads plain depth).2.1]
    intro other member
    rw [List.eq_of_mem_replicate member]
    exact fits

/-- A corridor has no links, so the path through it is straight. -/
theorem corridor_straight {name : String} (plain : Path.IsPlain name) (depth : Nat)
    : Straight (corridor name (depth + 1)) (corridorPath name (depth + 1)) := by
  refine ⟨(corridorPath_leads plain depth).1, fun place _ target stands => ?_⟩
  cases ((corridor_directories plain (depth + 1)).2.2.2 place _ stands).1

/-- A corridor with a file at its end. -/
def littered (name residue : String) (depth : Nat) : FileTree :=
  (corridor name depth).put (List.replicate depth name ++ [residue]) (.file [] plainMode)

/-- The file is something that stands inside the directory at the end of the corridor. -/
theorem littered_changed {name residue : String} (plain : Path.IsPlain name)
    (plainResidue : Path.IsPlain residue) (different : residue ≠ name)
    (other : residue ≠ Scratch.placeholder) (depth : Nat)
    : (littered name residue depth).WellFormed
      ∧ Changed (Scratch.Alters (List.replicate depth name)) (corridor name depth)
          (littered name residue depth)
      ∧ (littered name residue depth).find? (List.replicate depth name ++ [residue])
        = some (.file [] plainMode) := by
  obtain ⟨wf, _, found, only⟩ := corridor_directories plain depth
  have missing : (corridor name depth).find? (List.replicate depth name ++ [residue]) = none := by
    cases stands : (corridor name depth).find? (List.replicate depth name ++ [residue]) with
    | none => rfl
    | some node => exact absurd ((only _ _ stands).2 residue (by simp)) different
  refine ⟨wf.put found plainResidue (Or.inr (by simp [missing])), .put ?_, find?_put_self (by simp)⟩
  exact ⟨⟨residue, other, rfl⟩, by simp [missing], by simp⟩

/-- Runs are told apart by a file at the end of a corridor if the path through the corridor is
accepted, but the path of the file is too long.
-/
theorem distinguishable_of_littered {h : Harness σ} {name residue : String} {depth : Nat}
    (plain : Path.IsPlain name) (plainResidue : Path.IsPlain residue) (different : residue ≠ name)
    (other : residue ≠ Scratch.placeholder)
    (scratch : h.config.layout.scratch = corridorPath name (depth + 1))
    (accepted : IsAccepted (corridorPath name (depth + 1)))
    (long
      : pathLimit
        ≤ name.utf8ByteSize + depth * (name.utf8ByteSize + 1) + 1 + residue.utf8ByteSize)
    (first second : σ) (cancelled : Bool)
    : ¬h.Indistinguishable (.start (littered name residue (depth + 1)) first cancelled)
        (.start (corridor name (depth + 1)) second cancelled) := by
  obtain ⟨wf, home, found, only⟩ := corridor_directories plain (depth + 1)
  obtain ⟨cleaned, _, names, place⟩ := corridorPath_leads plain depth
  obtain ⟨wfLittered, changed, stands⟩ :=
    littered_changed plain plainResidue different other (depth + 1)
  have straight := corridor_straight plain depth
  have dir : placeOf (littered name residue (depth + 1)).home (corridorPath name (depth + 1))
      = List.replicate (depth + 1) name := by
    rw [changed.home, home, place]
  rw [← dir] at stands
  rw [← place, ← home] at changed found
  have written : Path.join (corridorPath name (depth + 1)) residue
      = corridorPath name (depth + 1) ++ "/" ++ residue :=
    Path.join_of_cleaned straight.nonempty cleaned (by simp [names]) plainResidue
  refine distinguishable_of_unremovable wfLittered ?_ ?_ ?_ _ _ _
  · rw [scratch]
    exact Scratch.straight_of_changed straight changed
  · intro removable
    rw [scratch] at removable
    have short := (removable residue _ other stands (by simp)).short
    have slash : "/".utf8ByteSize = 1 := by decide
    rw [written, String.utf8ByteSize_append, String.utf8ByteSize_append, slash,
      utf8ByteSize_corridorPath] at short
    exact absurd short (Nat.not_lt_of_le long)
  · have removable
        : Scratch.Removable (corridor name (depth + 1)) (corridorPath name (depth + 1)) :=
      fun _ node _ stands noDirectory => absurd (only _ node stands).1 noDirectory
    obtain ⟨after, reset, _⟩ := Scratch.reset_accepted wf straight accepted found removable
    rw [scratch, reset]

/-- A name of one character, repeated. -/
def repeated (c : Char) (count : Nat) : String :=
  String.ofList (List.replicate count c)

/-- Its length, by induction on the count. -/
theorem utf8ByteSize_repeated (c : Char) (count : Nat)
    : (repeated c count).utf8ByteSize = count * c.utf8Size := by
  induction count with
  | zero => simp [repeated]
  | succ count ih =>
      have text : repeated c (count + 1) = String.singleton c ++ repeated c count := by
        apply String.toList_injective
        simp [repeated, List.replicate_succ]
      rw [text, String.utf8ByteSize_append, ih, String.utf8ByteSize_singleton, Nat.succ_mul,
        Nat.add_comm]

/-- Only the repeated character is in it. -/
theorem eq_of_mem_repeated {c other : Char} {count : Nat}
    (member : other ∈ (repeated c count).toList)
    : other = c := by
  rw [repeated, String.toList_ofList] at member
  exact List.eq_of_mem_replicate member

/-- Such a name is plain unless it is made from slashes or dots. -/
theorem repeated_isPlain {c : Char} {count : Nat} (some : count ≠ 0) (slash : c ≠ '/')
    (dot : c ≠ '.')
    : Path.IsPlain (repeated c count) := by
  have first : c ∈ (repeated c count).toList := by simp [repeated, some]
  refine ⟨?_, fun member => slash (eq_of_mem_repeated member).symm, ?_, ?_⟩
    <;> intro same <;> rw [same] at first
  · cases first
  · exact dot (by simpa using first)
  · exact dot (by simpa using first)

/-- Names for directories and for a file at their end, and their lengths: the path of sixteen such
directories is accepted, that of the file is not.
-/
theorem deepNames
    : Path.IsPlain (repeated 'd' 240)
      ∧ Path.IsPlain (repeated 'x' 250)
      ∧ (repeated 'd' 240).utf8ByteSize = 240
      ∧ (repeated 'x' 250).utf8ByteSize = 250 := by
  refine ⟨repeated_isPlain (by decide) (by decide) (by decide),
    repeated_isPlain (by decide) (by decide) (by decide), ?_, ?_⟩
  · rw [utf8ByteSize_repeated]
    decide
  · rw [utf8ByteSize_repeated]
    decide

/-- Directories with these names, the path through them, and a file at its end. -/
def deepTree : FileTree := corridor (repeated 'd' 240) (15 + 1)

def deepPath : String := corridorPath (repeated 'd' 240) (15 + 1)

def litteredTree : FileTree := littered (repeated 'd' 240) (repeated 'x' 250) (15 + 1)

-----------------------------------------------------------------------------------------
-- A program that removes the suite
-----------------------------------------------------------------------------------------

/-- An executor under which every program prints its own text and then removes all files. -/
def ravaging : Executor Unit := fun invocation tree cancelled host =>
  { quoting invocation tree cancelled host with tree := ⟨[], tree.home⟩ }

/-- Its answers depend on nothing but the program, too. -/
theorem ravaging_determined : ravaging.Determined :=
  quoting_determined

/-- A harness with this executor. -/
def ravagingHarness : Harness Unit :=
  { quotingHarness Discovery.shortLayout fun _ => false with executor := ravaging }

/-- Nothing is written where there are no directories. -/
theorem writeFile_nowhere (data : Bytes)
    : (⟨[], []⟩ : FileTree).writeFile "s/a.txt" data
      = .error (.refused "open" "s/a.txt" .noEntry) := by
  have steps : stepsOf "s/a.txt" = ["s", "a.txt"] := by decide
  have located : (⟨[], []⟩ : FileTree).locate true "s/a.txt" = .error .noEntry := by
    rw [locate_relative (by decide) (by decide) (by decide) (by decide) steps]
    cbv
  simp [writeFile, located]

/-- A reset of the suite makes its scratch directory. -/
theorem reset_soloSuite : Scratch.reset soloSuite "s" = (soloSuiteReset, none) := by
  cbv

/-- A run over the suite with this executor records one result and leaves no files. -/
theorem run_ravaging_soloSuite
    : (ravagingHarness.run (.start soloSuite () false)).session.tree = ⟨[], []⟩
      ∧ ∃ result,
          (ravagingHarness.run (.start soloSuite () false)).tally = some ⟨[result], 0, 1⟩ := by
  have found : Discovery.discover soloSuiteReset Discovery.shortLayout (fun _ => true)
      = .ok [soloCase "o/a.txt"] := by
    cbv
  have home : soloSuiteReset.home = [] := rfl
  rw [run_eq_ending (h := ravagingHarness) reset_soloSuite found, runCases_cons]
  simp [step, opening, ravagingHarness, quotingHarness, ravaging, quoting, Session.start,
    Session.poll, Session.log, Session.print, reported, runCase, execute, openInput,
    TestCase.hasInput, soloCase, call, soloSuite_written.1, Scripted.plainExecution, keepOutput,
    writeFile_nowhere, home, Finding.of, Fault.joinedTo, Fault.filesystem, Fault.has,
    Finding.result, Finding.verdict, Finding.remark?, runCases, ending, Tally.record, Tally.empty]

/-- A run where there are no files records nothing. -/
theorem run_ravaging_nowhere
    : (ravagingHarness.run (.start ⟨[], []⟩ () false)).tally = some .empty := by
  have reset : Scratch.reset ⟨[], []⟩ "s" = (⟨[(["s"], .directory)], []⟩, none) := by cbv
  have found : Discovery.discover ⟨[(["s"], .directory)], []⟩ Discovery.shortLayout (fun _ => true)
      = .ok [] := by
    cbv
  rw [run_eq_ending (h := ravagingHarness) reset found]
  rfl

/-- Both provisos are needed. A file at the end of a path that is nearly as long as paths may be
cannot be removed, and runs are told apart by it. And if the executor removes the suite, a second
run is told apart from the first one, though the answers depend on the program and its input alone.
-/
theorem run_remembers_residue
    : (quoting.Determined
        ∧ quoting.KeepsTree
        ∧ deepTree.WellFormed
        ∧ litteredTree.WellFormed
        ∧ Straight deepTree deepPath
        ∧ Changed (Scratch.Alters (placeOf deepTree.home deepPath)) deepTree litteredTree
        ∧ ¬(quotingHarness { Discovery.shortLayout with scratch := deepPath }
              fun _ => false).Indistinguishable
            (.start litteredTree () false) (.start deepTree () false))
      ∧ ravaging.Determined
      ∧ soloSuite.WellFormed
      ∧ Straight soloSuite "s"
      ∧ (Scratch.reset soloSuite "s").2 = none
      ∧ ¬ravagingHarness.Indistinguishable
            (.start (ravagingHarness.run (.start soloSuite () false)).session.tree () false)
            (.start soloSuite () false) := by
  refine ⟨?_, ravaging_determined, by decide, by decide, by rw [reset_soloSuite], ?_⟩
  · obtain ⟨plain, plainResidue, size, residueSize⟩ := deepNames
    have different : repeated 'x' 250 ≠ repeated 'd' 240 := by
      intro same
      rw [same, size] at residueSize
      cases residueSize
    have other : repeated 'x' 250 ≠ Scratch.placeholder := by
      intro same
      rw [same] at residueSize
      cases residueSize
    have allowed : '\x00' ∉ (repeated 'd' 240).toList := fun zero =>
      absurd (eq_of_mem_repeated zero) (by decide)
    have accepted : IsAccepted deepPath :=
      corridorPath_accepted plain allowed (by rw [size]; decide) (by rw [size]; decide)
    obtain ⟨wf, home, _⟩ := corridor_directories plain (15 + 1)
    obtain ⟨wfLittered, changed, _⟩ :=
      littered_changed plain plainResidue different other (15 + 1)
    rw [← (corridorPath_leads plain 15).2.2.2, ← home] at changed
    exact ⟨quoting_determined, quoting_keepsTree, wf, wfLittered, corridor_straight plain 15,
      changed, distinguishable_of_littered plain plainResidue different other rfl accepted
        (by rw [size, residueSize]; decide) () () false⟩
  · intro same
    obtain ⟨tree, result, recorded⟩ := run_ravaging_soloSuite
    have tallies := same.tally
    rw [tree, run_ravaging_nowhere, recorded] at tallies
    cases tallies

end Harness

end GoldenSuite

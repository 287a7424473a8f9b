import GoldenSuite.Proofs.Fault.Refusal
import GoldenSuite.Proofs.Run.StrictExit

/-! How a case is classified. Its kind of failure is the first that applies of a fixed list: faults
by their marks, the timeout, a reference that is missing or cannot be read, an output that differs
from it, and an exit status that is not accepted. What is compared is the output as it can be read
back, which is what was printed unless a device has taken it.
-/

namespace GoldenSuite

-----------------------------------------------------------------------------------------
-- The order of the kinds
-----------------------------------------------------------------------------------------

/-- Whether two outputs have different lengths, or different bytes at some offset. -/
def Bytes.differ (left right : Bytes) : Bool :=
  left.length ≠ right.length
  || (List.range left.length).any fun offset => left[offset]? ≠ right[offset]?

/-- Outputs that do not differ are the same. -/
theorem Bytes.differ_eq_false_iff {left right : Bytes}
    : left.differ right = false ↔ left = right := by
  refine ⟨fun alike => ?_, ?_⟩
  · obtain ⟨lengths, bytes⟩ := Bool.or_eq_false_iff.mp alike
    have long : left.length = right.length := by simpa using lengths
    refine List.ext_getElem? fun offset => ?_
    by_cases within : offset < left.length
    · simpa using List.any_eq_false.mp bytes offset (List.mem_range.mpr within)
    · have beyond : left.length ≤ offset := Nat.le_of_not_lt within
      rw [List.getElem?_eq_none beyond, List.getElem?_eq_none (long ▸ beyond)]
  · rintro rfl
    simp [Bytes.differ]

/-- Two outputs fail exactly if they differ. -/
theorem Verdict.ofBytes_eq (output expected : Bytes)
    : Verdict.ofBytes output expected = if output.differ expected then .fail else .pass := by
  cases differ : output.differ expected with
  | true =>
      have other : output ≠ expected := by
        rw [Ne, ← Bytes.differ_eq_false_iff, differ]
        decide
      simp [Verdict.ofBytes, other]
  | false => simp [Verdict.ofBytes, Bytes.differ_eq_false_iff.mp differ]

namespace FailureKind

/-- Whether a file could not be read for a fault of a kind. -/
def unread (blamed : Fault → Bool) : Except Fault Bytes → Bool
  | .error cause => blamed cause
  | .ok _ => false

/-- Whether a file could be read and an output differs from it. -/
def unequal (output : Bytes) : Except Fault Bytes → Bool
  | .error _ => false
  | .ok expected => output.differ expected

/-- The kinds in the order in which they are looked for, each with whether it applies to an
execution that ended with a fault or without one, to what came of reading its reference, and to what
was read of its output.
-/
def priority (strictExit : Bool) (execution : Execution) (fault : Option Fault)
    (reference : Except Fault Bytes) (output : Bytes)
    : List (Bool × FailureKind) :=
  [ (fault.any (Fault.has .launch), .launchFailure),
    (fault.any (Fault.has .filesystem), .filesystemFailure),
    (fault.isSome, .launchFailure),
    (execution.timedOut, .timeout),
    (unread (Fault.has .notExist) reference, .missingReference),
    (unread (fun _ => true) reference, .filesystemFailure),
    (unequal output reference, .outputMismatch),
    (strictExit && execution.exitCode ≠ 0, .nonZeroExit) ]

/-- The first kind that applies, and none if there is no such kind. -/
def firstOf : List (Bool × FailureKind) → FailureKind
  | [] => .none
  | (applies, kind) :: rest => if applies then kind else firstOf rest

end FailureKind

-----------------------------------------------------------------------------------------
-- Judging an execution
-----------------------------------------------------------------------------------------

/-- The kind of a finding is the first that applies, if the output of a case without a fault can be
read.
-/
theorem Finding.kind_of_eq_firstOf {strictExit : Bool} {tree : FileTree} {tc : TestCase}
    {execution : Execution} {fault : Option Fault} {output : Bytes}
    (read : fault = none → tree.readFile tc.actual = .ok output)
    : (Finding.of strictExit tree tc execution fault).kind
      = .firstOf
          (FailureKind.priority strictExit execution fault (tree.readFile tc.reference)
            output) := by
  cases fault with
  | some fault =>
      simp only [Finding.of, FailureKind.priority, FailureKind.firstOf, Option.any_some,
        Option.isSome_some, if_true]
      split
      · rfl
      · split <;> rfl
  | none =>
      simp only [Finding.of, FailureKind.priority, FailureKind.firstOf, Option.any_none,
        Option.isSome_none, Bool.false_eq_true, if_false]
      split
      · rfl
      -- The output can be read, so the comparison fails for the reference alone.
      · cases wanted : tree.readFile tc.reference with
        | error cause =>
            have unmarked : (Fault.filesystem "reading reference" cause).has .missingReference
                = false :=
              (FileTree.isRefusal_of_readFile wanted).has_filesystem _ (by decide)
            simp only [Verdict.ofFiles, wanted, FailureKind.unread, if_true]
            by_cases missing : cause.has .notExist
            · simp [missing, Fault.has, Finding.kind]
            · simp [missing, unmarked, Finding.kind]
        | ok expected =>
            simp only [Verdict.ofFiles, wanted, read rfl, Verdict.ofBytes_eq, FailureKind.unread,
              FailureKind.unequal, Bool.false_eq_true, if_false]
            by_cases differ : output.differ expected = true
            · simp [differ, Finding.kind]
            · simp only [if_neg differ]
              split <;> rfl

/-- Only a pass is of no kind of failure. -/
theorem Finding.verdict_eq_pass_iff (finding : Finding)
    : finding.verdict = .pass ↔ finding.kind = .none := by
  cases finding <;> simp [Finding.verdict, Finding.kind]

/-- A fault that is joined to another one carries the marks of both. -/
theorem Fault.has_joinedTo (earlier : Option Fault) (later : Fault) (mark : Mark)
    : (Fault.joinedTo earlier later).has mark
      = (earlier.any (Fault.has mark) || later.has mark) := by
  cases earlier <;> simp [Fault.joinedTo, Fault.has]

/-- A fault that is marked as one of the file system and not as one of the launch is a failure of
the file system, whatever else holds.
-/
theorem FailureKind.firstOf_filesystem {fault : Fault} (unlaunched : fault.has .launch = false)
    (marked : fault.has .filesystem = true) (strictExit : Bool) (execution : Execution)
    (reference : Except Fault Bytes) (output : Bytes)
    : firstOf (priority strictExit execution (some fault) reference output)
      = .filesystemFailure := by
  simp [priority, firstOf, unlaunched, marked]

-----------------------------------------------------------------------------------------
-- Running a case
-----------------------------------------------------------------------------------------

namespace Harness

variable {σ : Type} {h : Harness σ} {s : Session σ} {tc : TestCase} {tree : FileTree}
  {execution : Execution} {fault : Option Fault}

/-- The output of an execution without a fault can be read as far as its path keeps it. -/
theorem Executed.readFile_actual (executed : h.Executed s tc tree execution fault)
    (faultless : fault = none)
    : tree.readFile tc.actual = .ok (tree.kept tc.actual execution.stdout) := by
  cases executed with
  | unopened refused => cases faultless
  | written called wrote => exact FileTree.readFile_writeFile wrote
  | unwritten called refused => cases faultless

/-- An execution is of the first kind that applies. -/
theorem Executed.kind_eq_firstOf (executed : h.Executed s tc tree execution fault)
    (strictExit : Bool)
    : (Finding.of strictExit tree tc execution fault).kind
      = .firstOf
          (FailureKind.priority strictExit execution fault (tree.readFile tc.reference)
            (tree.kept tc.actual execution.stdout)) :=
  Finding.kind_of_eq_firstOf executed.readFile_actual

/-- An input that cannot be opened is a failure of the file system. -/
theorem Executed.fault_of_unopened {cause : Fault}
    (executed : h.Executed s tc tree execution fault)
    (refused : openInput s.tree tc = .error cause)
    : ∃ marked,
        fault = some marked ∧ marked.has .launch = false ∧ marked.has .filesystem = true := by
  obtain ⟨_, _, rfl⟩ := executed.of_unopened refused
  unfold openInput at refused
  split at refused
  · split at refused
    · cases refused
    · rename_i inner unopened
      cases refused
      have refusal := FileTree.isRefusal_of_openPath unopened
      exact ⟨_, rfl, refusal.has_filesystem _ (by decide), refusal.has_filesystem _ (by decide)⟩
  · cases refused

/-- An output that cannot be written is a failure of the file system, and one of the launch only if
the executor's fault was.
-/
theorem Executed.fault_of_unwritten {call : Exchange σ} {cause : Fault}
    (executed : h.Executed s tc tree execution fault) (called : h.callsFor s tc = [call])
    (refused : call.reply.tree.writeFile tc.actual call.reply.execution.stdout = .error cause)
    : ∃ marked,
        fault = some marked
        ∧ marked.has .launch = call.reply.fault.any (Fault.has .launch)
        ∧ marked.has .filesystem = true := by
  cases executed with
  | unopened unopened =>
      rw [callsFor_eq_openInput, unopened] at called
      cases called
  | written again wrote =>
      obtain rfl := List.singleton_inj.mp (again.symm.trans called)
      rw [wrote] at refused
      cases refused
  | unwritten again refused' =>
      obtain rfl := List.singleton_inj.mp (again.symm.trans called)
      have refusal := FileTree.isRefusal_of_writeFile refused'
      refine ⟨_, rfl, ?_, ?_⟩
      · rw [Fault.has_joinedTo, refusal.has_filesystem _ (by decide)]
        simp
      · rw [Fault.has_joinedTo, refusal.has_filesystem _ (by decide)]
        simp

/-- A case is classified by the first kind that applies. If nothing asks the run to stop, every case
comes back with a result, whatever the executor answers. With the execution, and the fault of opening
the input, of the executor, or of writing the output, the kind of the result is the first in the
order of the kinds that applies to them, to the reference as it is read after the output was
written, and to the output as it is kept, which is all that was printed unless its path leads to a
device. The case passes exactly if no kind applies. An input that cannot be opened is always a
failure of the file system, and so is an output that cannot be written, unless the program could not
be launched.
-/
theorem runCase_kind_eq_firstOf (calm : h.Undisturbed) (running : s.cancelled = false)
    (tc : TestCase)
    : ∃ after result execution fault,
        h.runCase s tc = (after, some result)
        ∧ h.Executed s tc after.tree execution fault
        ∧ result.kind
          = .firstOf
              (FailureKind.priority h.config.strictExit execution fault
                (after.tree.readFile tc.reference)
                (after.tree.kept tc.actual execution.stdout))
        ∧ (after.tree.NoDevice tc.actual
          → after.tree.kept tc.actual execution.stdout = execution.stdout)
        ∧ (result.verdict = .pass ↔ result.kind = .none)
        ∧ result.exitCode = execution.exitCode
        ∧ result.signal = execution.signal
        ∧ ((∃ cause, openInput s.tree tc = .error cause) → result.kind = .filesystemFailure)
        ∧ ∀ call cause,
            h.callsFor s tc = [call]
            → call.reply.tree.writeFile tc.actual call.reply.execution.stdout = .error cause
            → call.reply.fault.any (Fault.has .launch) = false
            → result.kind = .filesystemFailure := by
  obtain ⟨after, result, ran, _⟩ := calm.runCase running tc
  obtain ⟨execution, fault, executed, rfl⟩ := executed_of_runCase_some ran
  have kind := executed.kind_eq_firstOf h.config.strictExit
  refine ⟨after, _, execution, fault, ran, executed, kind, fun noDevice => noDevice.kept_eq _,
    Finding.verdict_eq_pass_iff _, rfl, rfl, ?_, ?_⟩
  · rintro ⟨cause, refused⟩
    obtain ⟨marked, rfl, unlaunched, filesystem⟩ := executed.fault_of_unopened refused
    exact kind.trans (FailureKind.firstOf_filesystem unlaunched filesystem _ _ _ _)
  · intro call cause called refused unlaunched
    obtain ⟨marked, rfl, launch, filesystem⟩ := executed.fault_of_unwritten called refused
    exact kind.trans
      (FailureKind.firstOf_filesystem (launch.trans unlaunched) filesystem _ _ _ _)

-----------------------------------------------------------------------------------------
-- Two marks at once
-----------------------------------------------------------------------------------------

/-- Nothing stops a harness that is never asked to stop, and whose executor never asks it to. -/
theorem answering_undisturbed (answer : Invocation → FileTree → Execution × Option Fault)
    (strictExit : Bool)
    : (answering answer strictExit fun _ => false).Undisturbed :=
  ⟨fun _ => rfl, fun _ _ _ _ => rfl⟩

/-- A harness that cannot launch any program. -/
def unlaunching : Harness Unit :=
  answering
    (fun invocation _ =>
      (.notStarted,
        some (.context "giving up: " (.launch invocation.program (.plain "no machine")))))
    false fun _ => false

/-- If neither the program can be launched nor its output be written, it is the launch that the
case fails for.
-/
theorem runCase_kind_eq_firstOf_unlaunched
    : unlaunching.Undisturbed
      ∧ (⟨[], []⟩ : FileTree).writeFile "s/a.txt" []
        = .error (.refused "open" "s/a.txt" .noEntry)
      ∧ ∃ after result,
          unlaunching.runCase (.start ⟨[], []⟩ () false) (soloCase "o/a.txt")
            = (after, some result)
          ∧ result.kind = .launchFailure
          ∧ result.verdict = .fail := by
  have calm : unlaunching.Undisturbed := answering_undisturbed _ _
  have unwritten
      : (⟨[], []⟩ : FileTree).writeFile "s/a.txt" []
        = .error (.refused "open" "s/a.txt" .noEntry) := by
    have lost : (⟨[], []⟩ : FileTree).locate true "s/a.txt" = .error .noEntry :=
      (locate_soloPaths ⟨[], []⟩).2.2.trans (by cbv)
    simp only [FileTree.writeFile, lost]
  refine ⟨calm, unwritten, ?_⟩
  obtain ⟨after, result, execution, fault, ran, executed, kind, _, passes, _⟩ :=
    runCase_kind_eq_firstOf (s := .start ⟨[], []⟩ () false) calm rfl (soloCase "o/a.txt")
  have opened : openInput (⟨[], []⟩ : FileTree) (soloCase "o/a.txt") = .ok none := rfl
  have marked : fault.any (Fault.has .launch) = true := by
    obtain ⟨_, ⟨_, rfl⟩ | ⟨_, _, _, rfl⟩⟩ := executed.of_opened (fun _ _ _ _ => rfl) opened
    · rfl
    · rfl
  have launch : result.kind = .launchFailure := by
    rw [kind]
    simp [FailureKind.priority, FailureKind.firstOf, marked]
  refine ⟨after, result, ran, launch, ?_⟩
  cases verdict : result.verdict with
  | fail => rfl
  | pass =>
      rw [passes.mp verdict] at launch
      cases launch

-----------------------------------------------------------------------------------------
-- An output that a device takes
-----------------------------------------------------------------------------------------

/-- A program and its reference, with a device where the output is written. -/
def drainedSuite : FileTree where
  nodes := (["s"], .directory) :: (["s", "a.txt"], .sink) :: soloSuite.nodes
  home := []

/-- If the path of an output leads to a device, a case fails whose program has printed nothing but
its reference.
-/
theorem runCase_kind_of_device
    : (crashing false).Undisturbed
      ∧ ∃ after result execution,
          (crashing false).runCase (.start drainedSuite () false) (soloCase "o/a.txt")
            = (after, some result)
          ∧ (crashing false).Executed (.start drainedSuite () false) (soloCase "o/a.txt")
              after.tree execution none
          ∧ after.tree.readFile "o/a.txt" = .ok execution.stdout
          ∧ result.kind = .outputMismatch
          ∧ FailureKind.firstOf
              (FailureKind.priority false execution none (after.tree.readFile "o/a.txt")
                execution.stdout)
            = .none := by
  have calm : (crashing false).Undisturbed := answering_undisturbed _ _
  refine ⟨calm, ?_⟩
  obtain ⟨toProgram, toReference, toOutput⟩ := locate_soloPaths drainedSuite
  have program : drainedSuite.readFile "v/a.v" = .ok [65] :=
    FileTree.readFile_eq_ok_iff.mpr ⟨["v", "a.v"], toProgram.trans (by cbv), by decide⟩
  have reference : drainedSuite.readFile "o/a.txt" = .ok [65] :=
    FileTree.readFile_eq_ok_iff.mpr ⟨["o", "a.txt"], toReference.trans (by cbv), by decide⟩
  have led : drainedSuite.locate true "s/a.txt" = .ok ["s", "a.txt"] := toOutput.trans (by cbv)
  have device : drainedSuite.find? ["s", "a.txt"] = some .sink := by decide
  have wrote : drainedSuite.writeFile "s/a.txt" [65] = .ok drainedSuite := by
    simp only [FileTree.writeFile, led, device]
  have nothing : drainedSuite.kept "s/a.txt" [65] = [] := by
    simp only [FileTree.kept, FileTree.look, led, device]
  obtain ⟨after, result, ran, _⟩ :=
    calm.runCase (s := .start drainedSuite () false) rfl (soloCase "o/a.txt")
  obtain ⟨execution, fault, executed, rfl⟩ := executed_of_runCase_some ran
  have kind := executed.kind_eq_firstOf (crashing false).config.strictExit
  have opened : openInput drainedSuite (soloCase "o/a.txt") = .ok none := rfl
  obtain ⟨told, outcome⟩ := executed.of_opened (fun _ _ _ _ => rfl) opened
  obtain rfl : execution = Scripted.plainExecution [65] 3 := by
    rw [told]
    simp [exchange, crashing, answering, soloCase, Session.start, program, Except.toOption]
  rcases outcome with ⟨same, faultless⟩ | ⟨_, refused, _⟩
  · have unchanged : drainedSuite = after.tree := Except.ok.inj (wrote.symm.trans same)
    obtain rfl : fault = none := faultless
    refine ⟨after, _, _, ran, executed, ?_⟩
    rw [← unchanged] at kind ⊢
    have row
        : FailureKind.firstOf
            (FailureKind.priority false (Scripted.plainExecution [65] 3) none
              (drainedSuite.readFile "o/a.txt") (drainedSuite.kept "s/a.txt" [65]))
          = .outputMismatch := by
      rw [reference, nothing]
      decide
    refine ⟨reference, ?_, ?_⟩
    · rw [← row]
      unfold finding
      rw [← unchanged]
      exact kind
    · rw [reference]
      decide
  · exact absurd (wrote.symm.trans refused) (by simp)

end Harness

end GoldenSuite

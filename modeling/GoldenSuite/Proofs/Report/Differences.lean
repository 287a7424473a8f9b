import GoldenSuite.Proofs.Run.Passing
import GoldenSuite.Proofs.Run.Transcript

/-! What is printed about outputs that are not their references. Byte strings are cut into the same
lines exactly if they are the same, so wherever a comparison fails there is a difference to show. A
run that shows differences prints a block of them after every recorded mismatch, and after no other
result.
-/

namespace GoldenSuite

-----------------------------------------------------------------------------------------
-- Lines
-----------------------------------------------------------------------------------------

namespace Bytes

/-- The pieces of a byte string that is cut after every newline: they make up the whole, all but the
last end in the only newline they hold, and the last one holds none.
-/
structure CutAfterNewlines (bytes : Bytes) (pieces : List Bytes) : Prop where
  whole : pieces.flatten = bytes
  lines
    : ∃ (front : List Bytes) (last : Bytes),
        pieces = front.map (· ++ [10]) ++ [last]
        ∧ (∀ line ∈ front, 10 ∉ line)
        ∧ 10 ∉ last

/-- A newline in front is a piece of its own. -/
theorem CutAfterNewlines.newline {rest : Bytes} {pieces : List Bytes}
    (cut : CutAfterNewlines rest pieces)
    : CutAfterNewlines (10 :: rest) ([10] :: pieces) := by
  obtain ⟨front, last, rfl, unbroken, ending⟩ := cut.lines
  refine ⟨?_, [] :: front, last, rfl, ?_, ending⟩
  · rw [List.flatten_cons, cut.whole]
    rfl
  · intro line member
    rcases List.mem_cons.mp member with rfl | inner
    · exact List.not_mem_nil
    · exact unbroken line inner

/-- Another byte in front belongs to the first piece. -/
theorem CutAfterNewlines.other {byte : UInt8} {rest piece : Bytes} {pieces : List Bytes}
    (different : byte ≠ 10) (cut : CutAfterNewlines rest (piece :: pieces))
    : CutAfterNewlines (byte :: rest) ((byte :: piece) :: pieces) := by
  have whole : ((byte :: piece) :: pieces).flatten = byte :: rest := by
    rw [← cut.whole]
    rfl
  have unbroken {line : Bytes} (inner : 10 ∉ line) : 10 ∉ byte :: line := by
    rw [List.mem_cons, not_or]
    exact ⟨different.symm, inner⟩
  obtain ⟨front, last, split, lines, ending⟩ := cut.lines
  cases front with
  | nil =>
      obtain ⟨rfl, rfl⟩ := List.cons.inj split
      exact ⟨whole, [], byte :: piece, rfl, by simp, unbroken ending⟩
  | cons line front =>
      obtain ⟨rfl, rfl⟩ := List.cons.inj split
      refine ⟨whole, (byte :: line) :: front, last, rfl, ?_, ending⟩
      intro other member
      rcases List.mem_cons.mp member with rfl | inner
      · exact unbroken (lines line List.mem_cons_self)
      · exact lines other (List.mem_cons_of_mem line inner)

/-- A byte string is cut after its newlines, by induction over its bytes. -/
theorem cutAfterNewlines_splitAfterNewline (bytes : Bytes)
    : CutAfterNewlines bytes (splitAfterNewline bytes) := by
  induction bytes with
  | nil => exact ⟨rfl, [], [], rfl, by simp, List.not_mem_nil⟩
  | cons byte rest ih =>
      unfold splitAfterNewline
      split
      · rename_i newline
        subst newline
        exact ih.newline
      · rename_i different
        cases pieces : splitAfterNewline rest with
        | nil =>
            rw [pieces] at ih
            obtain ⟨front, last, split, _⟩ := ih.lines
            simp at split
        | cons piece pieces' =>
            rw [pieces] at ih
            exact ih.other different

/-- Byte strings have the same lines exactly if they are the same, since the lines make up the
whole.
-/
theorem splitAfterNewline_inj {left right : Bytes}
    : splitAfterNewline left = splitAfterNewline right ↔ left = right := by
  constructor
  · intro same
    rw [← (cutAfterNewlines_splitAfterNewline left).whole, same,
      (cutAfterNewlines_splitAfterNewline right).whole]
  · rintro rfl
    rfl

end Bytes

/-- A report on two texts is empty exactly if they are the same. -/
theorem Diff.report_eq_nil_iff {reference actual : Bytes}
    : Diff.report reference actual = [] ↔ reference = actual := by
  rw [← Bytes.splitAfterNewline_inj]
  unfold Diff.report
  dsimp only
  split
  · rename_i same
    exact iff_of_true rfl same
  · rename_i different
    exact iff_of_false (by simp) different

-----------------------------------------------------------------------------------------
-- Blocks of differences
-----------------------------------------------------------------------------------------

namespace Reporter

/-- The line above the differences of a case. -/
def heading (reporter : Reporter) : String :=
  reporter.paint .yellow "  (-reference +actual):" ++ "\n"

/-- A block of differences: the heading, and at least one indented line below it. -/
def IsBlock (reporter : Reporter) (text : String) : Prop :=
  ∃ lines : List String,
    lines ≠ [] ∧ text = reporter.heading ++ String.join (lines.map fun line => "  " ++ line ++ "\n")

/-- Files that differ have a block of differences. -/
theorem isBlock_diff {tree : FileTree} {tc : TestCase} {want got : Bytes} (reporter : Reporter)
    (reference : tree.readFile tc.reference = .ok want)
    (actual : tree.readFile tc.actual = .ok got) (different : got ≠ want)
    : reporter.IsBlock (reporter.diff tree tc) := by
  have some : Diff.report want got ≠ [] := by
    intro none
    exact different (Diff.report_eq_nil_iff.mp none).symm
  refine ⟨Diff.report want got, some, ?_⟩
  unfold diff
  rw [reference, actual]
  dsimp only
  split
  · rename_i none
    exact absurd none some
  · rfl

/-- What has to follow the line about a result: a block of differences if the output is not the
reference, and nothing otherwise.
-/
structure Explains (reporter : Reporter) (result : CaseResult) (block : String) : Prop where
  mismatch : result.kind = .outputMismatch → reporter.IsBlock block
  other : result.kind ≠ .outputMismatch → block = ""

/-- What is printed about a case with its result: the line before it, the line about the result, and
what follows.
-/
def account (reporter : Reporter) (result : CaseResult) (block : String) : String :=
  reporter.starting result.tc ++ reporter.verdictLine result ++ block

end Reporter

-----------------------------------------------------------------------------------------
-- Mismatches
-----------------------------------------------------------------------------------------

/-- Two files fail only if both can be read and do not have the same bytes. -/
theorem Verdict.of_ofFiles_fail {tree : FileTree} {actual reference : String}
    (compared : Verdict.ofFiles tree actual reference = .ok .fail)
    : ∃ want got,
        tree.readFile reference = .ok want ∧ tree.readFile actual = .ok got ∧ got ≠ want := by
  unfold Verdict.ofFiles at compared
  split at compared
  · split at compared <;> cases compared
  · rename_i want wanted
    split at compared
    · cases compared
    · rename_i got printed
      refine ⟨want, got, wanted, printed, fun same => ?_⟩
      rw [Verdict.ofBytes_eq_pass_iff.mpr same] at compared
      cases compared

/-- An output is found not to be its reference only if both can be read and differ. -/
theorem Finding.of_kind_mismatch {strictExit : Bool} {tree : FileTree} {tc : TestCase}
    {execution : Execution} {fault : Option Fault}
    (found : (Finding.of strictExit tree tc execution fault).kind = .outputMismatch)
    : ∃ want got,
        tree.readFile tc.reference = .ok want ∧ tree.readFile tc.actual = .ok got ∧ got ≠ want := by
  unfold Finding.of at found
  split at found
  · split at found
    · cases found
    · split at found <;> cases found
  · split at found
    · cases found
    · split at found
      · split at found <;> cases found
      · rename_i compared
        exact Verdict.of_ofFiles_fail compared
      · split at found <;> cases found

namespace Harness

variable {σ : Type} {h : Harness σ}

/-- A step that records a result prints an account of it. Witness: the files that were compared are
still as they were when their differences are looked for.
-/
theorem account_of_step_some {s final : Session σ} {tc : TestCase} {result : CaseResult}
    (shown : h.reporter.showDiff = true) (recorded : h.step s tc = (final, some result))
    : ∃ block,
        h.reporter.Explains result block
        ∧ final.output = s.output ++ h.reporter.account result block := by
  have printed := output_of_step_some recorded
  obtain ⟨execution, fault, _, judged⟩ := executed_of_step_some recorded
  have own := tc_of_step_some recorded
  by_cases mismatch : result.kind = .outputMismatch
  · have text : h.reporter.finished final.tree result
        = h.reporter.verdictLine result ++ h.reporter.diff final.tree result.tc := by
      simp [Reporter.finished, shown, mismatch]
    refine ⟨h.reporter.diff final.tree result.tc, ⟨fun _ => ?_, fun other => ?_⟩, ?_⟩
    · obtain ⟨want, got, reference, actual, different⟩ :
          ∃ want got,
            final.tree.readFile tc.reference = .ok want
            ∧ final.tree.readFile tc.actual = .ok got
            ∧ got ≠ want := by
        rw [judged] at mismatch
        exact Finding.of_kind_mismatch mismatch
      rw [own]
      exact h.reporter.isBlock_diff reference actual different
    · exact absurd mismatch other
    · rw [printed, text, Reporter.account, own]
      simp only [String.append_assoc]
  · have text : h.reporter.finished final.tree result = h.reporter.verdictLine result := by
      simp [Reporter.finished, mismatch]
    refine ⟨"", ⟨fun same => absurd same mismatch, fun _ => rfl⟩, ?_⟩
    rw [printed, text, Reporter.account, own]
    simp only [String.append_empty]

/-- Steps print an account of each result, by induction over the steps. -/
theorem Steps.accounts {s final : Session σ} {ran : List TestCase} {results : List CaseResult}
    (shown : h.reporter.showDiff = true) (steps : h.Steps s ran results final)
    : ∃ blocks,
        List.Forall₂ h.reporter.Explains results blocks
        ∧ final.output
          = s.output ++ String.join (List.zipWith h.reporter.account results blocks) := by
  induction steps with
  | done s => exact ⟨[], .nil, by simp⟩
  | next first _ ih =>
      obtain ⟨block, explains, printed⟩ := account_of_step_some shown first
      obtain ⟨blocks, others, later⟩ := ih
      refine ⟨block :: blocks, .cons explains others, ?_⟩
      rw [later, printed, List.zipWith_cons_cons, String.join_cons, String.append_assoc]

/-- Differences are shown exactly where a comparison has failed. Two byte strings are cut into the
same lines exactly if one passes as the other, and the lines of each make it up. So in a run that
shows differences the line about every recorded mismatch is followed by a block of them, which
begins with its heading, and the line about any other result by nothing; after all results comes at
most the line before one more case.
-/
theorem run_shows_differences (σ : Type)
    : (∀ want got : Bytes,
        (Bytes.splitAfterNewline want = Bytes.splitAfterNewline got
          ↔ Verdict.ofBytes got want = .pass)
        ∧ Bytes.CutAfterNewlines want (Bytes.splitAfterNewline want)
        ∧ Bytes.CutAfterNewlines got (Bytes.splitAfterNewline got))
      ∧ ∀ (h : Harness σ) (s : Session σ) (tally : Tally),
          h.reporter.showDiff = true
          → (h.run s).tally = some tally
          → ∃ blocks further,
              (h.run s).session.output
                = s.output ++ String.join (List.zipWith h.reporter.account tally.results blocks)
                    ++ further
              ∧ List.Forall₂ h.reporter.Explains tally.results blocks
              ∧ (further = "" ∨ ∃ tc, further = h.reporter.starting tc) := by
  refine ⟨fun want got => ⟨?_, ?_, ?_⟩, fun h s tally shown tallied => ?_⟩
  · rw [Bytes.splitAfterNewline_inj, Verdict.ofBytes_eq_pass_iff, eq_comm]
  · exact Bytes.cutAfterNewlines_splitAfterNewline want
  · exact Bytes.cutAfterNewlines_splitAfterNewline got
  · obtain ⟨tree, cases, reset, found⟩ := exists_of_run_tally tallied
    obtain ⟨ran, rest, results, reached, _, steps, finish⟩ :=
      h.runCases_steps (h.opening s tree cases) .empty cases
    have recorded := finish.ending_facts.1
    have printed := finish.output
    rw [← run_eq_ending reset found] at recorded printed
    obtain rfl := Option.some.inj (tallied.symm.trans recorded)
    have listed : (Tally.empty.recordAll results).results = results :=
      Tally.results_recordAll .empty results
    obtain ⟨blocks, explained, output⟩ := steps.accounts shown
    rw [listed]
    refine ⟨blocks, h.furtherText reached rest, ?_, explained, ?_⟩
    · rw [printed, output]
      rfl
    · cases rest with
      | nil => exact Or.inl rfl
      | cons tc rest =>
          rw [furtherText]
          split
          · exact Or.inl rfl
          · exact Or.inr ⟨tc, rfl⟩

-----------------------------------------------------------------------------------------
-- One program with another reference
-----------------------------------------------------------------------------------------

/-- A program that does not print its reference. -/
def strayedSuite : FileTree where
  nodes :=
    [(["v"], .directory), (["v", "a.v"], .file [65] 0o644), (["o"], .directory),
      (["o", "a.txt"], .file [66] 0o644)]
  home := []

/-- That suite once its scratch directory has been made. -/
def strayedSuiteReset : FileTree where
  nodes := (["s"], .directory) :: strayedSuite.nodes
  home := []

/-- That suite once the output of its case has been written. -/
def strayedSuiteWritten : FileTree :=
  strayedSuiteReset.put ["s", "a.txt"] (.file [65] FileTree.plainMode)

/-- A harness whose programs print their own text, and that shows differences. -/
def showing : Harness Scripted.State :=
  { echoing Discovery.shortLayout (fun _ => false) with reporter := ⟨false, true⟩ }

/-- The output of the suite is written, and it is not the reference. -/
theorem strayedSuite_compared
    : strayedSuiteReset.readFile "v/a.v" = .ok [65]
      ∧ strayedSuiteReset.writeFile "s/a.txt" [65] = .ok strayedSuiteWritten
      ∧ Verdict.ofFiles strayedSuiteWritten "s/a.txt" "o/a.txt" = .ok .fail := by
  have program : strayedSuiteReset.locate true "v/a.v" = .ok ["v", "a.v"] := by
    rw [(locate_soloPaths _).1]
    cbv
  have output : strayedSuiteReset.locate true "s/a.txt" = .ok ["s", "a.txt"] := by
    rw [(locate_soloPaths _).2.2]
    cbv
  have reference : strayedSuiteWritten.readFile "o/a.txt" = .ok [66] := by
    refine FileTree.readFile_eq_ok_iff.mpr ⟨["o", "a.txt"], ?_, by decide⟩
    rw [(locate_soloPaths _).2.1]
    cbv
  have actual : strayedSuiteWritten.readFile "s/a.txt" = .ok [65] := by
    refine FileTree.readFile_eq_ok_iff.mpr ⟨["s", "a.txt"], ?_, by decide⟩
    rw [(locate_soloPaths _).2.2]
    cbv
  have missing : strayedSuiteReset.find? ["s", "a.txt"] = none := by decide
  refine ⟨FileTree.readFile_eq_ok_iff.mpr ⟨_, program, by decide⟩, ?_, ?_⟩
  · simp only [FileTree.writeFile, output, missing, strayedSuiteWritten]
  · simp [Verdict.ofFiles, reference, actual, Verdict.ofBytes]

/-- The run over the suite records a mismatch, whose line is followed by a block of differences. -/
theorem run_shows_differences_strayedSuite
    : showing.reporter.showDiff = true
      ∧ (showing.run (.start strayedSuite ⟨[], []⟩ false)).tally
        = some ⟨[⟨soloCase "o/a.txt", .fail, .outputMismatch, 0, none, .zero, none⟩], 0, 1⟩
      ∧ ∃ block further,
          showing.reporter.IsBlock block
          ∧ (showing.run (.start strayedSuite ⟨[], []⟩ false)).session.output
            = "Running test: a (no input)\n" ++ "Test failed: a\n" ++ block ++ further := by
  have reset : Scratch.reset strayedSuite "s" = (strayedSuiteReset, none) := by cbv
  have found : Discovery.discover strayedSuiteReset Discovery.shortLayout (fun _ => true)
      = .ok [soloCase "o/a.txt"] := by
    cbv
  obtain ⟨source, wrote, compared⟩ := strayedSuite_compared
  have tallied
      : (showing.run (.start strayedSuite ⟨[], []⟩ false)).tally
        = some ⟨[⟨soloCase "o/a.txt", .fail, .outputMismatch, 0, none, .zero, none⟩], 0, 1⟩ := by
    rw [run_eq_ending (h := showing) reset found, runCases_cons]
    simp [step, opening, showing, echoing, Session.start, Session.poll, Session.log,
      Session.print, reported, runCase, execute, openInput, TestCase.hasInput, soloCase, call,
      Scripted.executor, Scripted.nextAnswer?, source, Scripted.plainExecution, keepOutput, wrote,
      Finding.of, compared, Finding.result, Finding.verdict, Finding.kind,
      Finding.fault?, Finding.remark?, runCases, ending, Tally.record, Tally.empty]
  refine ⟨rfl, tallied, ?_⟩
  obtain ⟨blocks, further, printed, explained, _⟩ :=
    (run_shows_differences Scripted.State).2 showing (.start strayedSuite ⟨[], []⟩ false) _ rfl
      tallied
  obtain ⟨block, _, explains, none, rfl⟩ := List.forall₂_cons_left_iff.mp explained
  obtain rfl := List.forall₂_nil_left_iff.mp none
  refine ⟨block, further, explains.mismatch rfl, ?_⟩
  rw [printed]
  rfl

end Harness

end GoldenSuite

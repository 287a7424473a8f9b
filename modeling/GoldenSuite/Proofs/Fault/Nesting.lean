import GoldenSuite.Fault

/-! Faults are classified by what they are built from. The search for a mark goes through causes and
causes of causes; it comes upon exactly what stands somewhere in the nesting of a fault, and upon the
launch mark wherever a launch fault stands.
-/

namespace GoldenSuite.Fault

-----------------------------------------------------------------------------------------
-- Nesting and searching
-----------------------------------------------------------------------------------------

/-- The faults that a fault is directly built from. -/
def parts : Fault → List Fault
  | .plain _ | .mark _ | .refused _ _ _ | .ended _ => []
  | .runtime inner | .launch _ inner | .context _ inner => [inner]
  | .pair first _ second | .joined first second => [first, second]

/-- The faults that a fault shows as its causes: its parts, and for a launch fault the launch mark
before them.
-/
def causes : Fault → List Fault
  | .launch _ inner => [.mark .launch, inner]
  | fault => fault.parts

/-- A fault that another one stands around. -/
inductive Within (cause : Fault) : Fault → Prop
  | itself : Within cause cause
  | runtime {inner : Fault} (inside : Within cause inner) : Within cause (.runtime inner)
  | launch {program : String} {inner : Fault} (inside : Within cause inner)
    : Within cause (.launch program inner)
  | context {before : String} {inner : Fault} (inside : Within cause inner)
    : Within cause (.context before inner)
  | pairFirst {first second : Fault} {between : String} (inside : Within cause first)
    : Within cause (.pair first between second)
  | pairSecond {first second : Fault} {between : String} (inside : Within cause second)
    : Within cause (.pair first between second)
  | joinedFirst {first second : Fault} (inside : Within cause first)
    : Within cause (.joined first second)
  | joinedSecond {first second : Fault} (inside : Within cause second)
    : Within cause (.joined first second)

/-- A search through causes, and the causes of those, comes upon a fault. -/
inductive Meets (found : Fault) : Fault → Prop where
  | self : Meets found found
  | cause {middle whole : Fault} (member : middle ∈ whole.causes) (meets : Meets found middle)
    : Meets found whole

/-- What a mark is recognised by: the mark itself, and for what does not exist also a refusal for
want of an entry.
-/
def Bears (sought : Mark) (fault : Fault) : Prop :=
  fault = .mark sought
  ∨ sought = .notExist ∧ ∃ request path, fault = .refused request path .noEntry

/-- What holds of a fault whenever it holds of its parts holds of all faults. -/
theorem parts_induction {motive : Fault → Prop}
    (step : ∀ fault, (∀ part ∈ fault.parts, motive part) → motive fault) (fault : Fault)
    : motive fault := by
  induction fault with
  | plain | mark | refused | ended => exact step _ (by simp [parts])
  | runtime inner ih | launch _ inner ih | context _ inner ih =>
      exact step _ (by simpa [parts] using ih)
  | pair first _ second ihFirst ihSecond | joined first second ihFirst ihSecond =>
      exact step _ (by simpa [parts] using ⟨ihFirst, ihSecond⟩)

/-- Causes are parts, but for the launch mark of a launch fault. -/
theorem mem_causes_iff {cause fault : Fault}
    : cause ∈ fault.causes
      ↔ cause ∈ fault.parts
        ∨ cause = .mark .launch ∧ ∃ program inner, fault = .launch program inner := by
  cases fault <;> simp [causes, parts, or_comm]

/-- A fault stands around whatever its parts stand around. -/
theorem Within.of_mem_parts {part middle whole : Fault} (member : middle ∈ whole.parts)
    (within : Within part middle)
    : Within part whole := by
  cases whole with
  | plain | mark | refused | ended => simp [parts] at member
  | runtime inner =>
      obtain rfl := List.mem_singleton.mp member
      exact .runtime within
  | launch program inner =>
      obtain rfl := List.mem_singleton.mp member
      exact .launch within
  | context before inner =>
      obtain rfl := List.mem_singleton.mp member
      exact .context within
  | pair first between second =>
      simp only [parts, List.mem_cons, List.not_mem_nil, or_false] at member
      rcases member with rfl | rfl
      · exact .pairFirst within
      · exact .pairSecond within
  | joined first second =>
      simp only [parts, List.mem_cons, List.not_mem_nil, or_false] at member
      rcases member with rfl | rfl
      · exact .joinedFirst within
      · exact .joinedSecond within

/-- A fault stands around itself and around what its parts stand around, and nothing else. -/
theorem within_iff_parts {part whole : Fault}
    : Within part whole ↔ part = whole ∨ ∃ middle ∈ whole.parts, Within part middle := by
  constructor
  · intro within
    cases within with
    | itself => exact .inl rfl
    | runtime inside | launch inside | context inside | pairFirst inside | joinedFirst inside =>
        exact .inr ⟨_, List.mem_cons_self, inside⟩
    | pairSecond inside | joinedSecond inside =>
        exact .inr ⟨_, List.mem_cons_of_mem _ List.mem_cons_self, inside⟩
  · rintro (rfl | ⟨middle, member, within⟩)
    · exact .itself
    · exact within.of_mem_parts member

theorem Within.trans {part middle whole : Fault} (inner : Within part middle)
    (outer : Within middle whole)
    : Within part whole := by
  induction whole using parts_induction with
  | step whole ih =>
      rcases within_iff_parts.mp outer with rfl | ⟨nearer, member, later⟩
      · exact inner
      · exact (ih nearer member later).of_mem_parts member

theorem Meets.trans {found middle whole : Fault} (inner : Meets found middle)
    (outer : Meets middle whole)
    : Meets found whole := by
  induction outer with
  | self => exact inner
  | cause member _ ih => exact .cause member ih

/-- A test that looks at a fault and then at its causes searches them all. From left to right the
induction is on the parts: the only cause that is no part is a mark, and has no causes itself.
-/
theorem iff_meets_of_step {holds bears : Fault → Prop}
    (step : ∀ fault, holds fault ↔ bears fault ∨ ∃ cause ∈ fault.causes, holds cause)
    (fault : Fault)
    : holds fault ↔ ∃ found, Meets found fault ∧ bears found := by
  constructor
  · induction fault using parts_induction with
    | step fault ih =>
        intro test
        rcases (step fault).mp test with own | ⟨cause, member, later⟩
        · exact ⟨fault, .self, own⟩
        · rcases mem_causes_iff.mp member with part | ⟨rfl, _⟩
          · obtain ⟨found, meets, own⟩ := ih cause part later
            exact ⟨found, .cause member meets, own⟩
          · have own : bears (.mark .launch) := by
              simpa [causes, parts] using (step _).mp later
            exact ⟨.mark .launch, .cause member .self, own⟩
  · rintro ⟨found, meets, own⟩
    induction meets with
    | self => exact (step _).mpr (.inl own)
    | cause member _ ih => exact (step _).mpr (.inr ⟨_, member, ih⟩)

/-- A search comes upon whatever stands in the nesting, by induction on the parts. -/
theorem Within.meets {part fault : Fault} (within : Within part fault) : Meets part fault := by
  induction fault using parts_induction with
  | step fault ih =>
      rcases within_iff_parts.mp within with rfl | ⟨middle, member, later⟩
      · exact .self
      · exact .cause (mem_causes_iff.mpr (.inl member)) (ih middle member later)

/-- A search comes upon what stands in the nesting, and upon the launch mark if a launch fault
does.
-/
theorem meets_iff_within {found fault : Fault}
    : Meets found fault
      ↔ Within found fault
        ∨ found = .mark .launch ∧ ∃ program inner, Within (.launch program inner) fault := by
  constructor
  · intro meets
    induction meets with
    | self => exact .inl .itself
    | cause member meets ih =>
        rcases mem_causes_iff.mp member with part | ⟨rfl, program, inner, rfl⟩
        · rcases ih with within | ⟨rfl, program, inner, within⟩
          · exact .inl (within.of_mem_parts part)
          · exact .inr ⟨rfl, program, inner, within.of_mem_parts part⟩
        · cases meets with
          | self => exact .inr ⟨rfl, program, inner, .itself⟩
          | cause none _ => simp [causes, parts] at none
  · rintro (within | ⟨rfl, program, inner, within⟩)
    · exact within.meets
    · have shown : Meets (.mark .launch) (.launch program inner) :=
        .cause (by simp [causes]) .self
      exact shown.trans within.meets

-----------------------------------------------------------------------------------------
-- Classification
-----------------------------------------------------------------------------------------

/-- A mark is found in a fault that bears it or has it among its causes. -/
theorem has_iff_step (sought : Mark) (fault : Fault)
    : fault.has sought = true
      ↔ fault.Bears sought ∨ ∃ cause ∈ fault.causes, cause.has sought = true := by
  cases fault with
  | launch program inner => simp [has, Bears, causes, @eq_comm Mark .launch]
  | _ => simp [has, Bears, causes, parts]

theorem isRuntime_iff_step (fault : Fault)
    : fault.isRuntime = true
      ↔ (∃ inner, fault = .runtime inner) ∨ ∃ cause ∈ fault.causes, cause.isRuntime = true := by
  cases fault <;> simp [isRuntime, causes, parts]

/-- A fault has a mark if it stands in the nesting, if a launch fault stands there and the mark is
that of launching, or if a refusal for want of an entry does and the mark is that of what does not
exist.
-/
theorem has_iff_within (sought : Mark) (fault : Fault)
    : fault.has sought = true
      ↔ Within (.mark sought) fault
        ∨ (sought = .launch ∧ ∃ program inner, Within (.launch program inner) fault)
        ∨ sought = .notExist ∧ ∃ request path, Within (.refused request path .noEntry) fault := by
  rw [iff_meets_of_step (has_iff_step sought)]
  simp only [Bears, meets_iff_within]
  constructor
  · rintro ⟨found, within | ⟨same, launched⟩, rfl | ⟨missing, request, path, rfl⟩⟩
    · exact .inl within
    · exact .inr (.inr ⟨missing, request, path, within⟩)
    · exact .inr (.inl ⟨by simpa using same, launched⟩)
    · cases same
  · rintro (within | ⟨rfl, launched⟩ | ⟨missing, request, path, within⟩)
    · exact ⟨_, .inl within, .inl rfl⟩
    · exact ⟨_, .inr ⟨rfl, launched⟩, .inl rfl⟩
    · exact ⟨_, .inl within, .inr ⟨missing, request, path, rfl⟩⟩

/-- A fault aborts a whole run if one that does stands in the nesting. -/
theorem isRuntime_iff_within (fault : Fault)
    : fault.isRuntime = true ↔ ∃ inner, Within (.runtime inner) fault := by
  rw [iff_meets_of_step isRuntime_iff_step]
  simp only [meets_iff_within]
  constructor
  · rintro ⟨found, within | ⟨same, _⟩, inner, rfl⟩
    · exact ⟨inner, within⟩
    · cases same
  · rintro ⟨inner, within⟩
    exact ⟨_, .inl within, inner, rfl⟩

/-- What has been found in a fault is found in every fault around it. -/
theorem has_of_within {sought : Mark} {part whole : Fault} (within : Within part whole)
    (has : part.has sought = true)
    : whole.has sought = true := by
  rw [has_iff_within] at has ⊢
  rcases has with mark | ⟨rfl, program, inner, launched⟩ | ⟨rfl, request, path, refused⟩
  · exact .inl (mark.trans within)
  · exact .inr (.inl ⟨rfl, program, inner, launched.trans within⟩)
  · exact .inr (.inr ⟨rfl, request, path, refused.trans within⟩)

/-- Classification is compositional. A fault has a mark exactly if a search through its causes
comes upon what the mark is recognised by, and that is told by the nesting: the mark stands in it,
or a launch fault does and the mark is that of launching, or a refusal for want of an entry does and
the mark is that of what does not exist. It aborts a whole run exactly if a fault that does stands
in the nesting. Hence no fault around others loses what they were classified by, and the only mark
that one adds to those of its parts is that of launching, added by a launch fault. What is joined to
a fault that may be there already has the marks of both.
-/
theorem classification_compositional (fault : Fault)
    : (∀ sought,
        (fault.has sought = true ↔ ∃ found, Meets found fault ∧ found.Bears sought)
        ∧ (fault.has sought = true
          ↔ Within (.mark sought) fault
            ∨ (sought = .launch ∧ ∃ program inner, Within (.launch program inner) fault)
            ∨ sought = .notExist
              ∧ ∃ request path, Within (.refused request path .noEntry) fault))
      ∧ (fault.isRuntime = true ↔ ∃ inner, Within (.runtime inner) fault)
      ∧ (∀ whole,
          Within fault whole
          → (∀ sought, fault.has sought = true → whole.has sought = true)
            ∧ (fault.isRuntime = true → whole.isRuntime = true))
      ∧ (fault.parts ≠ []
        → ∀ sought,
            fault.has sought = true
            → (∃ part ∈ fault.parts, part.has sought = true)
              ∨ sought = .launch ∧ ∃ program inner, fault = .launch program inner)
      ∧ ∀ earlier sought,
          (joinedTo earlier fault).has sought = true
          ↔ fault.has sought = true ∨ ∃ first, earlier = some first ∧ first.has sought = true := by
  refine ⟨fun sought => ⟨iff_meets_of_step (has_iff_step sought) fault,
    has_iff_within sought fault⟩, isRuntime_iff_within fault, ?_, ?_, ?_⟩
  · intro whole within
    refine ⟨fun sought => has_of_within within, ?_⟩
    simp only [isRuntime_iff_within]
    rintro ⟨inner, runtime⟩
    exact ⟨inner, runtime.trans within⟩
  · intro compound sought has
    rcases (has_iff_step sought fault).mp has with bears | ⟨cause, member, later⟩
    · rcases bears with rfl | ⟨_, request, path, rfl⟩ <;> exact absurd rfl compound
    · rcases mem_causes_iff.mp member with part | ⟨rfl, launched⟩
      · exact .inl ⟨cause, part, later⟩
      · exact .inr ⟨by simpa [Fault.has, eq_comm] using later, launched⟩
  · intro earlier sought
    cases earlier with
    | none => simp [joinedTo]
    | some first => simp [joinedTo, Fault.has, or_comm]

/-- A program that could not be started and whose output could not be written. -/
def unwritten : Fault :=
  joinedTo (some (.launch "m" (.refused "fork/exec" "m" .noEntry)))
    (.filesystem "writing output" (.refused "open" "o" .isDirectory))

/-- It has both marks, also inside a fault that aborts the run, and that of the file system is the
mark of a part.
-/
theorem classification_compositional_unwritten
    : (Within unwritten (.runtime unwritten) ∧ unwritten.parts ≠ [])
      ∧ (runtime unwritten).has .launch = true
      ∧ (runtime unwritten).has .filesystem = true
      ∧ ∃ part ∈ unwritten.parts, part.has .filesystem = true := by
  obtain ⟨nested, _, kept, added, _⟩ := classification_compositional unwritten
  have within : Within unwritten (.runtime unwritten) := .runtime .itself
  have compound : unwritten.parts ≠ [] := by decide
  have launched : unwritten.has .launch = true :=
    (nested .launch).2.mpr (.inr (.inl ⟨rfl, _, _, .joinedFirst .itself⟩))
  have failed : unwritten.has .filesystem = true :=
    (nested .filesystem).2.mpr (.inl (.joinedSecond (.pairFirst .itself)))
  refine ⟨⟨within, compound⟩, (kept _ within).1 _ launched, (kept _ within).1 _ failed, ?_⟩
  exact (added compound _ failed).resolve_right (by simp)

end GoldenSuite.Fault

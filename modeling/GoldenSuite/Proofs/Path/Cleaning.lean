import GoldenSuite.Proofs.Path.Joining
import Mathlib.Data.List.Induction

/-! The cleaned form of a path. Cleaning leaves steps up, which only a relative path can have, and
after them plain names; a path that is in its cleaned form is written from just these names. The
directories on the way to a path are named by starts of its names.
-/

namespace GoldenSuite.Path

-----------------------------------------------------------------------------------------
-- Names along a path
-----------------------------------------------------------------------------------------

/-- A piece holds no slash, by induction on the text. -/
theorem unslashed_of_mem_segments {text piece : List Char} (member : piece ∈ segments text)
    : '/' ∉ piece := by
  induction text generalizing piece with
  | nil =>
      obtain rfl := List.mem_singleton.mp member
      exact List.not_mem_nil
  | cons c rest ih =>
      by_cases slash : c = '/'
      · rw [segments, if_pos slash] at member
        rcases List.mem_cons.mp member with rfl | later
        · exact List.not_mem_nil
        · exact ih later
      · obtain ⟨first, pieces, cut⟩ := List.exists_cons_of_ne_nil (segments_ne_nil rest)
        rw [segments_cons_of_ne slash cut] at member
        rcases List.mem_cons.mp member with rfl | later
        · intro found
          rcases List.mem_cons.mp found with same | inner
          · exact slash same.symm
          · exact ih (by simp [cut]) inner
        · exact ih (by simp [cut, later])

/-- The names of a path are names. -/
theorem isName_of_mem_names {path name : String} (member : name ∈ names path) : IsName name := by
  obtain ⟨piece, kept, rfl⟩ := List.mem_map.mp member
  obtain ⟨cut, nonempty⟩ := List.mem_filter.mp kept
  exact {
    nonempty := by simpa using nonempty
    unslashed := by simpa using unslashed_of_mem_segments cut
  }

/-- Slashes alone have no names, by induction over them. -/
theorem names_slashes {slashes : List Char} (only : ∀ c ∈ slashes, c = '/')
    : names (String.ofList slashes) = [] := by
  induction slashes with
  | nil => rfl
  | cons c rest ih =>
      obtain rfl := only c (by simp)
      have text : String.ofList ('/' :: rest) = "" ++ "/" ++ String.ofList rest := by
        apply String.toList_injective
        simp
      rw [text, names_append_slash, ih fun c member => only c (by simp [member])]
      rfl

/-- Closing slashes add no names. -/
theorem names_append_slashes (path : String) {slashes : List Char} (only : ∀ c ∈ slashes, c = '/')
    : names (path ++ String.ofList slashes) = names path := by
  cases slashes with
  | nil => simp
  | cons c rest =>
      obtain rfl := only c (by simp)
      have text : path ++ String.ofList ('/' :: rest) = path ++ "/" ++ String.ofList rest := by
        apply String.toList_injective
        simp
      rw [text, names_append_slash, names_slashes fun c member => only c (by simp [member]),
        List.append_nil]

-----------------------------------------------------------------------------------------
-- Written paths
-----------------------------------------------------------------------------------------

/-- One more name is written after a slash. -/
theorem render_append_of_ne_nil {rooted : Bool} {parts : List String} (some : parts ≠ [])
    (name : String)
    : render rooted (parts ++ [name]) = render rooted parts ++ "/" ++ name := by
  rw [render_append_singleton]
  cases rooted <;> simp [lead, render, some, String.append_assoc]

/-- The names of a written path are those from which it is written, by induction from the last
name on.
-/
theorem names_render {rooted : Bool} {parts : List String} (valid : ∀ name ∈ parts, IsName name)
    (told : rooted = true ∨ parts ≠ [])
    : names (render rooted parts) = parts := by
  induction parts using List.reverseRecOn with
  | nil =>
      obtain rfl : rooted = true := told.resolve_right (fun some => some rfl)
      rfl
  | append_singleton parts name ih =>
      have last : IsName name := valid name (by simp)
      by_cases some : parts = []
      · subst some
        cases rooted with
        | false => simpa [render] using names_of_isName last
        | true =>
            have slash := names_append_slash "" name
            have nothing : names "" = [] := rfl
            rw [String.empty_append, names_of_isName last, nothing] at slash
            simpa [render] using slash
      · rw [render_append_of_ne_nil some, names_append_slash, names_of_isName last,
          ih (fun other member => valid other (by simp [member])) (Or.inr some)]

/-- A written path starts at the root if it is meant to. -/
theorem isRooted_render {rooted : Bool} {parts : List String}
    (valid : ∀ name ∈ parts, IsName name)
    : isRooted (render rooted parts) = rooted := by
  cases rooted with
  | true => simp [render, isRooted]
  | false =>
      cases parts with
      | nil => rfl
      | cons first rest =>
          have start : IsName first := valid first (by simp)
          have kept : first.toList ≠ [] := by simpa using start.nonempty
          obtain ⟨c, more, text⟩ := List.exists_cons_of_ne_nil kept
          have other : c ≠ '/' := fun same => start.unslashed (by simp [text, same])
          cases rest with
          | nil => simp [render, isRooted, text, other]
          | cons second rest => simp [render, isRooted, String.intercalate_cons_cons, text, other]

/-- A written path does not end in a slash if it has a name. -/
theorem getLast?_render_ne_slash {rooted : Bool} {parts : List String}
    (valid : ∀ name ∈ parts, IsName name) (some : parts ≠ [])
    : (render rooted parts).toList.getLast? ≠ Option.some '/' := by
  obtain ⟨front, name, rfl⟩ := List.eq_nil_or_concat parts |>.resolve_left some
  have last : IsName name := valid name (by simp)
  have kept : name.toList ≠ [] := by simpa using last.nonempty
  rw [List.concat_eq_append, render_append_singleton, String.toList_append, List.getLast?_append,
    Option.or_of_isSome (by simpa [List.getLast?_isSome] using kept)]
  exact fun closing => last.unslashed (List.mem_of_getLast? closing)

-----------------------------------------------------------------------------------------
-- Cleaned names
-----------------------------------------------------------------------------------------

/-- Cleaned names are steps up and then plain names. A path that starts at the root has no steps
up.
-/
def IsCleaned (rooted : Bool) (parts : List String) : Prop :=
  ∃ ups rest,
    parts = List.replicate ups ".." ++ rest
    ∧ (∀ name ∈ rest, IsPlain name)
    ∧ (rooted = true → ups = 0)

/-- Cleaned names are names. -/
theorem IsCleaned.isName {rooted : Bool} {parts : List String} (cleaned : IsCleaned rooted parts)
    : ∀ name ∈ parts, IsName name := by
  obtain ⟨ups, rest, rfl, plain, _⟩ := cleaned
  intro name member
  rcases List.mem_append.mp member with up | inner
  · rw [List.eq_of_mem_replicate up]
    exact ⟨by decide, by decide⟩
  · exact (plain name inner).isName

/-- One more name keeps a stack of names cleaned, by cases on the name and on what lies on top. -/
theorem IsCleaned.push {rooted : Bool} {stack : List String} {name : String}
    (cleaned : IsCleaned rooted stack.reverse) (isName : IsName name)
    : IsCleaned rooted (pushName rooted stack name).reverse := by
  obtain ⟨ups, rest, parts, plain, bound⟩ := cleaned
  unfold pushName
  split
  · exact ⟨ups, rest, parts, plain, bound⟩
  · rename_i notSelf
    split
    · -- A step up takes back the last plain name, if there is one.
      rcases List.eq_nil_or_concat rest with rfl | ⟨front, last, rfl⟩
      · have steps : stack = List.replicate ups ".." := by
          simpa using congrArg List.reverse parts
        subst steps
        cases ups with
        | zero =>
            cases rooted with
            | true => exact ⟨0, [], rfl, by simp, fun _ => rfl⟩
            | false => exact ⟨1, [], rfl, by simp, fun same => by cases same⟩
        | succ ups =>
            refine ⟨ups + 2, [], ?_, by simp, fun same => absurd (bound same) (by simp)⟩
            rw [List.append_nil, List.replicate_succ]
            exact List.reverse_replicate (n := ups + 2)
      · have top : stack = last :: (List.replicate ups ".." ++ front).reverse := by
          simpa using congrArg List.reverse parts
        subst top
        have other : last ≠ ".." := (plain last (by simp)).notParent
        refine ⟨ups, front, ?_, fun name member => plain name (by simp [member]), bound⟩
        simp [other]
    · rename_i notParent
      refine ⟨ups, rest ++ [name], by simp [parts], ?_, bound⟩
      intro other member
      rcases List.mem_append.mp member with inner | last
      · exact plain other inner
      · obtain rfl := List.mem_singleton.mp last
        exact ⟨isName.nonempty, isName.unslashed, notSelf, notParent⟩

/-- Pushing names one after the other keeps a stack cleaned, by induction over them. -/
theorem IsCleaned.foldl {rooted : Bool} {stack parts : List String}
    (cleaned : IsCleaned rooted stack.reverse) (valid : ∀ name ∈ parts, IsName name)
    : IsCleaned rooted (parts.foldl (pushName rooted) stack).reverse := by
  induction parts generalizing stack with
  | nil => exact cleaned
  | cons name rest ih =>
      exact ih (cleaned.push (valid name (by simp))) fun other member =>
        valid other (by simp [member])

/-- The names that are left of a path are cleaned. -/
theorem isCleaned_cleanNames (path : String) : IsCleaned (isRooted path) (cleanNames path) := by
  have start : IsCleaned (isRooted path) ([] : List String).reverse :=
    ⟨0, [], rfl, by simp, fun _ => rfl⟩
  exact start.foldl fun _ => isName_of_mem_names

/-- A path in its cleaned form has only the names that are left of it, unless it is the path that
names nothing.
-/
theorem names_eq_cleanNames {path : String} (cleaned : clean path = path)
    : names path = cleanNames path ∨ path = "." := by
  by_cases told : isRooted path = true ∨ cleanNames path ≠ []
  · left
    have written := names_render (isCleaned_cleanNames path).isName told
    rw [← clean, cleaned] at written
    exact written
  · right
    obtain ⟨relative, empty⟩ := not_or.mp told
    rw [clean, render, if_neg relative, if_pos (by simpa using empty)] at cleaned
    exact cleaned.symm

/-- Plain names are pushed one on the other, by induction over them. -/
theorem foldl_pushName_plain {rooted : Bool} {parts : List String}
    (plain : ∀ name ∈ parts, IsPlain name) (stack : List String)
    : parts.foldl (pushName rooted) stack = parts.reverse ++ stack := by
  induction parts generalizing stack with
  | nil => rfl
  | cons name rest ih =>
      have first := plain name (by simp)
      have pushed : pushName rooted stack name = name :: stack := by
        simp [pushName, first.notSelf, first.notParent]
      rw [List.foldl_cons, pushed, ih fun other member => plain other (by simp [member])]
      simp

/-- Steps up are kept on a stack of steps up, by induction on their number. -/
theorem foldl_pushName_ups (ups more : Nat)
    : (List.replicate more "..").foldl (pushName false) (List.replicate ups "..")
      = List.replicate (ups + more) ".." := by
  induction more generalizing ups with
  | zero => rfl
  | succ more ih =>
      have pushed
          : pushName false (List.replicate ups "..") ".." = List.replicate (ups + 1) ".." := by
        cases ups with
        | zero => rfl
        | succ ups => rfl
      rw [List.replicate_succ, List.foldl_cons, pushed, ih]
      congr 1
      omega

/-- Cleaned names are kept as they are. -/
theorem IsCleaned.foldl_pushName {rooted : Bool} {parts : List String}
    (cleaned : IsCleaned rooted parts)
    : parts.foldl (pushName rooted) [] = parts.reverse := by
  obtain ⟨ups, rest, rfl, plain, bound⟩ := cleaned
  have steps : (List.replicate ups "..").foldl (pushName rooted) [] = List.replicate ups ".." := by
    cases rooted with
    | true => simp [bound rfl]
    | false => simpa using foldl_pushName_ups 0 ups
  rw [List.foldl_append, steps, foldl_pushName_plain plain]
  simp

/-- A cleaned path starts where the path does. -/
theorem isRooted_clean (path : String) : isRooted (clean path) = isRooted path :=
  isRooted_render (isCleaned_cleanNames path).isName

/-- Cleaning leaves the names that are left of a path. -/
theorem cleanNames_clean (path : String) : cleanNames (clean path) = cleanNames path := by
  have cleaned := isCleaned_cleanNames path
  by_cases told : isRooted path = true ∨ cleanNames path ≠ []
  · have written : names (clean path) = cleanNames path := names_render cleaned.isName told
    rw [cleanNames, isRooted_clean, written, cleaned.foldl_pushName, List.reverse_reverse]
  · obtain ⟨relative, empty⟩ := not_or.mp told
    have none : cleanNames path = [] := by simpa using empty
    have dot : clean path = "." := by
      rw [clean, render, if_neg relative, if_pos (by simp [none])]
    rw [dot, none]
    decide

/-- A cleaned path is in its cleaned form. -/
theorem clean_clean (path : String) : clean (clean path) = clean path := by
  rw [clean, isRooted_clean, cleanNames_clean]
  rfl

/-- A cleaned path is not empty. -/
theorem clean_ne_empty (path : String) : clean path ≠ "" := by
  intro empty
  have again := clean_clean path
  rw [empty] at again
  exact absurd again (by decide)

/-- A path that is written from plain names is in its cleaned form. -/
theorem clean_render {rooted : Bool} {parts : List String}
    (plain : ∀ name ∈ parts, IsPlain name) (told : parts ≠ [])
    : clean (render rooted parts) = render rooted parts := by
  have valid : ∀ name ∈ parts, IsName name := fun name member => (plain name member).isName
  rw [clean, cleanNames, isRooted_render valid, names_render valid (Or.inr told),
    foldl_pushName_plain plain, List.append_nil, List.reverse_reverse]

/-- A plain name that is joined to a directory is written after the names that are left of it. -/
theorem join_eq_render {dir name : String} (nonempty : dir ≠ "") (plain : IsPlain name)
    : join dir name = render (isRooted dir) (cleanNames dir ++ [name])
      ∧ ∀ other ∈ cleanNames dir ++ [name], IsName other := by
  constructor
  · rw [join, if_neg nonempty, clean, cleanNames_append_plain nonempty plain,
      isRooted_append nonempty]
  · intro other member
    rcases List.mem_append.mp member with inner | last
    · exact (isCleaned_cleanNames dir).isName other inner
    · obtain rfl := List.mem_singleton.mp last
      exact plain.isName

/-- A plain name that is joined to a directory is the last of the names along the path. -/
theorem names_join {dir name : String} (nonempty : dir ≠ "") (plain : IsPlain name)
    : names (join dir name) = cleanNames dir ++ [name] := by
  obtain ⟨written, valid⟩ := join_eq_render nonempty plain
  rw [written]
  exact names_render valid (Or.inr (by simp))

/-- A name is put after a slash if the directory's path is in its cleaned form and has names. -/
theorem join_of_cleaned {dir name : String} (nonempty : dir ≠ "") (cleaned : clean dir = dir)
    (told : cleanNames dir ≠ []) (plain : IsPlain name)
    : join dir name = dir ++ "/" ++ name := by
  rw [(join_eq_render nonempty plain).1, render_append_of_ne_nil told, ← clean, cleaned]

/-- A name is joined to what a path is cleaned to as it is joined to the path. -/
theorem join_clean {dir name : String} (nonempty : dir ≠ "") (plain : IsPlain name)
    : join (clean dir) name = join dir name := by
  rw [(join_eq_render (clean_ne_empty dir) plain).1, (join_eq_render nonempty plain).1,
    isRooted_clean, cleanNames_clean]

/-- A joined path is in its cleaned form. -/
theorem clean_join (dir : String) {name : String} (plain : IsPlain name)
    : clean (join dir name) = join dir name := by
  rw [join, if_neg plain.nonempty]
  split
  · exact clean_clean name
  · exact clean_clean _

/-- A joined path starts where the directory's does. -/
theorem isRooted_join {dir name : String} (nonempty : dir ≠ "") (plain : IsPlain name)
    : isRooted (join dir name) = isRooted dir := by
  obtain ⟨written, valid⟩ := join_eq_render nonempty plain
  rw [written]
  exact isRooted_render valid

/-- A joined path does not end in a slash. -/
theorem getLast?_join_ne_slash {dir name : String} (nonempty : dir ≠ "") (plain : IsPlain name)
    : (join dir name).toList.getLast? ≠ some '/' := by
  obtain ⟨written, valid⟩ := join_eq_render nonempty plain
  rw [written]
  exact getLast?_render_ne_slash valid (by simp)

-----------------------------------------------------------------------------------------
-- The directories on the way
-----------------------------------------------------------------------------------------

/-- The text before the last element of a path is followed by a slash. -/
theorem of_parentText?_eq_some {path parent : List Char} (found : parentText? path = some parent)
    : parent ≠ [] ∧ ∃ more, path = parent ++ '/' :: more := by
  unfold parentText? at found
  dsimp only at found
  split at found
  · rename_i long
    obtain rfl := Option.some.inj found
    generalize inner_eq : (path.reverse.dropWhile (· = '/')).dropWhile (· ≠ '/') = inner at long
    have suffix : inner <:+ path.reverse := by
      rw [← inner_eq]
      exact (List.dropWhile_suffix _).trans (List.dropWhile_suffix _)
    cases inner with
    | nil => simp at long
    | cons c rest =>
        have slash : c = '/' := by
          have head := List.head?_dropWhile_not (· ≠ '/') (path.reverse.dropWhile (· = '/'))
          rw [inner_eq] at head
          simpa using head
        subst slash
        obtain ⟨taken, whole⟩ := suffix
        have reversed := congrArg List.reverse whole
        rw [List.reverse_reverse, List.reverse_append, List.reverse_cons, List.append_assoc]
          at reversed
        refine ⟨?_, taken.reverse, reversed.symm⟩
        intro empty
        have none : rest = [] := by simpa using empty
        simp [none] at long
  · cases found

/-- The directories on the way to a path are starts of its text that end before a slash, by
induction along the way.
-/
theorem of_mem_stages {path stage : List Char} (member : stage ∈ stages path)
    : stage = path ∨ stage ≠ [] ∧ ∃ more, path = stage ++ '/' :: more := by
  fun_induction stages path with
  | case1 path parent found shorter ih =>
      rcases List.mem_append.mp member with earlier | last
      · obtain ⟨nonempty, more, text⟩ := of_parentText?_eq_some found
        right
        rcases ih earlier with rfl | ⟨some, between, inner⟩
        · exact ⟨nonempty, more, text⟩
        · exact ⟨some, between ++ '/' :: more, by rw [text, inner]; simp⟩
      · exact Or.inl (List.mem_singleton.mp last)
  | case2 path none => exact Or.inl (List.mem_singleton.mp member)

/-- A path is the last directory on the way to itself. -/
theorem stages_eq_append (path : List Char) : ∃ earlier, stages path = earlier ++ [path] := by
  unfold stages
  split
  · exact ⟨_, rfl⟩
  · exact ⟨[], rfl⟩

/-- A start of a text that ends before a slash names a start of its names. -/
theorem names_of_stage {path stage : String} (member : stage.toList ∈ stages path.toList)
    (nonempty : path ≠ "")
    : names stage <+: names path ∧ isRooted stage = isRooted path ∧ stage ≠ "" := by
  rcases of_mem_stages member with same | ⟨some, more, text⟩
  · obtain rfl := String.toList_injective same
    exact ⟨List.prefix_rfl, rfl, nonempty⟩
  · have whole : path = stage ++ "/" ++ String.ofList more := by
      apply String.toList_injective
      simp [text]
    have kept : stage ≠ "" := by simpa using some
    refine ⟨?_, ?_, kept⟩
    · rw [whole, names_append_slash]
      exact List.prefix_append _ _
    · rw [whole, isRooted_append kept]

end GoldenSuite.Path

import Synthesis.Settings.Loader

/-!
# From a directory upwards

The parent of a path has all parts of the path but the last one, so the way from parent to parent
ends where the path starts. The list of the ancestors of a path is this way, and looking for a
settings file along the list is stopping at the first directory on the way that has one.

Results:
1. `Path.parent?_eq_some`, `Path.parent?_eq_none_iff`: the parts of a path and of its parent.
2. `Path.getElem?_ancestors`: the ancestors are reached by going to the parent again and again.
3. `Path.climb_above`, `Path.climb_eq_none_iff`: each of them has the parts of the path without the
   last ones, and there are as many of them as the path has parts.
4. `SettingsFile.firstPresent_eq_some_iff`, `SettingsFile.firstPresent_eq_none_iff`: which settings
   file is found, and when none is.
-/
namespace Synthesis
namespace Path

/-! ## 1. Parts -/

/-- The parts of a path: its segments without those that lead nowhere. A dot at the beginning is a
part if nothing is understood before it. -/
def parts (path : Path) : List String :=
  if path.origin = .working ∧ path.segments.head? = some "." then
    "." :: path.segments.tail.filter (!isIdle ·)
  else path.segments.filter (!isIdle ·)

theorem isPassed_iff {origin : Origin} {segment : String} {before : List String} :
    isPassed origin segment before = true ↔
      isIdle segment = true ∧ ¬ (origin = .working ∧ before = [] ∧ segment = ".") := by
  rw [isPassed, Bool.and_eq_true, Bool.not_eq_true', Bool.eq_false_iff]
  simp only [ne_eq, Bool.and_eq_true, decide_eq_true_eq, List.isEmpty_iff, beq_iff_eq, and_assoc]

theorem parts_snoc (origin : Origin) (before : List String) (segment : String) :
    parts ⟨origin, (segment :: before).reverse⟩ = parts ⟨origin, before.reverse⟩ ++
      if isPassed origin segment before then [] else [segment] := by
  have single : [segment].filter (!isIdle ·) = if isIdle segment then [] else [segment] := by
    cases idle : isIdle segment <;> simp [idle]
  simp only [List.reverse_cons, parts, isPassed_iff]
  rcases List.eq_nil_or_concat before with rfl | ⟨rest, first, rfl⟩
  · by_cases dot : origin = .working ∧ segment = "."
    · simp [dot, isIdle]
    · simp [dot, single]
  · rw [List.concat_eq_append, List.reverse_concat, List.cons_append]
    by_cases dot : origin = .working ∧ first = "."
    · simp [dot, single]
    · have unread : ¬ (origin = .working ∧ rest ++ [first] = [] ∧ segment = ".") := by simp
      rw [if_neg (by simpa using dot), if_neg (by simpa using dot), ← List.cons_append,
        List.filter_append, single]
      simp only [unread, not_false_eq_true, and_true]

theorem parts_dropPassed (origin : Origin) (reversed : List String) :
    parts ⟨origin, (dropPassed origin reversed).reverse⟩ = parts ⟨origin, reversed.reverse⟩ := by
  induction reversed with
  | nil => rfl
  | cons segment before ih =>
      rw [dropPassed]
      split
      · next passed => rw [ih, parts_snoc, if_pos passed, List.append_nil]
      · rfl

theorem not_isPassed_of_dropPassed {origin : Origin} {reversed before : List String}
    {segment : String} (left : dropPassed origin reversed = segment :: before) :
    isPassed origin segment before = false := by
  induction reversed with
  | nil => cases left
  | cons other rest ih =>
      rw [dropPassed] at left
      split at left
      · exact ih left
      · next stays =>
          cases left
          exact Bool.eq_false_iff.2 stays

theorem dropPassed_parts {origin : Origin} {reversed before : List String} {segment : String}
    (left : dropPassed origin reversed = segment :: before) :
    parts ⟨origin, reversed.reverse⟩ = parts ⟨origin, before.reverse⟩ ++ [segment] := by
  rw [← parts_dropPassed, left, parts_snoc, not_isPassed_of_dropPassed left]
  rfl

theorem parent?_eq_none_iff {path : Path} : path.parent? = none ↔ path.parts = [] := by
  unfold parent?
  split
  · next none =>
      have same := parts_dropPassed path.origin path.segments.reverse
      rw [none, List.reverse_reverse] at same
      exact iff_of_true rfl (by simpa [parts] using same.symm)
  · next left =>
      have same := dropPassed_parts left
      rw [List.reverse_reverse] at same
      exact iff_of_false (fun none => by cases none) (by simp [same])

theorem parent?_eq_some {path parent : Path} (above : path.parent? = some parent) :
    parent.origin = path.origin ∧ ∃ last, path.parts = parent.parts ++ [last] := by
  unfold parent? at above
  split at above
  · cases above
  · next last before left =>
      cases above
      refine ⟨rfl, last, ?_⟩
      have same := dropPassed_parts left
      rwa [List.reverse_reverse, ← parts_dropPassed] at same

/-! ## 2. The way up -/

/-- The path that is some number of parents above a path, if there are so many. -/
def climb : Nat → Path → Option Path
  | 0, path => some path
  | level + 1, path => path.parent?.bind (climb level)

theorem parentsOfReversed_dropPassed (origin : Origin) (reversed : List String) :
    parentsOfReversed origin (dropPassed origin reversed) = parentsOfReversed origin reversed := by
  induction reversed with
  | nil => rfl
  | cons segment before ih =>
      rw [dropPassed]
      split
      · next passed => rw [ih, parentsOfReversed, if_pos passed]
      · rfl

theorem ancestors_eq (path : Path) :
    path.ancestors = path :: (path.parent?.map ancestors).getD [] := by
  rw [ancestors, ← parentsOfReversed_dropPassed, parent?]
  split
  · next none =>
      rw [none]
      rfl
  · next left =>
      rw [left, parentsOfReversed, not_isPassed_of_dropPassed left]
      simp [ancestors, parentsOfReversed_dropPassed]

/-- The ancestors of a path are reached by going to the parent again and again. -/
theorem getElem?_ancestors (path : Path) (level : Nat) :
    path.ancestors[level]? = path.climb level := by
  induction level generalizing path with
  | zero => rfl
  | succ level ih =>
      rw [ancestors_eq, List.getElem?_cons_succ, climb]
      cases path.parent? with
      | none => rfl
      | some parent => exact ih parent

/-- A path lies some number of parts above another: it has all parts of that but the last ones. -/
structure Above (path : Path) (level : Nat) (directory : Path) : Prop where
  origin : directory.origin = path.origin
  parts : ∃ last, last.length = level ∧ path.parts = directory.parts ++ last

theorem climb_above {path directory : Path} {level : Nat}
    (reached : path.climb level = some directory) : path.Above level directory := by
  induction level generalizing path with
  | zero =>
      cases reached
      exact ⟨rfl, [], rfl, (List.append_nil _).symm⟩
  | succ level ih =>
      obtain ⟨parent, above, onwards⟩ := Option.bind_eq_some_iff.1 reached
      obtain ⟨origin, last, parts⟩ := parent?_eq_some above
      obtain ⟨origin', others, count, parts'⟩ := ih onwards
      exact ⟨origin'.trans origin, others ++ [last], by simp [count], by simp [parts, parts']⟩

theorem climb_eq_none_iff (path : Path) (level : Nat) :
    path.climb level = none ↔ path.parts.length < level := by
  induction level generalizing path with
  | zero => simp [climb]
  | succ level ih =>
      rw [climb]
      cases above : path.parent? with
      | none => simp [parent?_eq_none_iff.1 above]
      | some parent =>
          obtain ⟨-, last, same⟩ := parent?_eq_some above
          simp [same, ih parent]

end Path

/-! ## 3. The nearest settings file -/

namespace SettingsFile

/-- The settings file in the first directory, on the way up from a start, in which there is one. -/
def Nearest (files : FileSystem) (start path : Path) : Prop :=
  ∃ level directory, start.climb level = some directory ∧ directory.join fileName = path ∧
    files.isPresent path = true ∧ ∀ lower < level, ∀ passed, start.climb lower = some passed →
      files.isPresent (passed.join fileName) = false

/-- There is no settings file in any directory on the way up from a start. -/
def NoneAbove (files : FileSystem) (start : Path) : Prop :=
  ∀ level directory, start.climb level = some directory →
    files.isPresent (directory.join fileName) = false

variable {files : FileSystem} {start path : Path}

theorem Nearest.isPresent (nearest : Nearest files start path) : files.isPresent path = true := by
  obtain ⟨-, -, -, -, present, -⟩ := nearest
  exact present

theorem firstPresent_eq_some_iff :
    firstPresent files start.ancestors = some path ↔ Nearest files start path := by
  rw [firstPresent, List.find?_eq_some_iff_getElem]
  constructor
  · rintro ⟨present, level, below, here, lower⟩
    rw [List.getElem_map] at here
    rw [List.length_map] at below
    refine ⟨level, start.ancestors[level], ?_, here, present, fun under before passed reached => ?_⟩
    · rw [← Path.getElem?_ancestors, List.getElem?_eq_getElem below]
    · rw [← Path.getElem?_ancestors,
        List.getElem?_eq_getElem (Nat.lt_trans before below)] at reached
      have absent := lower under before
      rw [List.getElem_map, Option.some.inj reached] at absent
      simpa using absent
  · rintro ⟨level, directory, reached, rfl, present, lower⟩
    rw [← Path.getElem?_ancestors, List.getElem?_eq_some_iff] at reached
    obtain ⟨below, here⟩ := reached
    refine ⟨present, level, by rwa [List.length_map], by rw [List.getElem_map, here],
      fun under before => ?_⟩
    rw [List.getElem_map, Bool.not_eq_true', lower under before]
    rw [← Path.getElem?_ancestors, List.getElem?_eq_getElem]

theorem firstPresent_eq_none_iff :
    firstPresent files start.ancestors = none ↔ NoneAbove files start := by
  have everywhere (directory : Path) :
      directory ∈ start.ancestors ↔ ∃ level, start.climb level = some directory := by
    simp only [← Path.getElem?_ancestors, List.mem_iff_getElem?]
  simp only [firstPresent, List.find?_eq_none, List.forall_mem_map, everywhere, NoneAbove,
    Bool.not_eq_true, forall_exists_index]
  exact forall_comm

end SettingsFile
end Synthesis

import Raid.Files.Path

/-!
How the names of a path are those of the path above it, and more. Cutting the end of a path off cuts
names off its end, so that the path above lies on the way to the path.
-/

namespace Raid.Path

theorem pieces_ne_nil (chars : List Char) : pieces chars ≠ [] := by
  cases chars with
  | nil => simp [pieces]
  | cons c rest =>
    unfold pieces
    split
    · simp
    · split <;> simp

theorem pieces_append (before after : List Char) :
    pieces (before ++ '/' :: after) = pieces before ++ pieces after := by
  induction before with
  | nil => simp [pieces]
  | cons c rest ih =>
    simp only [List.cons_append, pieces, ih]
    split
    · rfl
    · cases first : pieces rest with
      | nil => exact absurd first (pieces_ne_nil rest)
      | cons piece others => rfl

theorem isAbsolute_of_names {path : String} (none : names path = []) (some : path ≠ "") :
    isAbsolute path = true := by
  unfold isAbsolute
  unfold names at none
  cases chars : path.toList with
  | nil => exact absurd (String.toList_inj.mp (by simpa using chars)) some
  | cons c rest =>
    by_cases slash : c = '/'
    · simp [slash]
    · rw [chars, pieces, if_neg slash] at none
      split at none <;> simp at none

/-- What is cut from the end of a reversed path ends in a slash, unless the root is left. Nothing is
cut only when there is no slash, or the root alone. -/
theorem cutEnd_cut (chars : List Char) : ∃ cut, chars = cut ++ cutEnd chars ∧
    ((cut = [] ∧ ∀ rest, chars = '/' :: rest → rest = []) ∨ cutEnd chars = ['/'] ∨
      ∃ before, cut = before ++ ['/']) := by
  fun_induction cutEnd chars with
  | case1 => exact ⟨[], rfl, .inr (.inl rfl)⟩
  | case2 rest some ih =>
    obtain ⟨cut, same, kind⟩ := ih
    refine ⟨'/' :: cut, congrArg ('/' :: ·) same, .inr ?_⟩
    rcases kind with ⟨rfl, -⟩ | root | ⟨before, rfl⟩
    · exact .inr ⟨[], rfl⟩
    · exact .inl root
    · exact .inr ⟨'/' :: before, rfl⟩
  | case3 rest ih =>
    obtain ⟨cut, same, kind⟩ := ih
    refine ⟨'.' :: cut, congrArg ('.' :: ·) same, .inr ?_⟩
    rcases kind with ⟨rfl, last⟩ | root | ⟨before, rfl⟩
    · have none : rest = [] := last rest rfl
      exact .inl (by rw [none]; rfl)
    · exact .inl root
    · exact .inr ⟨'.' :: before, rfl⟩
  | case4 other root slash dot =>
    refine ⟨[], rfl, .inl ⟨rfl, ?_⟩⟩
    rintro rest rfl
    exact absurd rfl (slash rest)

/-- Without its end a path begins as before, and what is cut off is set off by a slash, unless
nothing but the root is left. -/
theorem parent?_cut {path above : String} (parent : parent? path = some above) :
    ∃ cut, path.toList = above.toList ++ cut ∧
      (above.toList = [] ∨ above.toList = ['/'] ∨ ∃ after, cut = '/' :: after) := by
  unfold parent? at parent
  obtain ⟨cut, same, -⟩ := cutEnd_cut path.toList.reverse
  split at parent
  · cases parent
  · cases parent
  · cases parent
    obtain ⟨inner, split, kind⟩ :=
      cutEnd_cut ((cutEnd path.toList.reverse).dropWhile (· ≠ '/'))
    have whole : path.toList.reverse = cut ++ (cutEnd path.toList.reverse).takeWhile (· ≠ '/') ++
        inner ++ cutEnd ((cutEnd path.toList.reverse).dropWhile (· ≠ '/')) := by
      rw [List.append_assoc, ← split, List.append_assoc, List.takeWhile_append_dropWhile]
      exact same
    refine ⟨(cut ++ (cutEnd path.toList.reverse).takeWhile (· ≠ '/') ++ inner).reverse, ?_, ?_⟩
    · rw [String.toList_ofList, ← List.reverse_append, ← whole, List.reverse_reverse]
    rw [String.toList_ofList]
    rcases kind with ⟨rfl, last⟩ | root | ⟨before, rfl⟩
    · -- What is left begins with a slash, or there is nothing left.
      cases left : (cutEnd path.toList.reverse).dropWhile (· ≠ '/') with
      | nil => exact .inl (by simp [cutEnd])
      | cons c rest =>
        have slash : c = '/' := by
          have first := List.head?_dropWhile_not (· ≠ '/') (cutEnd path.toList.reverse)
          rw [left] at first
          simpa using first
        subst slash
        rw [last rest left]
        exact .inr (.inl rfl)
    · exact .inr (.inl (by rw [root]; rfl))
    · exact .inr (.inr ⟨_, by rw [← List.append_assoc, List.reverse_append]; rfl⟩)

/-- The names of the path above a path are the first names of the path. -/
theorem names_parent? {path above : String} (parent : parent? path = some above) :
    names above <+: names path := by
  obtain ⟨cut, same, kind⟩ := parent?_cut parent
  simp only [names, same]
  rcases kind with none | root | ⟨after, rfl⟩
  · simp [none, pieces]
  · simp [root, pieces]
  · rw [pieces_append, List.filter_append, List.map_append]
    exact List.prefix_append _ _

theorem isAbsolute_parent? {path above : String} (parent : parent? path = some above)
    (some : above.isEmpty = false) : isAbsolute above = isAbsolute path := by
  obtain ⟨cut, same, -⟩ := parent?_cut parent
  simp only [isAbsolute, same]
  cases chars : above.toList with
  | nil => simp [← String.toList_inj, chars] at some
  | cons c rest => rfl

def above (path : String) : String := (parent? path).getD ""

theorem names_above (path : String) : names (above path) <+: names path := by
  unfold above
  cases parent : parent? path with
  | none => exact List.nil_prefix
  | some directory => exact names_parent? parent

theorem isAbsolute_above {path : String} (some : above path ≠ "") :
    isAbsolute (above path) = isAbsolute path := by
  unfold above at some ⊢
  cases parent : parent? path with
  | none => simp [parent] at some
  | some directory => exact isAbsolute_parent? parent (by simpa [parent] using some)

end Raid.Path

import Raid.Proofs.Results.Naming

/-!
How names for results are confined. A plain name adds itself to the components of a directory and
nothing else, and leaves the directory as the path above it; so the components of a path for results
tell the service, the tactic and the format that it is for.
-/

namespace Raid

namespace Path

variable {directory file : String}

theorem head?_pieces (before after : List Char) :
    (pieces (before ++ '/' :: after)).head? = (pieces before).head? := by
  rw [pieces_append]
  cases first : pieces before with
  | nil => exact absurd first (pieces_ne_nil before)
  | cons piece others => rfl

/-- A plain name below a directory is one component more. -/
theorem components_join (plain : Plain file) (directory : String) :
    components (join directory file) = components directory ++ [.name file] := by
  by_cases empty : directory = ""
  · subst empty
    have own : join "" file = file := by simp [join]
    rw [own, plain.components]
    rfl
  obtain ⟨front, whole, own⟩ := join_cut empty plain.slash
  -- A slash at the end of the directory makes an empty piece, which stands for nothing.
  have found : (pieces directory.toList).filterMap component? =
      (pieces front).filterMap component? := by
    rcases own with slash | bare
    · rw [slash, pieces_append, List.filterMap_append]
      simp [pieces, component?]
    · rw [bare]
  have first : (pieces directory.toList).head? = (pieces front).head? := by
    rcases own with slash | bare
    · rw [slash, head?_pieces]
    · rw [bare]
  simp only [components, isAbsolute_join empty plain.slash, found, first]
  rw [whole, head?_pieces, pieces_append, List.filterMap_append, plain.filterMap_pieces]
  split
  · rfl
  · split <;> rfl

example : components (join "./out//a/../" "b") =
    [.here, .name "out", .name "a", .up, .name "b"] := by decide +kernel

theorem join_ends (plain : Plain file) (directory : String) :
    ∃ before, (join directory file).toList = before ++ file.toList := by
  by_cases empty : directory = ""
  · exact ⟨[], by simp [join, empty]⟩
  · obtain ⟨front, whole, -⟩ := join_cut empty plain.slash
    exact ⟨front ++ ['/'], by simp [whole]⟩

/-- The slash between two plain names is none of the directory's, whose own ends in a letter. -/
theorem join_join {name : String} (plain : Plain file) (named : Plain name) (directory : String) :
    (join (join directory name) file).toList =
      (join directory name).toList ++ '/' :: file.toList := by
  obtain ⟨before, ends⟩ := join_ends named directory
  obtain ⟨front, whole, own⟩ :=
    join_cut (join_ne named.slash named.filled directory) plain.slash
  rcases own with slash | bare
  · have last := congrArg List.getLast? (ends.symm.trans slash)
    rw [List.getLast?_append, List.getLast?_concat] at last
    refine absurd (List.mem_of_getLast? ?_) named.slash
    cases own : name.toList.getLast? with
    | none => exact absurd (List.getLast?_eq_none_iff.mp own) (by simpa using named.filled)
    | some c => simpa [own] using last
  · rw [whole, bare]

theorem cutEnd_plain (plain : Plain file) (before : List Char) :
    cutEnd (file.toList.reverse ++ before) = file.toList.reverse ++ before := by
  have slash : '/' ∉ file.toList.reverse := by simpa using plain.slash
  have filled : file.toList.reverse ≠ [] := by simpa using plain.filled
  have here : file.toList.reverse ≠ ['.'] := by
    intro same
    exact plain.here (String.toList_inj.mp (by simpa using congrArg List.reverse same))
  cases letters : file.toList.reverse with
  | nil => exact absurd letters filled
  | cons c rest =>
    rw [letters] at slash here
    cases rest with
    | nil =>
      have dot : c ≠ '.' := fun same => here (by rw [same])
      exact cutEnd_letter (fun same => slash (by simp [same])) dot
    | cons d rest =>
      -- A dot is cut only together with a slash in front of it.
      simp only [List.mem_cons, not_or] at slash
      unfold cutEnd
      split <;> simp_all

theorem cutEnd_slash {rest : List Char} (filled : rest ≠ []) :
    cutEnd ('/' :: rest) = cutEnd rest := by
  rw [cutEnd]
  exact filled

/-- The path above a plain name below a directory that ends in a plain name is the directory. -/
theorem parent?_join {name : String} (plain : Plain file) (named : Plain name)
    (directory : String) :
    parent? (join (join directory name) file) = some (join directory name) := by
  obtain ⟨before, ends⟩ := join_ends named directory
  have whole := congrArg List.reverse (join_join plain named directory)
  generalize join (join directory name) file = path at whole ⊢
  generalize join directory name = above at *
  have reversed : path.toList.reverse = file.toList.reverse ++ '/' :: above.toList.reverse := by
    simpa using whole
  have slash : '/' ∉ file.toList.reverse := by simpa using plain.slash
  have left := (cut_at slash above.toList.reverse).2
  have stays : cutEnd ('/' :: above.toList.reverse) = above.toList.reverse := by
    have filled : above.toList ≠ [] := by simp [ends, named.filled]
    rw [cutEnd_slash (by simpa using filled), ends, List.reverse_append,
      cutEnd_plain named before.reverse]
  unfold parent?
  rw [reversed, cutEnd_plain plain]
  split
  · rename_i none
    simp at none
  · rename_i root
    cases last : file.toList.reverse with
    | nil => exact absurd last (by simpa using plain.filled)
    | cons c rest => simp [last] at root
  · rw [left, stays, List.reverse_reverse, String.ofList_toList]

end Path

variable {directory service tactic path : String} {format : OutputFormat}

/-- Where the path for results lies: below the directory for the service, which lies below the
directory for results. Its ending tells the format. -/
structure Placed (directory service tactic : String) (format : OutputFormat) (path : String) :
    Prop where
  parent : Path.parent? path = some (Path.join directory service)
  components : Path.components path =
    Path.components directory ++ [.name service, .name (format.fileName tactic)]
  reads : OutputFormat.ofPath path = format

theorem placed_of_resultsPath (named : resultsPath directory service tactic format = .ok path) :
    Placed directory service tactic format path := by
  have reads := (resultsPath_named named).reads
  obtain ⟨outer, inner, rfl⟩ := resultsPath_eq_ok.mp named
  have file := format.fileName_plain inner
  refine ⟨Path.parent?_join file outer directory, ?_, reads⟩
  rw [Path.components_join file, Path.components_join outer, List.append_assoc]
  rfl

/-- Below one directory, paths of the same components are for the same results. -/
theorem Placed.inj {service' tactic' path' : String} {format' : OutputFormat}
    (one : Placed directory service tactic format path)
    (other : Placed directory service' tactic' format' path')
    (same : Path.components path = Path.components path') :
    service = service' ∧ tactic = tactic' ∧ format = format' := by
  rw [one.components, other.components] at same
  have ends := List.append_cancel_left same
  simp only [List.cons.injEq, Path.Component.name.injEq, and_true] at ends
  exact ⟨ends.1, OutputFormat.fileName_inj ends.2⟩

/-- There is a path for results just when the service and the tactic have plain names. It then lies
right below the directory for the service and tells the format; and below one directory no other
service, tactic or format has the same path, however the paths are compared. -/
theorem resultsPath_placed (directory service tactic : String) (format : OutputFormat) :
    ((∃ path, resultsPath directory service tactic format = .ok path) ↔
      Path.Plain service ∧ Path.Plain tactic) ∧
    ∀ path, resultsPath directory service tactic format = .ok path →
      Placed directory service tactic format path ∧
      ∀ service' tactic' format' path',
        resultsPath directory service' tactic' format' = .ok path' →
        Path.components path = Path.components path' →
          service = service' ∧ tactic = tactic' ∧ format = format' := by
  refine ⟨⟨?_, ?_⟩, ?_⟩
  · rintro ⟨path, named⟩
    obtain ⟨outer, inner, -⟩ := resultsPath_eq_ok.mp named
    exact ⟨outer, inner⟩
  · rintro ⟨outer, inner⟩
    exact ⟨_, resultsPath_eq_ok.mpr ⟨outer, inner, rfl⟩⟩
  · intro path named
    have placed := placed_of_resultsPath named
    exact ⟨placed, fun _ _ _ _ named' => placed.inj (placed_of_resultsPath named')⟩

/-- Names with dots, below a directory given with a step and a slash at its end. -/
theorem resultsPath_placed_dotted :
    resultsPath "./out/" "a..b" ".c" .json = .ok "./out/a..b/.c.json" ∧
    Placed "./out/" "a..b" ".c" .json "./out/a..b/.c.json" ∧
    ∀ service tactic format path,
      resultsPath "./out/" service tactic format = .ok path →
      Path.components "./out/a..b/.c.json" = Path.components path →
        "a..b" = service ∧ ".c" = tactic ∧ .json = format := by
  have named : resultsPath "./out/" "a..b" ".c" .json = .ok "./out/a..b/.c.json" := rfl
  exact ⟨named, (resultsPath_placed "./out/" "a..b" ".c" .json).2 _ named⟩

end Raid

import Raid.Proofs.Files.Tree
import Raid.Results.Format

/-!
Where the results of a tactic are written. The path ends in one name of its own, below the names of
the directory for the service; its ending tells the format, and tactics of different names have
files in different places.
-/

namespace Raid

namespace Path

theorem pieces_plain {chars : List Char} (plain : '/' ∉ chars) : pieces chars = [chars] := by
  induction chars with
  | nil => rfl
  | cons c rest ih =>
    simp only [List.mem_cons, not_or] at plain
    rw [pieces, if_neg (Ne.symm plain.1), ih plain.2]

/-- A text that is one name: neither empty nor a step, and without slashes of either kind. -/
structure Plain (text : String) : Prop where
  filled : text ≠ ""
  here : text ≠ "."
  up : text ≠ ".."
  slash : '/' ∉ text.toList
  backslash : '\\' ∉ text.toList

theorem isAbsolute_plain {text : String} (plain : '/' ∉ text.toList) : isAbsolute text = false := by
  cases first : isAbsolute text with
  | false => rfl
  | true => exact absurd (List.mem_of_mem_head? (by simpa [isAbsolute] using first)) plain

theorem component?_name {text : String} (filled : text ≠ "") (here : text ≠ ".")
    (up : text ≠ "..") : component? text.toList = some (.name text) := by
  have other (word : String) (different : text ≠ word) : text.toList ≠ word.toList :=
    fun same => different (String.toList_inj.mp same)
  have quiet : ¬(text.toList = [] ∨ text.toList = ['.']) := by
    rintro (empty | step)
    · exact other "" filled empty
    · exact other "." here step
  have level : text.toList ≠ ['.', '.'] := other ".." up
  rw [component?, if_neg quiet, if_neg level, String.ofList_toList]

theorem Plain.filterMap_pieces {text : String} (plain : Plain text) :
    (pieces text.toList).filterMap component? = [.name text] := by
  rw [pieces_plain plain.slash, List.filterMap_cons,
    component?_name plain.filled plain.here plain.up, List.filterMap_nil]

theorem Plain.components {text : String} (plain : Plain text) : components text = [.name text] := by
  have own : (pieces text.toList).head? ≠ some ['.'] := by
    rw [pieces_plain plain.slash]
    exact fun same => plain.here (String.toList_inj.mp (Option.some.inj same))
  simp only [Path.components, isAbsolute_plain plain.slash, plain.filterMap_pieces, own,
    Bool.false_eq_true, ↓reduceIte]

theorem isName_iff {text : String} : isName text = true ↔ Plain text := by
  constructor
  · intro single
    unfold isName at single
    split at single
    · rename_i whole
      have other (word : String) (none : ∀ name, Path.components word ≠ [.name name]) :
          text ≠ word := fun same => none _ (same ▸ whole)
      have letters (c : Char) (slash : (c ≠ '/' && c ≠ '\\') = false) : c ∉ text.toList := by
        intro member
        have fine := List.all_eq_true.mp single c member
        rw [slash] at fine
        cases fine
      exact ⟨other "" nofun, other "." nofun, other ".." nofun, letters '/' rfl, letters '\\' rfl⟩
    · cases single
  · intro plain
    rw [isName, plain.components]
    refine List.all_eq_true.mpr fun c member => ?_
    have slash : c ≠ '/' := fun same => plain.slash (same ▸ member)
    have backslash : c ≠ '\\' := fun same => plain.backslash (same ▸ member)
    simp [slash, backslash]

theorem cutEnd_letter {c : Char} {rest : List Char} (slash : c ≠ '/') (dot : c ≠ '.') :
    cutEnd (c :: rest) = c :: rest := by
  unfold cutEnd
  split <;> simp_all

/-- Text falls apart at the first separator. -/
theorem cut_at {separator : Char} {first : List Char} (free : separator ∉ first)
    (rest : List Char) :
    (first ++ separator :: rest).takeWhile (· ≠ separator) = first ∧
      (first ++ separator :: rest).dropWhile (· ≠ separator) = separator :: rest := by
  have letters : ∀ c ∈ first, decide (c ≠ separator) = true := by
    intro c member
    have other : c ≠ separator := fun same => free (same ▸ member)
    simpa using other
  rw [List.takeWhile_append_of_pos letters, List.dropWhile_append_of_pos letters]
  simp

section

variable {directory file : String} (some : directory ≠ "") (plain : '/' ∉ file.toList)

include some plain

/-- A plain name below a directory: the slash in front of it is the directory's own, or added. -/
theorem join_cut : ∃ front, (join directory file).toList = front ++ '/' :: file.toList ∧
    (directory.toList = front ++ ['/'] ∨ directory.toList = front) := by
  have relative : isAbsolute file = false := isAbsolute_plain plain
  have filled : directory.isEmpty = false := by simpa using some
  simp only [join, relative, filled, Bool.false_eq_true, ↓reduceIte]
  split
  · rename_i last
    obtain ⟨front, same⟩ := List.getLast?_eq_some_iff.mp last
    exact ⟨front, by simp [same], .inl same⟩
  · exact ⟨directory.toList, by simp, .inr rfl⟩

omit some in
theorem join_ne (filled : file ≠ "") (directory : String) : join directory file ≠ "" := by
  by_cases some : directory = ""
  · simpa [join, some] using filled
  · obtain ⟨front, whole, -⟩ := join_cut some plain
    intro empty
    simp [empty] at whole

theorem names_join (filled : file ≠ "") : names (join directory file) = names directory ++ [file] := by
  obtain ⟨front, whole, own⟩ := join_cut some plain
  have last : (pieces file.toList).filter (· ≠ []) = [file.toList] := by
    simp [pieces_plain plain, filled]
  have before : (pieces directory.toList).filter (· ≠ []) = (pieces front).filter (· ≠ []) := by
    rcases own with slash | bare
    · rw [slash, pieces_append, List.filter_append]
      simp [pieces]
    · rw [bare]
  rw [names, whole, pieces_append, List.filter_append, last, ← before, names]
  simp

theorem isAbsolute_join : isAbsolute (join directory file) = isAbsolute directory := by
  obtain ⟨front, whole, own⟩ := join_cut some plain
  have filled : directory.toList ≠ [] := by simpa using some
  simp only [isAbsolute, whole]
  rcases own with slash | bare
  · cases front <;> simp [slash]
  · cases front with
    | nil => exact absurd bare filled
    | cons c rest => simp [bare]

theorem fileName?_join {c : Char} {before : List Char} (ends : file.toList = before ++ [c])
    (letter : c ≠ '.') : fileName? (join directory file) = Option.some file.toList := by
  obtain ⟨front, whole, -⟩ := join_cut some plain
  have slash : c ≠ '/' := fun same => plain (by simp [ends, same])
  have reversed : (join directory file).toList.reverse =
      c :: (before.reverse ++ '/' :: front.reverse) := by simp [whole, ends]
  have name : (c :: (before.reverse ++ '/' :: front.reverse)).takeWhile (· ≠ '/') =
      c :: before.reverse := by
    have bare : '/' ∉ c :: before.reverse := by simpa [ends, or_comm] using plain
    exact (cut_at bare front.reverse).1
  rw [fileName?, reversed, cutEnd_letter slash letter]
  simp only [name]
  rw [List.reverse_cons, List.reverse_reverse, ← ends, if_neg]
  have last : file.toList.getLast? = Option.some c := by simp [ends]
  rintro (none | step | step)
  · simp [none] at last
  · exact letter (by simpa [step, eq_comm] using last)
  · exact letter (by simpa [step, eq_comm] using last)

theorem extension?_join {name extension : String} (named : name ≠ "")
    (parts : file.toList = name.toList ++ '.' :: extension.toList) (ending : extension ≠ "")
    (letters : '.' ∉ extension.toList) :
    extension? (join directory file) = Option.some extension := by
  obtain ⟨before, c, ends⟩ : ∃ before c, extension.toList = before ++ [c] := by
    exact ⟨extension.toList.dropLast, extension.toList.getLast (by simpa using ending),
      (List.dropLast_concat_getLast _).symm⟩
  have letter : c ≠ '.' := fun same => letters (by simp [ends, same])
  have ends : file.toList = (name.toList ++ '.' :: before) ++ [c] := by simp [parts, ends]
  have reversed : file.toList.reverse = extension.toList.reverse ++ '.' :: name.toList.reverse := by
    simp [parts]
  have free : '.' ∉ extension.toList.reverse := by simpa using letters
  obtain ⟨taken, left⟩ := cut_at free name.toList.reverse
  rw [← reversed] at taken left
  simp only [extension?, fileName?_join some plain ends letter, Option.bind_eq_bind,
    Option.bind_some, left, taken]
  simp [named]

end

end Path

namespace OutputFormat

def fileName (format : OutputFormat) (tactic : String) : String := tactic ++ "." ++ format.extension

theorem fileName_toList (format : OutputFormat) (tactic : String) :
    (format.fileName tactic).toList = tactic.toList ++ '.' :: format.extension.toList := by
  simp [fileName]

/-- The name of a file tells the tactic and the format. -/
theorem fileName_inj {format format' : OutputFormat} {tactic tactic' : String}
    (same : format.fileName tactic = format'.fileName tactic') :
    tactic = tactic' ∧ format = format' := by
  have letters := congrArg String.toList same
  rw [fileName_toList, fileName_toList] at letters
  have long : format.extension.toList.length = format'.extension.toList.length := by
    cases format <;> cases format' <;> rfl
  obtain ⟨name, ending⟩ := List.append_inj' letters (by simp [long])
  refine ⟨String.toList_inj.mp name, ?_⟩
  cases format <;> cases format' <;> first | rfl | exact absurd ending (by decide)

theorem fileName_long (format : OutputFormat) (tactic : String) :
    2 < (format.fileName tactic).toList.length := by
  have ending : 2 ≤ format.extension.toList.length := by cases format <;> decide
  rw [fileName_toList, List.length_append, List.length_cons]
  omega

theorem fileName_plain (format : OutputFormat) {tactic : String} (plain : Path.Plain tactic) :
    Path.Plain (format.fileName tactic) := by
  have long := format.fileName_long tactic
  have ending : '/' ∉ format.extension.toList ∧ '\\' ∉ format.extension.toList := by
    cases format <;> decide
  constructor
  · intro same
    simp [same] at long
  · intro same
    simp [same] at long
  · intro same
    simp [same] at long
  · simp [fileName_toList, plain.slash, ending.1]
  · simp [fileName_toList, plain.backslash, ending.2]

/-- The name of a file is no step within directories, whatever the name of the tactic. -/
theorem step_fileName (format : OutputFormat) (tactic : String) (location : Location) :
    Path.step location (format.fileName tactic) = location ++ [format.fileName tactic] := by
  have long := format.fileName_long tactic
  have other : format.fileName tactic ≠ "." ∧ format.fileName tactic ≠ ".." := by
    constructor <;> intro same <;> simp [same] at long
  rw [Path.step, if_neg other.1, if_neg other.2]

end OutputFormat

variable {directory service tactic path : String} {format : OutputFormat}

theorem resultsPath_eq_ok : resultsPath directory service tactic format = .ok path ↔
    Path.Plain service ∧ Path.Plain tactic ∧
      path = Path.join (Path.join directory service) (format.fileName tactic) := by
  rw [← Path.isName_iff, ← Path.isName_iff, OutputFormat.fileName, eq_comm]
  unfold resultsPath
  cases Path.isName service <;> cases Path.isName tactic <;> simp

/-- What is refused is a name of the two that is not plain. -/
theorem resultsPath_error {error : ResultsError}
    (refused : resultsPath directory service tactic format = .error error) :
    ∃ name, error = .invalidName name ∧ (name = service ∨ name = tactic) ∧ ¬Path.Plain name := by
  unfold resultsPath at refused
  split at refused
  · rename_i outer
    cases refused
    exact ⟨service, rfl, .inl rfl, fun plain => by simp [Path.isName_iff.mpr plain] at outer⟩
  · split at refused
    · rename_i inner
      cases refused
      exact ⟨tactic, rfl, .inr rfl, fun plain => by simp [Path.isName_iff.mpr plain] at inner⟩
    · cases refused

structure Named (directory service tactic : String) (format : OutputFormat) (path : String) :
    Prop where
  filled : tactic ≠ ""
  whole : path = Path.join (Path.join directory service) (format.fileName tactic)
  names : Path.names path = Path.names (Path.join directory service) ++ [format.fileName tactic]
  absolute : Path.isAbsolute path = Path.isAbsolute (Path.join directory service)
  reads : OutputFormat.ofPath path = format

theorem resultsPath_named (named : resultsPath directory service tactic format = .ok path) :
    Named directory service tactic format path := by
  obtain ⟨outer, inner, rfl⟩ := resultsPath_eq_ok.mp named
  have file := format.fileName_plain inner
  have some := Path.join_ne outer.slash outer.filled directory
  refine ⟨inner.filled, rfl, Path.names_join some file.slash file.filled,
    Path.isAbsolute_join some file.slash, ?_⟩
  have extension := Path.extension?_join some file.slash inner.filled
    (format.fileName_toList tactic) (by cases format <;> decide) (by cases format <;> decide)
  rw [OutputFormat.ofPath, extension]
  cases format <;> decide

/-- Files of different paths lie in different places. -/
theorem home_ne_of_resultsPath {tactic' path' : String} {format' : OutputFormat}
    (named : resultsPath directory service tactic format = .ok path)
    (named' : resultsPath directory service tactic' format' = .ok path') (different : path' ≠ path)
    (tree : FileTree) : tree.home path' ≠ tree.home path := by
  have one := resultsPath_named named
  have other := resultsPath_named named'
  have start : tree.start path' = tree.start path := by
    rw [FileTree.start, FileTree.start, one.absolute, other.absolute]
  intro same
  rw [FileTree.home, FileTree.home, start, one.names, other.names, Path.home, Path.home,
    List.foldl_append, List.foldl_append] at same
  simp only [List.foldl_cons, List.foldl_nil, OutputFormat.step_fileName] at same
  have file := List.singleton_inj.mp (List.append_cancel_left same)
  exact different (by rw [one.whole, other.whole, file])

/-- Tactics of different names have files of different paths. -/
theorem name_eq_of_resultsPath {tactic' : String}
    (named : resultsPath directory service tactic format = .ok path)
    (named' : resultsPath directory service tactic' format = .ok path) : tactic' = tactic := by
  have names := (resultsPath_named named).names
  rw [(resultsPath_named named').names] at names
  exact (OutputFormat.fileName_inj (List.singleton_inj.mp (List.append_cancel_left names))).1

end Raid

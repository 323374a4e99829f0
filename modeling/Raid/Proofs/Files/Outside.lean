import Raid.Proofs.Files.Undoing

/-!
What operations on files see of a region of the tree. Where the way of a path avoids the region, an
operation on the path comes out as it would if nothing stood in the region, and what it does it does
to the rest of the tree.
-/

namespace Raid

abbrev Region := Location → Bool

/-- The way of the path avoids the region. The empty path leads nowhere. -/
def Region.Spares (region : Region) (workingDirectory : Location) (path : String) : Prop :=
  path ≠ "" → ∀ location ∈ ({ workingDirectory } : FileTree).way path, region location = false

namespace FileTree

/-- The tree with nothing in the region, where nothing is refused either. -/
def outside (region : Region) (tree : FileTree) : FileTree :=
  { tree with
    entries := tree.entries.filter fun cell => !region cell.1
    refuses := fun location => if region location then none else tree.refuses location }

variable {region : Region} {tree first second : FileTree} {path : String} {location : Location}

section

variable (apart : region location = false)

include apart

theorem findAt?_outside :
    findAt? location (tree.outside region).entries = findAt? location tree.entries :=
  findAt?_filter (fun _ => by simp [apart]) tree.entries

theorem entryAt?_outside : (tree.outside region).entryAt? location = tree.entryAt? location := by
  have same : findAt? _ (tree.outside region).entries = findAt? _ tree.entries :=
    findAt?_outside apart
  unfold entryAt? rootPermissions
  -- An entry for the root tells of its permissions alone.
  split
  · rename_i root
    rw [root] at same
    rw [same]
  · exact same

theorem refuses_outside : (tree.outside region).refuses location = tree.refuses location := by
  simp [outside, apart]

theorem outside_put (entry : Entry) :
    (tree.put location entry).outside region = (tree.outside region).put location entry := by
  simp only [outside, put, FileTree.mk.injEq, and_true]
  induction tree.entries with
  | nil => simp [putAt, apart]
  | cons head rest ih =>
    obtain ⟨place, old⟩ := head
    by_cases here : place = location
    · subst here
      simp [putAt, apart]
    · simp only [putAt, here, ↓reduceIte, List.filter_cons, ih]
      split
      · simp [putAt, here]
      · rfl

theorem changed_outside (after : FileTree) :
    (tree.outside region).changed location (after.outside region) =
      (tree.changed location after).map (outside region) := by
  unfold changed
  rw [refuses_outside apart]
  cases tree.refuses location <;> rfl

theorem step_outside (name : String) :
    (tree.outside region).step location name = tree.step location name := by
  unfold step
  rw [entryAt?_outside apart]

end

theorem walk_outside {names : List String}
    (apart : ∀ place ∈ location :: Path.trail location names, region place = false) :
    (tree.outside region).walk location names = tree.walk location names := by
  induction names generalizing location with
  | nil => rfl
  | cons name rest ih =>
    simp only [walk, step_outside (apart location List.mem_cons_self)]
    cases stepped : tree.step location name with
    | error cause => rfl
    | ok next =>
      obtain ⟨rfl, -⟩ := step_eq stepped
      exact ih fun place inside => apart place (List.mem_cons_of_mem _ inside)

theorem outside_erase (location : Location) :
    (tree.erase location).outside region = (tree.outside region).erase location := by
  simp only [outside, erase, List.filter_filter, Bool.and_comm]

theorem outside_put_inside (inside : region location = true) (entry : Entry) :
    (tree.put location entry).outside region = tree.outside region := by
  simp only [outside, put, FileTree.mk.injEq, and_true]
  induction tree.entries with
  | nil => simp [putAt, inside]
  | cons head rest ih =>
    obtain ⟨place, old⟩ := head
    unfold putAt
    split
    · rename_i here
      simp [here, inside]
    · rw [List.filter_cons, List.filter_cons, ih]

theorem filled_of_locate (located : tree.locate path = .ok location) : path ≠ "" := by
  rintro rfl
  simp [locate] at located

section

variable (spares : region.Spares tree.workingDirectory path)

include spares

theorem locate_outside : (tree.outside region).locate path = tree.locate path := by
  by_cases bare : path = ""
  · simp [locate, bare]
  have walked : (tree.outside region).walk (tree.start path) (Path.names path) =
      tree.walk (tree.start path) (Path.names path) := walk_outside (spares bare)
  unfold start at walked
  unfold locate
  rw [← walked]
  rfl

theorem apart_of_locate (located : tree.locate path = .ok location) : region location = false := by
  rw [locate_eq located]
  exact spares (filled_of_locate located) _ (home_mem_way tree path)

theorem lookup_outside : (tree.outside region).lookup path = tree.lookup path := by
  unfold lookup
  rw [locate_outside spares]
  cases located : tree.locate path with
  | error cause => rfl
  | ok location => simp only [entryAt?_outside (apart_of_locate spares located)]

theorem apart_of_lookup {entry : Entry} (found : tree.lookup path = .ok (location, entry)) :
    region location = false :=
  apart_of_locate spares (found_of_lookup found).1

theorem setPermissions_outside (bits : Permissions) :
    (tree.outside region).setPermissions path bits =
      (tree.setPermissions path bits).map (outside region) := by
  unfold setPermissions
  rw [lookup_outside spares]
  cases found : tree.lookup path with
  | error cause => rfl
  | ok place =>
    have apart := apart_of_lookup spares found
    simp only [← outside_put apart, changed_outside apart]

theorem removeFile_outside :
    (tree.outside region).removeFile path = (tree.removeFile path).map (outside region) := by
  unfold removeFile
  rw [lookup_outside spares]
  cases found : tree.lookup path with
  | error cause => rfl
  | ok place =>
    have apart := apart_of_lookup spares found
    obtain ⟨location, entry⟩ := place
    cases entry with
    | file content bits => simp only [← outside_erase, changed_outside apart]
    | directory bits => rfl

theorem write_outside (content : String) :
    (tree.outside region).write path content = (tree.write path content).map (outside region) := by
  unfold write
  rw [locate_outside spares]
  cases located : tree.locate path with
  | error cause => rfl
  | ok location =>
    have apart := apart_of_locate spares located
    simp only [entryAt?_outside apart, ← outside_put apart, changed_outside apart]
    cases tree.entryAt? location with
    | none =>
      dsimp only
      split <;> rfl
    | some entry =>
      cases entry with
      | file old bits =>
        dsimp only
        split <;> rfl
      | directory bits => rfl

theorem countEntries_outside (within : path ≠ "" → ∀ child, child ≠ [] →
      child.dropLast = tree.home path → region child = false) :
    (tree.outside region).countEntries path = tree.countEntries path := by
  unfold countEntries
  rw [lookup_outside spares]
  cases found : tree.lookup path with
  | error cause => rfl
  | ok place =>
    obtain ⟨location, entry⟩ := place
    cases entry with
    | file content bits => rfl
    | directory bits =>
      obtain rfl : location = tree.home path := locate_eq (found_of_lookup found).1
      simp only [outside, List.filter_filter]
      congr 2
      refine List.filter_congr fun cell _ => ?_
      have apart := within (filled_of_locate (found_of_lookup found).1) cell.1
      grind

end

/-- An operation that comes out as if nothing stood in the region, and leaves every directory where it
is. -/
structure Sparing (region : Region) (workingDirectory : Location)
    (operation : FileTree → Except Cause FileTree) : Prop where
  outside : ∀ tree : FileTree, tree.workingDirectory = workingDirectory →
    operation (tree.outside region) = (operation tree).map (outside region)
  ground : ∀ {tree after}, operation tree = .ok after → after.ground = tree.ground
  stands : ∀ {tree after}, operation tree = .ok after → ∀ place, Stands tree after place

section

variable {workingDirectory : Location} (spares : region.Spares workingDirectory path)

include spares

theorem sparing_setPermissions (bits : Permissions) :
    Sparing region workingDirectory fun tree => tree.setPermissions path bits where
  outside tree same := setPermissions_outside (by rwa [same]) bits
  ground := ground_setPermissions
  stands set place := by
    obtain ⟨location, entry, found, -, rfl⟩ := setPermissions_eq set
    exact stands_put_withPermissions (found_of_lookup found).2 bits place

theorem sparing_write (content : String) :
    Sparing region workingDirectory fun tree => tree.write path content where
  outside tree same := write_outside (by rwa [same]) content
  ground := ground_write
  stands written place := by
    obtain ⟨-, -, bits, rfl, vacant⟩ := write_eq written
    exact stands_put vacant _ place

theorem sparing_removeFile : Sparing region workingDirectory fun tree => tree.removeFile path where
  outside tree same := removeFile_outside (by rwa [same])
  ground := ground_removeFile
  stands {tree after} removed place bits here := by
    obtain ⟨location, content, old, found, -, rfl⟩ := removeFile_eq removed
    have file := (found_of_lookup found).2
    have below : location ≠ [] := by
      rintro rfl
      simp [entryAt?] at file
    have other : place ≠ location := by
      rintro rfl
      rw [file] at here
      cases here
    exact ⟨bits, by rw [entryAt?_erase _ _ below, if_neg other, here]⟩

end

def Alike (region : Region) (first second : FileTree) : Prop :=
  second.outside region = first.outside region

namespace Alike

variable {third : FileTree}

theorem refl (region : Region) (tree : FileTree) : Alike region tree tree := rfl

theorem symm (alike : Alike region first second) : Alike region second first := Eq.symm alike

theorem trans (begun : Alike region first second) (ended : Alike region second third) :
    Alike region first third := Eq.trans ended begun

theorem workingDirectory (alike : Alike region first second) :
    second.workingDirectory = first.workingDirectory := by
  change (second.outside region).workingDirectory = (first.outside region).workingDirectory
  rw [show second.outside region = first.outside region from alike]

section

variable (alike : Alike region first second)
  (spares : region.Spares first.workingDirectory path)

include alike spares

theorem lookup : second.lookup path = first.lookup path := by
  rw [← lookup_outside spares, ← alike, lookup_outside (alike.workingDirectory ▸ spares)]

theorem isDirectory : second.isDirectory path = first.isDirectory path := by
  unfold FileTree.isDirectory
  rw [alike.lookup spares]

theorem read : second.read path = first.read path := by
  unfold FileTree.read
  rw [alike.lookup spares]

theorem permissions : second.permissions path = first.permissions path := by
  unfold FileTree.permissions
  rw [alike.lookup spares]

theorem countEntries (within : path ≠ "" → ∀ child, child ≠ [] →
      child.dropLast = first.home path → region child = false) :
    second.countEntries path = first.countEntries path := by
  rw [← countEntries_outside spares within, ← alike,
    countEntries_outside (alike.workingDirectory ▸ spares)
      (home_congr alike.workingDirectory path ▸ within)]

end

/-- The same operation on both trees is refused for the same cause, or leaves trees that are alike. -/
theorem agree {operation : FileTree → Except Cause FileTree}
    (alike : Alike region first second)
    (sparing : Sparing region first.workingDirectory operation) :
    (∃ cause, operation first = .error cause ∧ operation second = .error cause) ∨
      ∃ one other, operation first = .ok one ∧ operation second = .ok other ∧
        operation (first.outside region) = .ok (one.outside region) ∧ Alike region one other := by
  have same := sparing.outside first rfl
  have same' := sparing.outside second alike.workingDirectory
  rw [show second.outside region = first.outside region from alike, same] at same'
  cases one : operation first with
  | error cause =>
    cases other : operation second with
    | error cause' =>
      rw [one, other] at same'
      cases same'
      exact .inl ⟨cause, rfl, rfl⟩
    | ok after => simp [one, other, Except.map] at same'
  | ok after =>
    cases other : operation second with
    | error cause => simp [one, other, Except.map] at same'
    | ok after' =>
      rw [one, other] at same'
      exact .inr ⟨after, after', rfl, rfl, by rw [same, one]; rfl, (Except.ok.inj same').symm⟩

/-- Directories are planted where none stand: in the region, if the other places have theirs. -/
theorem of_planted {places : Location → Prop} (planted : Planted places first second)
    (inside : ∀ location, places location → region location = true ∨
      ∃ bits, first.entryAt? location = some (.directory bits)) :
    Alike region first second := by
  induction planted with
  | refl tree => rfl
  | @plant tree after location bare here later ih =>
    have planting : Planted places tree (tree.put location (.directory .newDirectory)) :=
      .plant bare here (.refl _)
    have inRegion : region location = true := by
      rcases inside location here with inRegion | ⟨bits, stands⟩
      · exact inRegion
      · simp [bare] at stands
    refine trans (outside_put_inside inRegion _) (ih fun place there => ?_)
    rcases inside place there with inRegion | ⟨bits, stands⟩
    · exact .inl inRegion
    · exact .inr ⟨bits, planting.kept stands⟩

end Alike

end FileTree

end Raid

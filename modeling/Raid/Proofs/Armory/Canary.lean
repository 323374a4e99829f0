import Raid.Armory.Directory
import Raid.Proofs.Results.Naming

/-!
Where canary files lie. Their names are plain names that begin with a dot, so that none of them is the
file for the results of a tactic whose name begins with a letter.
-/

namespace Raid

theorem Text.hexText_plain {width value : Nat} : '/' ∉ Text.hexText width value := by
  have digit : ∀ n < 16, Nat.digitChar n ≠ '/' := by decide
  have digits (n : Nat) : '/' ∉ Nat.toDigits 16 n := by
    induction n using Nat.strongRecOn with
    | ind n ih =>
      by_cases small : n < 16
      · rw [Nat.toDigits_of_lt_base small, List.mem_singleton]
        exact (digit n small).symm
      · rw [Nat.toDigits_of_base_le (by omega) (by omega), List.mem_append, List.mem_singleton,
          not_or]
        exact ⟨ih (n / 16) (by omega), (digit (n % 16) (by omega)).symm⟩
  simp [Text.hexText, digits value]

theorem identifierText_plain (number : Nat) : '/' ∉ (identifierText number).toList := by
  have part (first count : Nat) :
      '/' ∉ ((Text.hexText 32 (number % Nat.pow 2 122)).drop first).take count := fun member =>
    Text.hexText_plain (List.mem_of_mem_drop (List.mem_of_mem_take member))
  rw [identifierText, String.toList_ofList]
  generalize Text.hexText 32 (number % Nat.pow 2 122) = digits at part ⊢
  simp [part]

namespace DirectoryCheck

def canaryName (number : Nat) : String := ".raidengine-canary-" ++ identifierText number

theorem canaryName_cut (number : Nat) : ∃ front, '/' ∉ front ∧ front.head? = some '.' ∧
    2 < front.length ∧ (canaryName number).toList = front ++ (identifierText number).toList :=
  ⟨".raidengine-canary-".toList, by decide +kernel, by decide +kernel, by decide +kernel,
    String.toList_append⟩

theorem canaryName_plain (number : Nat) : '/' ∉ (canaryName number).toList := by
  obtain ⟨front, plain, -, -, whole⟩ := canaryName_cut number
  rw [whole, List.mem_append, not_or]
  exact ⟨plain, identifierText_plain number⟩

theorem canaryName_head (number : Nat) : (canaryName number).toList.head? = some '.' := by
  obtain ⟨front, -, head, -, whole⟩ := canaryName_cut number
  rw [whole, List.head?_append, head]
  rfl

theorem step_canaryName (number : Nat) (location : Location) :
    Path.step location (canaryName number) = location ++ [canaryName number] := by
  obtain ⟨front, -, -, long, whole⟩ := canaryName_cut number
  have long : 2 < (canaryName number).toList.length := by
    rw [whole, List.length_append]
    omega
  have other : canaryName number ≠ "." ∧ canaryName number ≠ ".." := by
    constructor <;> intro same <;> simp [same] at long
  rw [Path.step, if_neg other.1, if_neg other.2]

/-- A canary file lies in another place than the results of a tactic whose name begins with
a letter. -/
theorem home_ne_canary {directory service tactic path target : String} {format : OutputFormat}
    (named : resultsPath directory service tactic format = .ok path) {c : Char}
    (first : tactic.toList.head? = some c) (letter : c ≠ '.') (filled : target ≠ "") (number : Nat)
    (tree : FileTree) : tree.home path ≠ tree.home (Path.join target (canaryName number)) := by
  have result := resultsPath_named named
  have canary := Path.names_join filled (canaryName_plain number) fun none => by
    have head := canaryName_head number
    rw [none] at head
    cases head
  intro same
  rw [FileTree.home, FileTree.home, result.names, canary, Path.home, Path.home, List.foldl_append,
    List.foldl_append] at same
  simp only [List.foldl_cons, List.foldl_nil, OutputFormat.step_fileName, step_canaryName] at same
  have file := List.singleton_inj.mp (List.append_inj_right' same rfl)
  have heads := congrArg (fun name => name.toList.head?) file
  simp only [canaryName_head, OutputFormat.fileName_toList, List.head?_append, first,
    Option.some_or, Option.some.injEq] at heads
  exact letter heads

end DirectoryCheck

end Raid

import Raid.Proofs.Document.Mirroring

/-!
Whether a document mirrors a value can be computed, and so can the equality of values.
-/

namespace Raid

namespace Json

mutual

theorem same_iff : (a b : Json) → (same a b = true ↔ a = b)
  | .list a, .list b => by simp [same, sameList_iff a b]
  | .object a, .object b => by simp [same, sameMembers_iff a b]
  | .null, b => by cases b <;> simp [same]
  | .flag _, b => by cases b <;> simp [same]
  | .number _, b => by cases b <;> simp [same]
  | .text _, b => by cases b <;> simp [same]
  | .list _, .null | .list _, .flag _ | .list _, .number _ | .list _, .text _
  | .list _, .object _ => by simp [same]
  | .object _, .null | .object _, .flag _ | .object _, .number _ | .object _, .text _
  | .object _, .list _ => by simp [same]

theorem sameList_iff : (a b : List Json) → (sameList a b = true ↔ a = b)
  | [], [] => by simp [sameList]
  | [], _ :: _ | _ :: _, [] => by simp [sameList]
  | a :: rest, b :: others => by simp [sameList, same_iff a b, sameList_iff rest others]

theorem sameMembers_iff : (a b : List (String × Json)) → (sameMembers a b = true ↔ a = b)
  | [], [] => by simp [sameMembers]
  | [], _ :: _ | _ :: _, [] => by simp [sameMembers]
  | (k, a) :: rest, (l, b) :: others => by
    simp [sameMembers, same_iff a b, sameMembers_iff rest others, and_assoc]

end

instance : DecidableEq Json := fun a b => decidable_of_iff (same a b = true) (same_iff a b)

end Json

namespace Document

open DocumentNode

variable {ν : Type} [DocumentNode ν]

mutual

/-- `Mirrors` as a computation. -/
def mirrors : Json → ν → Bool
  | .null, node => json? node = some .null && isNull node
  | .flag value, node => json? node = some (.flag value) && flag? node = some value
  | .number number, node => json? node = some (.number number) &&
    match number with
    | .whole (.ofNat count) => natural? node = some count
    | _ => true
  | .text value, node => json? node = some (.text value) && text? node = some value &&
    word? node = some value && !isNull node
  | .list items, node => json? node = some (Json.normal (.list items))
  | .object members, node => json? node = some (Json.normal (.object members)) &&
    match entries? node with
    | some entries => mirrorsMembers members entries
    | none => false

def mirrorsMembers : List (String × Json) → List (ν × ν) → Bool
  | [], [] => true
  | (key, value) :: rest, (name, node) :: others =>
    text? name = some key && mirrors value node && mirrorsMembers rest others
  | _, _ => false

end

mutual

theorem mirrors_iff : (value : Json) → (node : ν) → (mirrors value node = true ↔ Mirrors value node)
  | .null, node => by simp [mirrors, Mirrors]
  | .flag _, node => by simp [mirrors, Mirrors]
  | .number (.whole (.ofNat count)), node => by
    simp only [mirrors, Mirrors, Bool.and_eq_true, decide_eq_true_eq, Number.whole.injEq,
      and_congr_right_iff]
    exact fun _ => ⟨fun read other same => by rw [read, Int.ofNat.inj same], fun each => each count rfl⟩
  | .number (.whole (.negSucc count)), node => by simp [mirrors, Mirrors]
  | .number (.real _), node => by simp [mirrors, Mirrors]
  | .text _, node => by simp [mirrors, Mirrors, and_assoc]
  | .list _, node => by simp [mirrors, Mirrors]
  | .object members, node => by
    simp only [mirrors, Mirrors, Bool.and_eq_true, decide_eq_true_eq, and_congr_right_iff]
    intro _
    cases entries? node with
    | none => simp
    | some entries => simp [mirrorsMembers_iff members entries]

theorem mirrorsMembers_iff : (members : List (String × Json)) → (entries : List (ν × ν)) →
    (mirrorsMembers members entries = true ↔ MirrorsMembers members entries)
  | [], [] => by simp [mirrorsMembers, MirrorsMembers]
  | [], _ :: _ | _ :: _, [] => by simp [mirrorsMembers, MirrorsMembers]
  | (_, value) :: rest, (_, node) :: others => by
    simp [mirrorsMembers, MirrorsMembers, mirrors_iff value node, mirrorsMembers_iff rest others,
      and_assoc]

end

instance (value : Json) (node : ν) : Decidable (Mirrors value node) :=
  decidable_of_iff (mirrors value node = true) (mirrors_iff value node)

end Document

end Raid

import Mathlib.Data.List.Forall2
import Raid.Document.JsonNode

/-!
Documents that give a reader the answers that a value would give, whatever their notation. What is
read of the fields and the entries of such a document is what the value has.
-/

namespace Raid

namespace Dict

variable {α : Type}

theorem insertEntry_last {key : String} {value : α} {entries : List (String × α)}
    (last : ∀ entry ∈ entries, entry.1 < key) :
    insertEntry key value entries = entries ++ [(key, value)] := by
  induction entries with
  | nil => rfl
  | cons head rest ih =>
    obtain ⟨k, v⟩ := head
    obtain ⟨before, last⟩ := List.forall_mem_cons.mp last
    have after : ¬key < k := fun other => String.lt_irrefl k (String.lt_trans before other)
    rw [insertEntry, if_neg after, if_pos before, ih last, List.cons_append]

theorem eq_empty {dict : Dict α} (none : dict.isEmpty = true) : dict = {} :=
  eq_of_entries (List.isEmpty_iff.mp none)

theorem map_id (dict : Dict α) : dict.map id = dict :=
  eq_of_entries (by simp [map])

theorem ofList_entries (dict : Dict α) : ofList dict.entries = dict := by
  have grow : ∀ (later : List (String × α)) (first : Dict α),
      ((first.entries ++ later).Pairwise fun a b => a.1 < b.1) →
      (later.foldl (fun dict pair => dict.insert pair.1 pair.2) first).entries =
        first.entries ++ later := by
    intro later
    induction later with
    | nil => simp
    | cons head rest ih =>
      intro first sorted
      have last : ∀ entry ∈ first.entries, entry.1 < head.1 := by
        intro entry member
        exact (List.pairwise_append.mp sorted).2.2 entry member head List.mem_cons_self
      have inserted : (first.insert head.1 head.2).entries = first.entries ++ [head] :=
        insertEntry_last last
      rw [List.foldl_cons, ih, inserted, List.append_assoc, List.singleton_append]
      rwa [inserted, List.append_assoc, List.singleton_append]
  exact eq_of_entries (grow dict.entries empty (by simpa [empty] using dict.sorted))

end Dict

namespace Document

open DocumentNode

variable {ν : Type} [DocumentNode ν]

mutual

/-- The node gives a reader the answers that the value does. -/
def Mirrors : Json → ν → Prop
  | .null, node => json? node = some .null ∧ isNull node = true
  | .flag value, node => json? node = some (.flag value) ∧ flag? node = some value
  | .number number, node => json? node = some (.number number) ∧
    ∀ count : Nat, number = .whole count → natural? node = some count
  | .text value, node => json? node = some (.text value) ∧ text? node = some value ∧
    word? node = some value ∧ isNull node = false
  | .list items, node => json? node = some (Json.normal (.list items))
  | .object members, node => json? node = some (Json.normal (.object members)) ∧
    ∃ entries, entries? node = some entries ∧ MirrorsMembers members entries

def MirrorsMembers : List (String × Json) → List (ν × ν) → Prop
  | [], [] => True
  | (key, value) :: rest, (name, node) :: others =>
    text? name = some key ∧ Mirrors value node ∧ MirrorsMembers rest others
  | _, _ => False

end

theorem Mirrors.json {value : Json} {node : ν} (mirrors : Mirrors value node) :
    json? node = some value.normal := by
  cases value with
  | null => exact mirrors.1
  | flag value => exact mirrors.1
  | number number => exact mirrors.1
  | text value => exact mirrors.1
  | list items => exact mirrors
  | object members => exact mirrors.1

theorem Mirrors.text {value : String} {node : ν} (mirrors : Mirrors (.text value) node) :
    text? node = some value := mirrors.2.1

theorem Mirrors.flag {value : Bool} {node : ν} (mirrors : Mirrors (.flag value) node) :
    flag? node = some value := mirrors.2

theorem Mirrors.natural {value : Nat} {node : ν} (mirrors : Mirrors (.nat value) node) :
    natural? node = some value := mirrors.2 value rfl

def MirrorsField (member : String × Json) (found : String × ν) : Prop :=
  found.1 = member.1 ∧ Mirrors member.2 found.2

/-- A field is found just when the value has it. -/
theorem lookup_of_mirrors {members : List (String × Json)} {found : List (String × ν)}
    (each : List.Forall₂ MirrorsField members found) (key : String) :
    (valueAt? key members = none ∧ valueAt? key found = none) ∨
      ∃ value node, valueAt? key members = some value ∧ valueAt? key found = some node ∧
        Mirrors value node := by
  induction each with
  | nil => exact .inl ⟨rfl, rfl⟩
  | @cons member field rest others first later ih =>
    obtain ⟨k, value⟩ := member
    obtain ⟨l, node⟩ := field
    obtain ⟨same, mirrors⟩ := first
    cases same
    by_cases here : k = key
    · exact .inr ⟨value, node, by simp [valueAt?, here], by simp [valueAt?, here], mirrors⟩
    · simpa only [valueAt?, if_neg here] using ih

theorem namedFields_of_mirrors {names : List String} {members : List (String × Json)}
    {entries : List (ν × ν)} (mirrors : MirrorsMembers members entries)
    (once : (members.map Prod.fst).Nodup) (known : ∀ member ∈ members, member.1 ∈ names) :
    ∃ found, namedFields names entries = some found ∧
      List.Forall₂ MirrorsField members found := by
  induction members generalizing entries with
  | nil =>
    cases entries with
    | nil => exact ⟨[], rfl, .nil⟩
    | cons entry others => cases mirrors
  | cons member rest ih =>
    cases entries with
    | nil => cases mirrors
    | cons entry others =>
      obtain ⟨key, value⟩ := member
      obtain ⟨name, node⟩ := entry
      obtain ⟨text, first, later⟩ := mirrors
      obtain ⟨fresh, once⟩ := List.nodup_cons.mp once
      obtain ⟨here, known⟩ := List.forall_mem_cons.mp known
      obtain ⟨found, read, each⟩ := ih later once known
      have new : valueAt? key found = none := by
        rcases lookup_of_mirrors each key with ⟨-, none⟩ | ⟨value, node, given, -, -⟩
        · exact none
        · exact absurd (List.mem_map_of_mem (mem_of_valueAt? given)) fresh
      refine ⟨(key, node) :: found, ?_, .cons ⟨rfl, first⟩ each⟩
      simp [namedFields, text, read, here, new]

structure Fields.Mirror (members : List (String × Json)) (fields : Fields ν) : Prop where
  named : fields.positional = false
  each : List.Forall₂ MirrorsField members fields.found

theorem fields_of_mirrors (names : List String) {members : List (String × Json)} {node : ν}
    (mirrors : Mirrors (.object members) node) (once : (members.map Prod.fst).Nodup)
    (known : ∀ member ∈ members, member.1 ∈ names) :
    ∃ found, fields names node = some found ∧ found.Mirror members := by
  obtain ⟨-, entries, held, each⟩ := mirrors
  obtain ⟨found, read, mirror⟩ := namedFields_of_mirrors each once known
  exact ⟨⟨false, found⟩, by simp [fields, held, read], rfl, mirror⟩

namespace Fields.Mirror

variable {members : List (String × Json)} {fields : Fields ν} (mirror : Mirror members fields)
  {key : String} {α : Type} {read : ν → Option α} {result : α}

include mirror

theorem get?_some {value : Json} (given : valueAt? key members = some value) :
    ∃ node, fields.get? key = some node ∧ Mirrors value node := by
  rcases lookup_of_mirrors mirror.each key with ⟨none, -⟩ | ⟨other, node, here, found, mirrors⟩
  · rw [given] at none
    cases none
  · rw [given] at here
    cases here
    exact ⟨node, found, mirrors⟩

theorem get?_none (missing : valueAt? key members = none) : fields.get? key = none := by
  rcases lookup_of_mirrors mirror.each key with ⟨-, none⟩ | ⟨other, node, here, -, -⟩
  · exact none
  · rw [missing] at here
    cases here

theorem required {value : Json} (given : valueAt? key members = some value)
    (reads : ∀ node : ν, Mirrors value node → read node = some result) :
    fields.required key read = some result := by
  obtain ⟨node, found, mirrors⟩ := mirror.get?_some given
  simp [Fields.required, found, reads node mirrors]

theorem given {value : Json} {default : α} (given : valueAt? key members = some value)
    (reads : ∀ node : ν, Mirrors value node → read node = some result) :
    fields.defaulted key default read = some result := by
  obtain ⟨node, found, mirrors⟩ := mirror.get?_some given
  simp [Fields.defaulted, found, reads node mirrors]

theorem defaulted (omitted : Bool) (value : Json) {default : α}
    (given : valueAt? key members = if omitted then none else some value)
    (left : omitted = true → result = default)
    (reads : ∀ node : ν, Mirrors value node → read node = some result) :
    fields.defaulted key default read = some result := by
  cases omitted with
  | true => simp [Fields.defaulted, mirror.get?_none given, left rfl]
  | false => exact mirror.given given reads

theorem given_text {text : String} (given : valueAt? key members = some (.text text))
    (reads : ∀ node : ν, Mirrors (.text text) node → read node = some result) :
    fields.optional key read = some (some result) ∧
      fields.nullable key read = some (some result) := by
  obtain ⟨node, found, mirrors⟩ := mirror.get?_some given
  have filled : isNull node = false := mirrors.2.2.2
  simp [Fields.optional, Fields.nullable, found, filled, reads node mirrors]

theorem optional_null (given : valueAt? key members = some .null) :
    fields.optional key read = some none := by
  obtain ⟨node, found, -, null⟩ := mirror.get?_some given
  simp [Fields.optional, found, null]

theorem nullable_missing (missing : valueAt? key members = none) :
    fields.nullable key read = some none := by
  simp [Fields.nullable, mirror.get?_none missing]

end Fields.Mirror

section

variable {α β : Type} {f : α → Json} {g : α → β} {read : ν → Option β}

theorem dictEntries_of_mirrors {source : List (String × α)} {entries : List (ν × ν)}
    (mirrors : MirrorsMembers (source.map fun entry => (entry.1, f entry.2)) entries)
    (reads : ∀ entry ∈ source, ∀ node : ν, Mirrors (f entry.2) node →
      read node = some (g entry.2)) :
    dictEntries read entries = some (source.map fun entry => (entry.1, g entry.2)) := by
  induction source generalizing entries with
  | nil =>
    cases entries with
    | nil => rfl
    | cons entry others => cases mirrors
  | cons entry rest ih =>
    cases entries with
    | nil => cases mirrors
    | cons cell others =>
      obtain ⟨text, first, later⟩ := mirrors
      obtain ⟨here, reads⟩ := List.forall_mem_cons.mp reads
      simp [dictEntries, text, here _ first, ih later reads]

theorem dict_of_mirrors {source : Dict α} {node : ν}
    (mirrors : Mirrors (.object (source.map f).entries) node)
    (reads : ∀ entry ∈ source.entries, ∀ node : ν, Mirrors (f entry.2) node →
      read node = some (g entry.2)) :
    dict read node = some (source.map g) := by
  obtain ⟨-, entries, held, each⟩ := mirrors
  have whole := dictEntries_of_mirrors each reads
  simp only [dict, held, whole, Option.bind_eq_bind, Option.bind_some]
  exact congrArg some (Dict.ofList_entries (source.map g))

end

mutual

/-- A value of free form is a document of itself. -/
theorem mirrors_self : (value : Json) → Mirrors value value
  | .null => ⟨rfl, rfl⟩
  | .flag _ => ⟨rfl, rfl⟩
  | .number number => ⟨rfl, by
      rintro count rfl
      simp [natural?, Json.natural?]⟩
  | .text _ => ⟨rfl, rfl, rfl, rfl⟩
  | .list _ => rfl
  | .object members => ⟨rfl, _, rfl, mirrorsMembers_self members⟩

theorem mirrorsMembers_self : (members : List (String × Json)) →
    MirrorsMembers members (members.map fun member => (Json.text member.1, member.2))
  | [] => trivial
  | (_, value) :: rest => ⟨rfl, mirrors_self value, mirrorsMembers_self rest⟩

end

end Document

end Raid

/-!
Dictionaries keyed by text. The entries are kept in the order of their keys, so that two
dictionaries with the same entries are equal and every listing of one is sorted.
-/

namespace Raid

/-- Puts an entry in its place, replacing an entry of the same key. -/
def insertEntry {α : Type} (key : String) (value : α) :
    List (String × α) → List (String × α)
  | [] => [(key, value)]
  | (k, v) :: rest =>
    if key < k then (key, value) :: (k, v) :: rest
    else if k < key then (k, v) :: insertEntry key value rest
    else (key, value) :: rest

def valueAt? {α : Type} (key : String) : List (String × α) → Option α
  | [] => none
  | (k, v) :: rest => if k = key then some v else valueAt? key rest

theorem mem_insertEntry_key {α : Type} {key : String} {value : α}
    {entries : List (String × α)} {entry : String × α}
    (member : entry ∈ insertEntry key value entries) : entry = (key, value) ∨ entry ∈ entries := by
  induction entries with
  | nil => simpa [insertEntry] using member
  | cons head rest ih =>
    obtain ⟨k, v⟩ := head
    simp only [insertEntry] at member
    split at member
    · simpa using member
    · split at member
      · rcases List.mem_cons.mp member with here | there
        · exact Or.inr (by simp [here])
        · rcases ih there with new | old
          · exact Or.inl new
          · exact Or.inr (List.mem_cons_of_mem _ old)
      · rcases List.mem_cons.mp member with here | there
        · exact Or.inl here
        · exact Or.inr (List.mem_cons_of_mem _ there)

theorem insertEntry_sorted {α : Type} (key : String) (value : α)
    {entries : List (String × α)} (sorted : entries.Pairwise fun a b => a.1 < b.1) :
    (insertEntry key value entries).Pairwise fun a b => a.1 < b.1 := by
  induction entries with
  | nil => simp [insertEntry]
  | cons head rest ih =>
    obtain ⟨k, v⟩ := head
    rw [List.pairwise_cons] at sorted
    simp only [insertEntry]
    split
    · rename_i before
      refine List.pairwise_cons.mpr ⟨?_, List.pairwise_cons.mpr sorted⟩
      intro entry member
      rcases List.mem_cons.mp member with here | there
      · simpa [here] using before
      · exact String.lt_trans before (sorted.1 entry there)
    · split
      · rename_i after
        refine List.pairwise_cons.mpr ⟨?_, ih sorted.2⟩
        intro entry member
        rcases mem_insertEntry_key member with new | old
        · simpa [new] using after
        · exact sorted.1 entry old
      · rename_i notBefore notAfter
        have same : key = k :=
          String.le_antisymm (String.not_lt.mp notAfter) (String.not_lt.mp notBefore)
        refine List.pairwise_cons.mpr ⟨?_, sorted.2⟩
        intro entry member
        simpa [same] using sorted.1 entry member

theorem valueAt?_insertEntry {α : Type} (key other : String) (value : α)
    (entries : List (String × α)) :
    valueAt? other (insertEntry key value entries) =
      if other = key then some value else valueAt? other entries := by
  induction entries with
  | nil => simp only [insertEntry, valueAt?, eq_comm]
  | cons head rest ih =>
    obtain ⟨k, v⟩ := head
    simp only [insertEntry]
    split
    · simp only [valueAt?, eq_comm]
    · split
      · rename_i after
        have different : k ≠ key := fun same => String.lt_irrefl k (by simp [← same] at after)
        simp only [valueAt?, ih]
        grind
      · rename_i notBefore notAfter
        have same : key = k :=
          String.le_antisymm (String.not_lt.mp notAfter) (String.not_lt.mp notBefore)
        simp only [valueAt?, same]
        grind

theorem mem_of_valueAt? {α : Type} {key : String} {value : α} {entries : List (String × α)}
    (found : valueAt? key entries = some value) : (key, value) ∈ entries := by
  induction entries with
  | nil => cases found
  | cons head rest ih =>
    obtain ⟨k, v⟩ := head
    simp only [valueAt?] at found
    split at found
    · rename_i same
      cases found
      simp [same]
    · exact List.mem_cons_of_mem _ (ih found)

theorem valueAt?_of_mem {α : Type} {key : String} {value : α} {entries : List (String × α)}
    (sorted : entries.Pairwise fun a b => a.1 < b.1) (member : (key, value) ∈ entries) :
    valueAt? key entries = some value := by
  induction entries with
  | nil => cases member
  | cons head rest ih =>
    obtain ⟨k, v⟩ := head
    rw [List.pairwise_cons] at sorted
    rcases List.mem_cons.mp member with here | there
    · cases here
      simp [valueAt?]
    · have different : k ≠ key := fun same => by
        have rising := sorted.1 (key, value) there
        exact String.lt_irrefl key (same ▸ rising)
      rw [valueAt?, if_neg different]
      exact ih sorted.2 there

/-- An entry that is there already is put in its own place. -/
theorem insertEntry_of_mem {α : Type} {key : String} {value : α} {entries : List (String × α)}
    (sorted : entries.Pairwise fun a b => a.1 < b.1) (member : (key, value) ∈ entries) :
    insertEntry key value entries = entries := by
  induction entries with
  | nil => cases member
  | cons head rest ih =>
    obtain ⟨k, v⟩ := head
    rw [List.pairwise_cons] at sorted
    rcases List.mem_cons.mp member with here | there
    · cases here
      simp [insertEntry]
    · have after : k < key := sorted.1 (key, value) there
      rw [insertEntry, if_neg (String.lt_asymm after), if_pos after, ih sorted.2 there]

/-- A dictionary: entries with strictly rising keys. -/
structure Dict (α : Type) where
  entries : List (String × α)
  sorted : entries.Pairwise fun a b => a.1 < b.1
  deriving Repr, DecidableEq

namespace Dict

variable {α β : Type}

def empty : Dict α := ⟨[], List.Pairwise.nil⟩

instance : EmptyCollection (Dict α) := ⟨empty⟩

instance : Inhabited (Dict α) := ⟨empty⟩

def insert (dict : Dict α) (key : String) (value : α) : Dict α :=
  ⟨insertEntry key value dict.entries, insertEntry_sorted key value dict.sorted⟩

def get? (dict : Dict α) (key : String) : Option α := valueAt? key dict.entries

def contains (dict : Dict α) (key : String) : Bool := (dict.get? key).isSome

def isEmpty (dict : Dict α) : Bool := dict.entries.isEmpty

def keys (dict : Dict α) : List String := dict.entries.map Prod.fst

def values (dict : Dict α) : List α := dict.entries.map Prod.snd

def erase (dict : Dict α) (key : String) : Dict α :=
  ⟨dict.entries.filter (fun entry => entry.1 != key), dict.sorted.filter _⟩

/-- Of two pairs with one key the later counts. -/
def ofList (pairs : List (String × α)) : Dict α :=
  pairs.foldl (fun dict pair => dict.insert pair.1 pair.2) empty

def map (f : α → β) (dict : Dict α) : Dict β :=
  ⟨dict.entries.map fun entry => (entry.1, f entry.2), by
    rw [List.pairwise_map]
    exact dict.sorted⟩

@[simp] theorem get?_empty (key : String) : (empty : Dict α).get? key = none := rfl

theorem eq_of_entries {first second : Dict α} (same : first.entries = second.entries) :
    first = second := by
  cases first
  cases same
  rfl

theorem get?_insert (dict : Dict α) (key other : String) (value : α) :
    (dict.insert key value).get? other =
      if other = key then some value else dict.get? other :=
  valueAt?_insertEntry key other value dict.entries

@[simp] theorem get?_insert_self (dict : Dict α) (key : String) (value : α) :
    (dict.insert key value).get? key = some value := by
  simp [get?_insert]

theorem mem_entries {dict : Dict α} {key : String} {value : α} :
    (key, value) ∈ dict.entries ↔ dict.get? key = some value :=
  ⟨valueAt?_of_mem dict.sorted, mem_of_valueAt?⟩

theorem mem_of_get?_ofList {pairs : List (String × α)} {key : String} {value : α}
    (known : (ofList pairs).get? key = some value) : (key, value) ∈ pairs := by
  have inserted (pairs : List (String × α)) : ∀ dict : Dict α,
      (pairs.foldl (fun dict pair => dict.insert pair.1 pair.2) dict).get? key = some value →
      (key, value) ∈ pairs ∨ dict.get? key = some value := by
    induction pairs with
    | nil => exact fun _ known => .inr known
    | cons pair rest ih =>
      intro dict known
      obtain among | before := ih _ known
      · exact .inl (List.mem_cons_of_mem _ among)
      · rw [get?_insert] at before
        split at before
        · cases before
          subst key
          exact .inl List.mem_cons_self
        · exact .inr before
  obtain among | before := inserted pairs empty known
  · exact among
  · cases before

theorem insert_of_get? {dict : Dict α} {key : String} {value : α}
    (here : dict.get? key = some value) : dict.insert key value = dict := by
  simp only [insert, insertEntry_of_mem dict.sorted (mem_entries.mpr here)]

theorem mem_values {dict : Dict α} {value : α} :
    value ∈ dict.values ↔ ∃ key, dict.get? key = some value := by
  simp only [values, List.mem_map, Prod.exists, exists_eq_right, mem_entries]

theorem mem_keys {dict : Dict α} {key : String} :
    key ∈ dict.keys ↔ ∃ value, dict.get? key = some value := by
  simp only [keys, List.mem_map, Prod.exists, exists_and_right, exists_eq_right, mem_entries]

@[simp] theorem keys_map (f : α → β) (dict : Dict α) : (dict.map f).keys = dict.keys := by
  simp [keys, map]

theorem values_map (f : α → β) (dict : Dict α) : (dict.map f).values = dict.values.map f := by
  simp [values, map]

theorem get?_map (f : α → β) (dict : Dict α) (key : String) :
    (dict.map f).get? key = (dict.get? key).map f := by
  obtain ⟨entries, sorted⟩ := dict
  simp only [get?, map]
  clear sorted
  induction entries with
  | nil => rfl
  | cons head rest ih =>
    simp only [List.map_cons, valueAt?]
    split
    · rfl
    · exact ih

theorem map_insert (f : α → β) (dict : Dict α) (key : String) (value : α) :
    (dict.insert key value).map f = (dict.map f).insert key (f value) := by
  obtain ⟨entries, sorted⟩ := dict
  simp only [insert, map, mk.injEq]
  clear sorted
  induction entries with
  | nil => rfl
  | cons head rest ih =>
    obtain ⟨k, v⟩ := head
    simp only [List.map_cons, insertEntry]
    split
    · rfl
    · split
      · rw [List.map_cons, ih]
      · rfl

theorem map_erase (f : α → β) (dict : Dict α) (key : String) :
    (dict.erase key).map f = (dict.map f).erase key := by
  simp only [erase, map, mk.injEq, List.filter_map]
  rfl

theorem map_eq_self {f : α → α} {dict : Dict α} :
    dict.map f = dict ↔ ∀ value ∈ dict.values, f value = value := by
  constructor
  · intro same value member
    obtain ⟨entry, inside, rfl⟩ := List.mem_map.mp member
    have entries : dict.entries.map (fun entry => (entry.1, f entry.2)) = dict.entries.map id := by
      rw [List.map_id]
      exact congrArg Dict.entries same
    exact congrArg Prod.snd (List.map_inj_left.mp entries entry inside)
  · intro each
    have own := List.map_congr_left (g := id) fun entry (inside : entry ∈ dict.entries) =>
      show (entry.1, f entry.2) = entry from
        Prod.ext rfl (each _ (List.mem_map_of_mem inside))
    exact eq_of_entries (own.trans (List.map_id _))

theorem map_map {γ : Type} (f : α → β) (g : β → γ) (dict : Dict α) :
    (dict.map f).map g = dict.map fun value => g (f value) := by
  simp [map]

end Dict

end Raid

import Raid.Proofs.Toml.Reading

/-!
What printed lines add to a table under construction. Each line takes the reader from one place to
another, and the tables that a path leads through stay as they are around the one at its end.
-/

namespace Raid.Toml

/-- Where the reader stands: the path of the table that values are added to, and all that it has
built. -/
abbrev Place := List String × Body

/-- Reading the text takes the reader from one place to another, whatever follows. -/
def Builds (text : String) (before after : Place) : Prop :=
  ∃ steps, steps ≤ text.length ∧ ∀ fuel rest,
    lines (fuel + steps) before.1 before.2 (text.toList ++ rest) = lines fuel after.1 after.2 rest

namespace Builds

variable {text first second : String} {before between after place : Place}

theorem nothing (place : Place) : Builds "" place place :=
  ⟨0, Nat.zero_le _, fun _ _ => rfl⟩

theorem append (begun : Builds first before between) (ended : Builds second between after) :
    Builds (first ++ second) before after := by
  obtain ⟨steps, few, begun⟩ := begun
  obtain ⟨more, fewer, ended⟩ := ended
  refine ⟨more + steps, by rw [String.length_append]; omega, fun fuel rest => ?_⟩
  rw [String.toList_append, List.append_assoc, ← Nat.add_assoc, begun, ended]

theorem lineBreak (place : Place) : Builds "\n" place place := by
  refine ⟨0, Nat.zero_le _, fun fuel rest => ?_⟩
  have skipped : skipLines false ("\n".toList ++ rest) = skipLines false rest := by
    simp [skipLines]
  rw [Nat.add_zero, ← lines_skipped, skipped, lines_skipped]

theorem header (path : List String) {current : List String} {body built : Body} {key : String}
    (last : path.getLast? = some key)
    (opened : extend false (openTable key) path.dropLast body = some built) :
    Builds (headerLine path) (current, body) (path, built) := by
  cases path with
  | nil => cases last
  | cons name more =>
    have same : (name :: more).getLastD "" = key := by
      rw [List.getLastD_eq_getLast?, last, Option.getD_some]
    refine ⟨1, ?_, fun fuel rest => ?_⟩
    · have bracket : "[".length = 1 := rfl
      simp only [headerLine, String.length_append, bracket]
      omega
    · rw [lines_header, same, opened]
      rfl

theorem value {current : List String} {body built : Body} {key : String} {plain : Plain}
    (added : extend false (addValue false key plain.item) current body = some built) :
    Builds (valueLine key plain.written) (current, body) (current, built) := by
  refine ⟨1, ?_, fun fuel rest => ?_⟩
  · have ended : "\n".length = 1 := rfl
    simp only [valueLine, String.length_append, ended]
    omega
  · rw [lines_value, added]
    rfl

theorem parse (builds : Builds text ([], .header, []) after)
    (unmarked : text.toList.head? ≠ some '\ufeff') :
    Toml.parse text = some (.table after.2.1 after.2.2) := by
  obtain ⟨steps, few, builds⟩ := builds
  obtain ⟨fuel, enough⟩ : ∃ fuel, text.length + 1 = fuel + 1 + steps :=
    ⟨text.length - steps, by omega⟩
  have ended : lines (fuel + 1) after.1 after.2 [] = some after.2 := by simp [lines, skipLines]
  have read := builds (fuel + 1) []
  rw [List.append_nil, ← enough, ended] at read
  simp only [Toml.parse, if_neg unmarked, String.length_toList, read, Option.bind_eq_bind,
    Option.bind_some]

end Builds

/-! Tables within tables. -/

/-- The path leads to a table that `whole` puts in its place: what is done at the path is done to the
table, and all around it stays. -/
def Leads (path : List String) (whole : Body → Body) : Prop :=
  ∀ change inner, inner.1 ≠ .braces →
    extend false change path (whole inner) = (change inner).map whole

def lastly (origin : TableOrigin) (others : List (String × Toml)) (key : String) (inner : Body) :
    Body := (origin, others ++ [(key, .table inner.1 inner.2)])

theorem valueAt?_eq_none {α : Type} {key : String} {entries : List (String × α)} :
    valueAt? key entries = none ↔ key ∉ entries.map Prod.fst := by
  induction entries with
  | nil => simp [valueAt?]
  | cons head rest ih =>
    simp only [valueAt?, List.map_cons, List.mem_cons, not_or]
    split
    · rename_i same
      simp [same]
    · rename_i other
      simp [ih, Ne.symm other]

theorem valueAt?_last {α : Type} {key : String} {others : List (String × α)}
    (fresh : key ∉ others.map Prod.fst) (value : α) :
    valueAt? key (others ++ [(key, value)]) = some value := by
  induction others with
  | nil => simp [valueAt?]
  | cons head rest ih =>
    rw [List.map_cons, List.mem_cons, not_or] at fresh
    rw [List.cons_append, valueAt?, if_neg (Ne.symm fresh.1)]
    exact ih fresh.2

theorem replaceEntry_last {key : String} {others : List (String × Toml)}
    (fresh : key ∉ others.map Prod.fst) (old value : Toml) :
    replaceEntry key value (others ++ [(key, old)]) = others ++ [(key, value)] := by
  induction others with
  | nil => simp [replaceEntry]
  | cons head rest ih =>
    rw [List.map_cons, List.mem_cons, not_or] at fresh
    rw [List.cons_append, replaceEntry, if_neg (Ne.symm fresh.1), ih fresh.2]
    rfl

theorem leads_nil : Leads [] id := by
  intro change inner _
  rw [id, extend, Option.map_id]
  rfl

theorem leads_cons {path : List String} {whole : Body → Body} (leads : Leads path whole)
    (stays : ∀ inner, inner.1 ≠ .braces → (whole inner).1 ≠ .braces) (origin : TableOrigin)
    {others : List (String × Toml)} {key : String} (fresh : key ∉ others.map Prod.fst) :
    Leads (key :: path) fun inner => lastly origin others key (whole inner) := by
  intro change inner unclosed
  have inside : ¬((whole inner).1 = .braces ∨ ((false : Bool) ∧ (whole inner).1 = .header)) := by
    simpa using stays inner unclosed
  simp only [lastly, extend, valueAt?_last fresh, if_neg inside, leads change inner unclosed,
    replaceEntry_last fresh, Option.bind_eq_bind]
  cases change inner <;> rfl

/-- A new table at the end of the one that a path leads to. -/
theorem extend_openTable {path : List String} {whole : Body → Body} (leads : Leads path whole)
    {origin : TableOrigin} (unclosed : origin ≠ .braces) {found : List (String × Toml)}
    {key : String} (fresh : key ∉ found.map Prod.fst) :
    extend false (openTable key) path (whole (origin, found)) =
      some (whole (lastly origin found key (.header, []))) := by
  rw [leads _ _ unclosed]
  simp [openTable, valueAt?_eq_none.mpr fresh, lastly]

def valueLines (entries : List (String × Plain)) : String :=
  String.join (entries.map fun entry => valueLine entry.1 entry.2.written)

def plainItems (entries : List (String × Plain)) : List (String × Toml) :=
  entries.map fun entry => (entry.1, entry.2.item)

@[simp] theorem plainItems_keys (entries : List (String × Plain)) :
    (plainItems entries).map Prod.fst = entries.map Prod.fst := by
  rw [plainItems, List.map_map]
  rfl

theorem builds_valueLines {path : List String} {whole : Body → Body} (leads : Leads path whole)
    (entries : List (String × Plain)) (found : List (String × Toml))
    (once : (found.map Prod.fst ++ entries.map Prod.fst).Nodup) :
    Builds (valueLines entries) (path, whole (.header, found))
      (path, whole (.header, found ++ plainItems entries)) := by
  induction entries generalizing found with
  | nil => simpa [valueLines, plainItems] using Builds.nothing _
  | cons entry rest ih =>
    have fresh : entry.1 ∉ found.map Prod.fst := by
      intro member
      exact (List.nodup_append.mp once).2.2 _ member _ (by simp) rfl
    have added : extend false (addValue false entry.1 entry.2.item) path (whole (.header, found)) =
        some (whole (.header, found ++ [(entry.1, entry.2.item)])) := by
      rw [leads _ _ (by simp)]
      simp [addValue, valueAt?_eq_none.mpr fresh]
    have later := ih (found ++ [(entry.1, entry.2.item)]) (by simpa using once)
    rw [List.append_assoc] at later
    simpa [valueLines, plainItems] using (Builds.value added).append later

end Raid.Toml

/-!
Tables of shared objects. An object that several holders refer to lives in a table, and each
holder keeps a reference to it, so that a change made through one reference is seen through all.
-/

namespace Raid

/-- A reference to an object of a table. Two references are the same object when equal. -/
structure Ref (α : Type) where
  index : Nat
  deriving Repr

theorem Ref.eq_iff {α : Type} {a b : Ref α} : a = b ↔ a.index = b.index :=
  ⟨fun h => h ▸ rfl, fun h => by cases a; cases b; simp_all⟩

instance {α : Type} : DecidableEq (Ref α) := fun a b =>
  decidable_of_iff (a.index = b.index) Ref.eq_iff.symm

instance {α : Type} : Inhabited (Ref α) := ⟨⟨0⟩⟩

/-- Objects by the number of their reference. A reference that was never assigned reads as the
default object, so that reading and writing are total and need no bounds. -/
structure Table (α : Type) where
  size : Nat := 0
  cells : List (Nat × α) := []
  deriving Repr

namespace Table

variable {α : Type}

instance : Inhabited (Table α) := ⟨{}⟩

def readCell [Inhabited α] (index : Nat) : List (Nat × α) → α
  | [] => default
  | (i, value) :: rest => if i = index then value else readCell index rest

def writeCell (index : Nat) (value : α) : List (Nat × α) → List (Nat × α)
  | [] => [(index, value)]
  | (i, old) :: rest =>
    if i = index then (i, value) :: rest else (i, old) :: writeCell index value rest

def get [Inhabited α] (table : Table α) (ref : Ref α) : α := readCell ref.index table.cells

def set (table : Table α) (ref : Ref α) (value : α) : Table α :=
  { table with cells := writeCell ref.index value table.cells }

def add (table : Table α) (value : α) : Ref α × Table α :=
  (⟨table.size⟩, { size := table.size + 1, cells := writeCell table.size value table.cells })

theorem readCell_writeCell [Inhabited α] (index other : Nat) (value : α)
    (cells : List (Nat × α)) :
    readCell other (writeCell index value cells) =
      if other = index then value else readCell other cells := by
  induction cells with
  | nil => simp [writeCell, readCell, eq_comm]
  | cons head rest ih =>
    obtain ⟨i, old⟩ := head
    simp only [writeCell]
    split <;> simp only [readCell, ih] <;> grind

theorem get_set [Inhabited α] (table : Table α) (ref other : Ref α) (value : α) :
    (table.set ref value).get other = if other = ref then value else table.get other := by
  simp only [get, set, readCell_writeCell, Ref.eq_iff]

@[simp] theorem get_set_self [Inhabited α] (table : Table α) (ref : Ref α) (value : α) :
    (table.set ref value).get ref = value := by
  simp [get_set]

theorem get_set_of_ne [Inhabited α] (table : Table α) {ref other : Ref α} (value : α)
    (different : other ≠ ref) : (table.set ref value).get other = table.get other := by
  simp [get_set, different]

@[simp] theorem get_add_self [Inhabited α] (table : Table α) (value : α) :
    (table.add value).2.get (table.add value).1 = value := by
  simp [add, get, readCell_writeCell]

theorem get_add_of_ne [Inhabited α] (table : Table α) {ref : Ref α} (value : α)
    (different : ref.index ≠ table.size) : (table.add value).2.get ref = table.get ref := by
  simp [add, get, readCell_writeCell, different]

end Table

end Raid

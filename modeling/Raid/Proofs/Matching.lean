import Raid.Proofs.Footprint

/-!
Two pieces of work side by side. They match when from related states they come to the same outcome
and leave related states; work that matches itself respects the relation. What comes after them needs
to match for the values alone that the first of them yields.
-/

namespace Raid.Act

variable {σ α β : Type} {R : σ → σ → Prop}

/-- From related states the two come to the same outcome and leave related states. -/
def Matches (R : σ → σ → Prop) (work other : Act σ α) : Prop :=
  ∀ first second, R first second →
    (work first).1 = (other second).1 ∧ R (work first).2 (other second).2

def Respects (R : σ → σ → Prop) (work : Act σ α) : Prop :=
  ∀ first second, R first second →
    (work first).1 = (work second).1 ∧ R (work first).2 (work second).2

def Yields (property : α → Prop) (work : Act σ α) : Prop :=
  ∀ before value after, work before = (.done value, after) → property value

theorem yields_any (work : Act σ α) : Yields (fun _ => True) work := fun _ _ _ _ => trivial

theorem yields_pure {property : α → Prop} {value : α} (holds : property value) :
    Yields property (pure value : Act σ α) := by
  intro before other after run
  cases run
  exact holds

theorem yields_bind_of {property : α → Prop} {property' : β → Prop} {work : Act σ α}
    {next : α → Act σ β} (begun : Yields property work)
    (rest : ∀ value, property value → Yields property' (next value)) :
    Yields property' (work >>= next) := by
  intro before value after run
  obtain ⟨first, middle, run, later⟩ := bind_eq_done run
  exact rest first (begun before first middle run) middle value after later

theorem yields_bind {property : β → Prop} {work : Act σ α} {next : α → Act σ β}
    (rest : ∀ value, Yields property (next value)) : Yields property (work >>= next) :=
  yields_bind_of (yields_any work) fun value _ => rest value

theorem yields_ite {property : α → Prop} {condition : Prop} [Decidable condition]
    {yes no : Act σ α} (first : Yields property yes) (second : Yields property no) :
    Yields property (if condition then yes else no) := by
  split
  · exact first
  · exact second

/-- What comes after the works needs to match for the values that the first yields from related
states. -/
theorem matches_bind_from {property : α → Prop} {work other : Act σ α} {next next' : α → Act σ β}
    (begun : Matches R work other)
    (yields : ∀ first second, R first second → ∀ value after, work first = (.done value, after) →
      property value)
    (rest : ∀ value, property value → Matches R (next value) (next' value)) :
    Matches R (work >>= next) (other >>= next') := by
  intro first second related
  have own := yields first second related
  obtain ⟨same, related⟩ := begun first second related
  rw [bind_apply, bind_apply]
  cases run : work first with
  | mk outcome after =>
    cases run' : other second with
    | mk outcome' after' =>
      rw [run, run'] at same related
      cases same
      cases outcome with
      | done value => exact rest value (own value after run) after after' related
      | panicked payload => exact ⟨rfl, related⟩
      | ended ending => exact ⟨rfl, related⟩

theorem matches_bind_of {property : α → Prop} {work other : Act σ α} {next next' : α → Act σ β}
    (begun : Matches R work other) (yields : Yields property work)
    (rest : ∀ value, property value → Matches R (next value) (next' value)) :
    Matches R (work >>= next) (other >>= next') :=
  matches_bind_from begun (fun first _ _ => yields first) rest

theorem matches_bind {work other : Act σ α} {next next' : α → Act σ β}
    (begun : Matches R work other) (rest : ∀ value, Matches R (next value) (next' value)) :
    Matches R (work >>= next) (other >>= next') :=
  matches_bind_of begun (yields_any work) fun value _ => rest value

theorem matches_caught {work other : Act σ α} (inner : Matches R work other) :
    Matches R (caught work) (caught other) := by
  intro first second related
  obtain ⟨same, related⟩ := inner first second related
  unfold caught
  cases run : work first with
  | mk outcome after =>
    cases run' : other second with
    | mk outcome' after' =>
      rw [run, run'] at same related
      cases same
      cases outcome <;> exact ⟨rfl, related⟩

theorem matches_ite {condition : Prop} [Decidable condition] {yes no yes' no' : Act σ α}
    (first : Matches R yes yes') (second : Matches R no no') :
    Matches R (if condition then yes else no) (if condition then yes' else no') := by
  split
  · exact first
  · exact second

theorem respects_pure (value : α) : Respects R (pure value : Act σ α) :=
  fun _ _ related => ⟨rfl, related⟩

theorem respects_panic (payload : Payload) : Respects R (panic payload : Act σ α) :=
  fun _ _ related => ⟨rfl, related⟩

theorem respects_halt (ending : Ending) : Respects R (halt ending : Act σ α) :=
  fun _ _ related => ⟨rfl, related⟩

theorem respects_look {f : σ → Outcome α}
    (same : ∀ first second, R first second → f first = f second) :
    Respects R fun state => (f state, state) :=
  fun first second related => ⟨same first second related, related⟩

theorem respects_bind {work : Act σ α} {next : α → Act σ β} (begun : Respects R work)
    (rest : ∀ value, Respects R (next value)) : Respects R (work >>= next) :=
  matches_bind begun rest

/-- Work that reads the state and goes on with what is the same in related states. -/
theorem respects_read {next : σ → Act σ α}
    (same : ∀ first second, R first second → next first = next second)
    (rest : ∀ state, Respects R (next state)) : Respects R (read >>= next) := by
  intro first second related
  simp only [bind_apply, read_apply, same first second related]
  exact rest second first second related

theorem respects_caught {work : Act σ α} (inner : Respects R work) : Respects R (caught work) :=
  matches_caught inner

theorem respects_ite {condition : Prop} [Decidable condition] {yes no : Act σ α}
    (first : Respects R yes) (second : Respects R no) :
    Respects R (if condition then yes else no) :=
  matches_ite first second

end Raid.Act

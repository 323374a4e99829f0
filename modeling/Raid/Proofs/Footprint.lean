import Raid.Outcome

/-!
What work does to the state it works on. A footprint says which changes of the state are allowed;
work stays within it when its state afterwards is allowed whatever the outcome, so that a panic and
the end of the process are covered too. Some work never ends the process. And work taken apart: how
it came to its outcome is how its first part came to one, and how the rest went on from there.
-/

namespace Raid

namespace Outcome

variable {α : Type}

def isDone : Outcome α → Bool
  | done _ => true
  | panicked _ => false
  | ended _ => false

theorem isDone_iff {outcome : Outcome α} :
    outcome.isDone = true ↔ ∃ value, outcome = .done value := by
  cases outcome <;> simp [isDone]

theorem exists_of_isDone {σ : Type} {ran : Outcome α × σ} (done : ran.1.isDone = true) :
    ∃ value after, ran = (.done value, after) := by
  obtain ⟨outcome, after⟩ := ran
  obtain ⟨value, rfl⟩ := isDone_iff.mp done
  exact ⟨value, after, rfl⟩

def payload? : Outcome α → Option Payload
  | done _ => none
  | panicked payload => some payload
  | ended _ => none

theorem payload?_eq_some {outcome : Outcome α} {payload : Payload} :
    outcome.payload? = some payload ↔ outcome = .panicked payload := by
  cases outcome <;> simp [payload?]

def map {β : Type} (f : α → β) : Outcome α → Outcome β
  | done value => done (f value)
  | panicked payload => panicked payload
  | ended ending => ended ending

theorem exists_of_map_eq_ok {ε β σ : Type} {f : α → β} {ran : Outcome (Except ε α) × σ}
    {value : β} (same : ran.1.map (Except.map f) = done (.ok value)) :
    ∃ first after, ran = (.done (.ok first), after) ∧ f first = value := by
  obtain ⟨⟨error | first⟩ | payload | ending, after⟩ := ran <;> simp_all [map, Except.map]

end Outcome

/-- Which states may follow a state. Nothing done is allowed, and so is one thing after another. -/
structure Footprint (σ : Type) where
  allows : σ → σ → Prop
  refl : ∀ state, allows state state
  trans : ∀ {first second third}, allows first second → allows second third → allows first third

namespace Footprint

def keeping {σ : Type} (property : σ → Prop) : Footprint σ where
  allows before after := property before → property after
  refl _ := id
  trans first second := second ∘ first

end Footprint

namespace Act

variable {σ α β : Type} {F : Footprint σ}

def Within (F : Footprint σ) (work : Act σ α) : Prop := ∀ state, F.allows state (work state).2

theorem within_of_run {work : Act σ α}
    (each : ∀ {before outcome after}, work before = (outcome, after) → F.allows before after) :
    Within F work := fun _ => each rfl

theorem Within.of_run {work : Act σ α} (inner : Within F work) {before after : σ}
    {outcome : Outcome α} (run : work before = (outcome, after)) : F.allows before after := by
  have allowed := inner before
  rwa [run] at allowed

theorem within_pure (value : α) : Within F (pure value : Act σ α) := F.refl

theorem within_read : Within F (read : Act σ σ) := F.refl

theorem within_panic (payload : Payload) : Within F (panic payload : Act σ α) := F.refl

theorem within_halt (ending : Ending) : Within F (halt ending : Act σ α) := F.refl

theorem within_look (f : σ → Outcome α) : Within F fun state => (f state, state) := F.refl

theorem within_change {f : σ → σ} (allowed : ∀ state, F.allows state (f state)) :
    Within F (change f) := allowed

theorem within_bind {work : Act σ α} {next : α → Act σ β} (first : Within F work)
    (rest : ∀ value, Within F (next value)) : Within F (work >>= next) := by
  intro state
  rw [bind_apply]
  cases run : work state with
  | mk outcome after =>
    have begun := first.of_run run
    cases outcome with
    | done value => exact F.trans begun (rest value after)
    | panicked payload => exact begun
    | ended ending => exact begun

theorem within_caught {work : Act σ α} (inner : Within F work) : Within F (caught work) := by
  intro state
  unfold caught
  cases run : work state with
  | mk outcome after => cases outcome <;> exact inner.of_run run

theorem within_ite {condition : Prop} [Decidable condition] {yes no : Act σ α}
    (first : Within F yes) (second : Within F no) : Within F (if condition then yes else no) := by
  split
  · exact first
  · exact second

def Lasts (work : Act σ α) : Prop := ∀ state ending, (work state).1 ≠ .ended ending

theorem Lasts.not_ended {work : Act σ α} (lasts : Lasts work) {before after : σ}
    {ending : Ending} : work before ≠ (.ended ending, after) := fun run =>
  lasts before ending (congrArg Prod.fst run)

theorem lasts_of_done {work : Act σ α} (done : ∀ state, (work state).1.isDone = true) :
    Lasts work := by
  intro state ending ended
  have finished := done state
  rw [ended] at finished
  cases finished

theorem lasts_pure (value : α) : Lasts (pure value : Act σ α) := lasts_of_done fun _ => rfl

theorem lasts_bind {work : Act σ α} {next : α → Act σ β} (first : Lasts work)
    (rest : ∀ value, Lasts (next value)) : Lasts (work >>= next) := by
  intro state ending
  rw [bind_apply]
  cases run : work state with
  | mk outcome after =>
    cases outcome with
    | done value => exact rest value after ending
    | panicked payload => simp
    | ended other => exact absurd run first.not_ended

variable {work : Act σ α} {next : α → Act σ β} {before after : σ}

theorem bind_eq_done {value : β} (run : (work >>= next) before = (.done value, after)) :
    ∃ first middle, work before = (.done first, middle) ∧
      next first middle = (.done value, after) := by
  rw [bind_apply] at run
  cases begun : work before with
  | mk outcome middle =>
    rw [begun] at run
    cases outcome with
    | done first => exact ⟨first, middle, rfl, run⟩
    | panicked payload => cases run
    | ended ending => cases run

theorem bind_eq_panicked {payload : Payload}
    (run : (work >>= next) before = (.panicked payload, after)) :
    work before = (.panicked payload, after) ∨
      ∃ first middle, work before = (.done first, middle) ∧
        next first middle = (.panicked payload, after) := by
  rw [bind_apply] at run
  cases begun : work before with
  | mk outcome middle =>
    rw [begun] at run
    cases outcome with
    | done first => exact .inr ⟨first, middle, rfl, run⟩
    | panicked other =>
      cases run
      exact .inl rfl
    | ended ending => cases run

end Act

end Raid

import Raid.Proofs.Footprint

/-!
Two pieces of work side by side that come to the same but for a renaming of what they come to. What
is said of them holds up to a limit: it is known of a piece of work once the state that it leaves has
room, and a state that has room had it all along.
-/

namespace Raid

namespace Outcome

variable {α β γ : Type}

theorem map_id (outcome : Outcome α) : outcome.map id = outcome := by
  cases outcome <;> rfl

theorem map_map (f : α → β) (g : β → γ) (outcome : Outcome α) :
    (outcome.map f).map g = outcome.map (g ∘ f) := by
  cases outcome <;> rfl

end Outcome

namespace Act

variable {σ α β γ δ : Type} {R : σ → σ → Prop} {room : σ → Prop}

/-- The first work leaves room only where it found room. From related states, and where it leaves
room, the second comes to the same outcome, renamed, and leaves a related state. -/
structure Parallel (R : σ → σ → Prop) (room : σ → Prop) (f : α → β) (work : Act σ α)
    (other : Act σ β) : Prop where
  roomy : ∀ state, room (work state).2 → room state
  alike : ∀ first second, R first second → room (work first).2 →
    (other second).1 = (work first).1.map f ∧ R (work first).2 (other second).2

variable {f : α → β} {g : γ → δ} {work : Act σ α} {other : Act σ β} {next : α → Act σ γ}
  {next' : β → Act σ δ}

theorem parallel_pure {value : α} {value' : β} (same : value' = f value) :
    Parallel R room f (pure value : Act σ α) (pure value') where
  roomy _ := id
  alike _ _ related _ := ⟨congrArg Outcome.done same, related⟩

theorem parallel_panic (payload : Payload) :
    Parallel R room f (panic payload : Act σ α) (panic payload) where
  roomy _ := id
  alike _ _ related _ := ⟨rfl, related⟩

theorem parallel_halt (ending : Ending) :
    Parallel R room f (halt ending : Act σ α) (halt ending) where
  roomy _ := id
  alike _ _ related _ := ⟨rfl, related⟩

theorem parallel_look {see : σ → Outcome α} {see' : σ → Outcome β}
    (same : ∀ first second, R first second → see' second = (see first).map f) :
    Parallel R room f (fun state => (see state, state)) (fun state => (see' state, state)) where
  roomy _ := id
  alike first second related _ := ⟨same first second related, related⟩

/-- Where there is room after the second part of some work, there was room after the first. -/
theorem roomy_of_bind {state : σ} (rest : ∀ value state, room (next value state).2 → room state)
    (after : room ((work >>= next) state).2) : room (work state).2 := by
  rw [bind_apply] at after
  cases run : work state with
  | mk outcome middle =>
    rw [run] at after
    cases outcome with
    | done value => exact rest value middle after
    | panicked payload => exact after
    | ended ending => exact after

theorem parallel_bind (begun : Parallel R room f work other)
    (rest : ∀ value, Parallel R room g (next value) (next' (f value))) :
    Parallel R room g (work >>= next) (other >>= next') where
  roomy state after := begun.roomy state (roomy_of_bind (fun value => (rest value).roomy) after)
  alike first second related after := by
    have roomy := roomy_of_bind (fun value => (rest value).roomy) after
    have alike := begun.alike first second related roomy
    rw [bind_apply] at after ⊢
    rw [bind_apply]
    cases run : work first with
    | mk outcome middle =>
      cases run' : other second with
      | mk outcome' middle' =>
        rw [run, run'] at alike
        rw [run] at after
        obtain ⟨same, related⟩ := alike
        cases same
        cases outcome with
        | done value => exact (rest value).alike middle middle' related after
        | panicked payload => exact ⟨rfl, related⟩
        | ended ending => exact ⟨rfl, related⟩

theorem parallel_bind_same {other : Act σ α} {next' : α → Act σ δ}
    (begun : Parallel R room id work other)
    (rest : ∀ value, Parallel R room g (next value) (next' value)) :
    Parallel R room g (work >>= next) (other >>= next') :=
  parallel_bind begun rest

/-- Work that reads the state, and goes on in the second as an image of the first does. -/
theorem parallel_read {next : σ → Act σ γ} {next' : σ → Act σ δ} (image : σ → Act σ δ)
    (same : ∀ first second, R first second → next' second = image first)
    (rest : ∀ state, Parallel R room g (next state) (image state)) :
    Parallel R room g (read >>= next) (read >>= next') where
  roomy state := (rest state).roomy state
  alike first second related after := by
    have alike := (rest first).alike first second related after
    rw [← same first second related] at alike
    exact alike

theorem caught_state (state : σ) : (caught work state).2 = (work state).2 := by
  unfold caught
  rcases work state with ⟨value | payload | ending, after⟩ <;> rfl

theorem parallel_caught (inner : Parallel R room f work other) :
    Parallel R room (Except.map f) (caught work) (caught other) where
  roomy state after := inner.roomy state (caught_state state ▸ after)
  alike first second related after := by
    obtain ⟨same, related⟩ := inner.alike first second related (caught_state first ▸ after)
    unfold caught
    cases run : work first with
    | mk outcome left =>
      cases run' : other second with
      | mk outcome' left' =>
        rw [run, run'] at same related
        cases same
        cases outcome <;> exact ⟨rfl, related⟩

theorem parallel_ite {condition : Prop} [Decidable condition] {yes no : Act σ α}
    {yes' no' : Act σ β} (first : Parallel R room f yes yes') (second : Parallel R room f no no') :
    Parallel R room f (if condition then yes else no) (if condition then yes' else no') := by
  split
  · exact first
  · exact second

end Act

end Raid

/-!
How a piece of work ends, and work that reads and changes a state on the way. Work that panics
keeps the state as it was at that point: nothing is rolled back.
-/

namespace Raid

/-- What a panic carries: a text, or a value that cannot be shown. -/
inductive Payload where
  | text (message : String)
  | unreadable
  deriving Repr, DecidableEq

inductive Ending where
  | exit (code : Nat)
  | signal (number : Nat)
  deriving Repr, DecidableEq

/-- Work is done with a value, unwinds with a panic, or ends the process. -/
inductive Outcome (α : Type) where
  | done (value : α)
  | panicked (payload : Payload)
  | ended (ending : Ending)
  deriving Repr, DecidableEq

def Act (σ α : Type) := σ → Outcome α × σ

namespace Act

variable {σ α β : Type}

def bind (work : Act σ α) (next : α → Act σ β) : Act σ β := fun state =>
  match work state with
  | (.done value, after) => next value after
  | (.panicked payload, after) => (.panicked payload, after)
  | (.ended ending, after) => (.ended ending, after)

instance : Monad (Act σ) where
  pure value := fun state => (.done value, state)
  bind := bind

def read : Act σ σ := fun state => (.done state, state)

def change (f : σ → σ) : Act σ Unit := fun state => (.done (), f state)

def panic (payload : Payload) : Act σ α := fun state => (.panicked payload, state)

def halt (ending : Ending) : Act σ α := fun state => (.ended ending, state)

/-- Turns a panic into a value. The end of the process passes through. -/
def caught (work : Act σ α) : Act σ (Except Payload α) := fun state =>
  match work state with
  | (.done value, after) => (.done (.ok value), after)
  | (.panicked payload, after) => (.done (.error payload), after)
  | (.ended ending, after) => (.ended ending, after)

def forEach {ι : Type} (work : ι → Act σ α) : List ι → Act σ (List α)
  | [] => pure []
  | item :: rest => do
    let value ← work item
    let values ← forEach work rest
    pure (value :: values)

theorem pure_apply (value : α) (state : σ) :
    (pure value : Act σ α) state = (.done value, state) := rfl

theorem bind_apply (work : Act σ α) (next : α → Act σ β) (state : σ) :
    (work >>= next) state =
      match work state with
      | (.done value, after) => next value after
      | (.panicked payload, after) => (.panicked payload, after)
      | (.ended ending, after) => (.ended ending, after) := rfl

theorem read_apply (state : σ) : (read : Act σ σ) state = (.done state, state) := rfl

theorem change_apply (f : σ → σ) (state : σ) : change f state = (.done (), f state) := rfl

end Act

end Raid

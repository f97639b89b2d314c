import Formwork.Failure
import Formwork.Schema.Reading
/-!
# Activities

The monad of the program: an activity changes a state and gives a value or a failure.  The state at a failure is
kept, so what was done before it stays done.  The run of a sequence is determined by the runs of its parts
(`run_bind_ok`, `run_bind_error`).
-/
namespace Formwork

/-- An activity over states `σ` that gives an `α`. -/
def Act (σ α : Type) : Type := σ → Except Failure α × σ

namespace Act

variable {σ α β : Type}

/-- The result of an activity in a state, and the state after it. -/
def run (act : Act σ α) (state : σ) : Except Failure α × σ := act state

instance : Monad (Act σ) where
  pure value := fun state => (.ok value, state)
  bind act next := fun state =>
    match act state with
    | (.ok value, state) => next value state
    | (.error failure, state) => (.error failure, state)

/-- A failure that changes nothing. -/
def fail (failure : Failure) : Act σ α := fun state => (.error failure, state)

/-- A result that changes nothing. -/
def ofExcept (result : Except Failure α) : Act σ α := fun state => (result, state)

/-- A value or a problem. -/
def ofProblem (result : Except Problem α) : Act σ α := ofExcept (result.mapError (⟨·, []⟩))

/-- The value of a reading, or the `ValidationError` of its issues. -/
def ofReading (model : String) : Reading α → Act σ α
  | .done value => pure value
  | .failed issues => fail (Problem.misshapen model issues)

/-- An activity with its failure replaced. -/
def mapFailure (f : Failure → Failure) (act : Act σ α) : Act σ α := fun state =>
  match act state with
  | (.ok value, state) => (.ok value, state)
  | (.error failure, state) => (.error (f failure), state)

/-- The state. -/
def state : Act σ σ := fun state => (.ok state, state)

/-- A change of the state. -/
def change (f : σ → σ) : Act σ Unit := fun state => (.ok (), f state)

@[simp] theorem run_pure (value : α) (s : σ) : (pure value : Act σ α).run s = (.ok value, s) := rfl

@[simp] theorem run_fail (failure : Failure) (s : σ) :
    (fail failure : Act σ α).run s = (.error failure, s) := rfl

@[simp] theorem run_state (s : σ) : (state : Act σ σ).run s = (.ok s, s) := rfl

@[simp] theorem run_change (f : σ → σ) (s : σ) : (change f).run s = (.ok (), f s) := rfl

@[simp] theorem run_ofExcept (result : Except Failure α) (s : σ) :
    (ofExcept result).run s = (result, s) := rfl

theorem run_bind (act : Act σ α) (next : α → Act σ β) (s : σ) :
    (act >>= next).run s =
      match act.run s with
      | (.ok value, s) => (next value).run s
      | (.error failure, s) => (.error failure, s) := rfl

theorem run_bind_ok {act : Act σ α} {next : α → Act σ β} {s t : σ} {value : α}
    (h : act.run s = (.ok value, t)) : (act >>= next).run s = (next value).run t := by
  rw [run_bind, h]

theorem run_bind_error {act : Act σ α} {next : α → Act σ β} {s t : σ} {failure : Failure}
    (h : act.run s = (.error failure, t)) : (act >>= next).run s = (.error failure, t) := by
  rw [run_bind, h]

/-- A sequence gives a value exactly when its first part gives one and its second part then does. -/
theorem run_bind_eq_ok {act : Act σ α} {next : α → Act σ β} {s u : σ} {result : β} :
    (act >>= next).run s = (.ok result, u) ↔
      ∃ value t, act.run s = (.ok value, t) ∧ (next value).run t = (.ok result, u) := by
  constructor
  · intro h
    rcases hr : act.run s with ⟨failure | value, t⟩
    · rw [run_bind_error hr] at h
      cases h
    · rw [run_bind_ok hr] at h
      exact ⟨value, t, rfl, h⟩
  · rintro ⟨value, t, hr, h⟩
    rw [run_bind_ok hr]
    exact h

end Act
end Formwork

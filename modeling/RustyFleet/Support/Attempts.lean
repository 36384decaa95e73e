import Mathlib.Tactic.Common

/-! Steps that may fail, with a state that goes on also when a step fails. -/

def Attempt (σ ε α : Type) : Type := σ → Except ε α × σ

namespace Attempt

variable {σ ε α β : Type}

instance : Monad (Attempt σ ε) where
  pure value := fun state => (.ok value, state)
  bind first rest := fun state =>
    match first state with
    | (.ok value, later) => rest value later
    | (.error error, later) => (.error error, later)

def lift (result : Except ε α) : Attempt σ ε α := fun state => (result, state)

/-- A step that only looks at the state. -/
def reading (look : σ → Except ε α) : Attempt σ ε α := fun state => (look state, state)

def update (change : σ → σ) : Attempt σ ε Unit := fun state => (.ok (), change state)

theorem bind_apply (first : Attempt σ ε α) (rest : α → Attempt σ ε β) (state : σ) :
    (first >>= rest) state =
      match first state with
      | (.ok value, later) => rest value later
      | (.error error, later) => (.error error, later) := rfl

theorem bind_of_ok {first : Attempt σ ε α} {rest : α → Attempt σ ε β} {state later : σ} {value : α}
    (ran : first state = (.ok value, later)) : (first >>= rest) state = rest value later := by
  rw [bind_apply, ran]

theorem bind_of_error {first : Attempt σ ε α} {rest : α → Attempt σ ε β} {state later : σ} {error : ε}
    (failed : first state = (.error error, later)) : (first >>= rest) state = (.error error, later) := by
  rw [bind_apply, failed]

theorem bind_ran (first : Attempt σ ε α) (rest : α → Attempt σ ε β) (state later : σ) (result : β) :
    (first >>= rest) state = (.ok result, later) ↔
      ∃ value middle, first state = (.ok value, middle) ∧ rest value middle = (.ok result, later) := by
  rw [bind_apply]
  rcases first state with ⟨error | value, middle⟩
  · simp
  · simp

theorem pure_apply (value : α) (state : σ) : (pure value : Attempt σ ε α) state = (.ok value, state) := rfl

theorem pure_ran (given value : α) (state later : σ) :
    (pure given : Attempt σ ε α) state = (.ok value, later) ↔ given = value ∧ later = state := by
  rw [pure_apply, Prod.mk.injEq, Except.ok.injEq]
  exact and_congr_right fun _ => eq_comm

theorem lift_ran (result : Except ε α) (state later : σ) (value : α) :
    lift result state = (.ok value, later) ↔ result = .ok value ∧ later = state := by
  rw [lift, Prod.mk.injEq]
  exact and_congr_right fun _ => eq_comm

theorem reading_ran (look : σ → Except ε α) (state later : σ) (value : α) :
    reading look state = (.ok value, later) ↔ look state = .ok value ∧ later = state := by
  rw [reading, Prod.mk.injEq]
  exact and_congr_right fun _ => eq_comm

theorem update_ran (change : σ → σ) (state later : σ) (done : Unit) :
    (update change : Attempt σ ε Unit) state = (.ok done, later) ↔ later = change state := by
  rw [update, Prod.mk.injEq]
  constructor
  · rintro ⟨_, rfl⟩
    rfl
  · rintro rfl
    exact ⟨rfl, rfl⟩

/-- The step leaves the invariant as it finds it, also when it fails. -/
def Keeps (invariant : σ → Prop) (step : Attempt σ ε α) : Prop :=
  ∀ state, invariant state → invariant (step state).2

variable {invariant : σ → Prop}

theorem keeps_pure (value : α) : Keeps invariant (pure value : Attempt σ ε α) := fun _ holds => holds

theorem keeps_lift (result : Except ε α) : Keeps invariant (lift result) := fun _ holds => holds

theorem keeps_reading (look : σ → Except ε α) : Keeps invariant (reading look) := fun _ holds => holds

theorem keeps_bind_fact {first : Attempt σ ε α} {rest : α → Attempt σ ε β} {fact : α → Prop}
    (before : Keeps invariant first)
    (gives : ∀ state value later, invariant state → first state = (.ok value, later) → fact value)
    (after : ∀ value, fact value → Keeps invariant (rest value)) : Keeps invariant (first >>= rest) := by
  intro state holds
  have middle := before state holds
  rw [bind_apply]
  rcases ran : first state with ⟨error | value, later⟩
  · rw [ran] at middle
    exact middle
  · rw [ran] at middle
    exact after value (gives state value later holds ran) later middle

theorem keeps_bind {first : Attempt σ ε α} {rest : α → Attempt σ ε β} (before : Keeps invariant first)
    (after : ∀ value, Keeps invariant (rest value)) : Keeps invariant (first >>= rest) :=
  @keeps_bind_fact σ ε α β invariant first rest (fun _ => True) before (fun _ _ _ _ _ => trivial) fun value _ => after value

end Attempt

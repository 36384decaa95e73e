import Mathlib.Tactic.Common

/-! Results that are a value or an error, and the checks that refuse. -/

/-- An early return of an error when something is wrong. -/
def errorIf {ε : Type} (wrong : Prop) [Decidable wrong] (error : ε) : Except ε Unit :=
  if wrong then .error error else .ok ()

/-- `ok_or`: a missing value is an error. -/
def orError {ε α : Type} (value : Option α) (error : ε) : Except ε α :=
  match value with
  | some value => .ok value
  | none => .error error

section Returns

variable {ε δ α β : Type}

@[simp] theorem exceptBind_ok (first : Except ε α) (next : α → Except ε β) (result : β) :
    (first >>= next) = .ok result ↔ ∃ value, first = .ok value ∧ next value = .ok result := by
  cases first <;> simp [bind, Except.bind]

@[simp] theorem exceptPure_ok (value result : α) : (pure value : Except ε α) = .ok result ↔ value = result := by
  simp [pure, Except.pure]

@[simp] theorem errorIf_ok (wrong : Prop) [Decidable wrong] (error : ε) (done : Unit) :
    errorIf wrong error = .ok done ↔ ¬ wrong := by
  by_cases holds : wrong <;> simp [errorIf, holds]

@[simp] theorem orError_ok (value : Option α) (error : ε) (found : α) :
    orError value error = .ok found ↔ value = some found := by
  cases value <;> simp [orError]

theorem mapError_ok (change : ε → δ) (value : Except ε α) (result : α) :
    value.mapError change = .ok result ↔ value = .ok result := by
  cases value <;> simp [Except.mapError]

end Returns

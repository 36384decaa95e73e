import RustyFleet.Support.Results

/-! Computations that either return exactly the results of a relation or refuse. -/

/-- The computation returns the results of the relation, and fails in no way but by a refusal. -/
structure Exact {ε α : Type} (refusal : ε → Prop) (computed : Except ε α) (result : α → Prop) : Prop where
  ok_iff : ∀ value, computed = .ok value ↔ result value
  refused : ∀ failure, computed = .error failure → refusal failure

namespace Exact

variable {ε α β : Type} {refusal : ε → Prop} {computed : Except ε α} {result other : α → Prop}

theorem ok (value : α) : Exact refusal (.ok value) (value = ·) where
  ok_iff _ := ⟨Except.ok.inj, congrArg Except.ok⟩
  refused _ failed := nomatch failed

theorem error {failure : ε} (refuses : refusal failure) (never : ∀ value, ¬ result value) :
    Exact refusal (.error failure) result where
  ok_iff value := ⟨(fun returned => nomatch returned), fun named => absurd named (never value)⟩
  refused other failed := by
    cases failed
    exact refuses

theorem congr (exact : Exact refusal computed result) (same : ∀ value, result value ↔ other value) :
    Exact refusal computed other where
  ok_iff value := (exact.ok_iff value).trans (same value)
  refused := exact.refused

theorem bind {next : α → Except ε β} {later : α → β → Prop} (first : Exact refusal computed result)
    (second : ∀ value, result value → Exact refusal (next value) (later value)) :
    Exact refusal (computed >>= next) (fun final => ∃ value, result value ∧ later value final) := by
  cases outcome : computed with
  | error failure =>
    apply error (first.refused failure outcome)
    rintro final ⟨value, named, -⟩
    have returned := (first.ok_iff value).mpr named
    rw [outcome] at returned
    cases returned
  | ok value =>
    have named := (first.ok_iff value).mp outcome
    have only : ∀ other, result other → other = value := by
      intro other holds
      have returned := (first.ok_iff other).mpr holds
      rw [outcome] at returned
      cases returned
      rfl
    apply (second value named).congr
    intro final
    constructor
    · intro holds
      exact ⟨value, named, holds⟩
    · rintro ⟨other, holds, final⟩
      exact only other holds ▸ final

theorem step {next : α → Except ε β} {later : β → Prop} {value : α} (returns : computed = .ok value)
    (second : Exact refusal (next value) later) : Exact refusal (computed >>= next) later := by
  rw [returns]
  exact second

theorem guard {condition : Prop} [Decidable condition] {first second : Except ε α} {failure : ε}
    (refuses : refusal failure) (rejects : condition → first = .error failure)
    (goes : ¬ condition → first = second) (exact : ¬ condition → Exact refusal second result) :
    Exact refusal first (fun value => ¬ condition ∧ result value) := by
  by_cases holds : condition
  · rw [rejects holds]
    exact error refuses (fun _ named => named.1 holds)
  · rw [goes holds]
    apply (exact holds).congr
    intro value
    rw [and_iff_right holds]

end Exact

import Mathlib.Tactic.Common

/-! Machine integers whose operations are undefined outside their range. -/

namespace Checked

/-- A result is kept while it lies in the range. -/
def fit (low high value : Int) : Option Int := if low ≤ value ∧ value ≤ high then some value else none

variable {low high value : Int}

theorem fit_eq_some (above : low ≤ value) (below : value ≤ high) : fit low high value = some value :=
  if_pos ⟨above, below⟩

theorem fit_eq (inside : low ≤ value ∧ value ≤ high) {result : Int} (same : value = result) :
    fit low high value = some result := by
  rw [← same]
  exact fit_eq_some inside.1 inside.2

end Checked

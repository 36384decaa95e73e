import Mathlib.Tactic.Common

/-- A system that answers one call at a time. -/
structure Machine (σ ι ο : Type*) where
  step : σ → ι → σ × ο

namespace Machine

variable {σ ι ο : Type*} (M : Machine σ ι ο)

def next (s : σ) (call : ι) : σ := (M.step s call).1

def answer (s : σ) (call : ι) : ο := (M.step s call).2

def run (s : σ) : List ι → σ
  | [] => s
  | call :: rest => run (M.next s call) rest

/-- Every call of the run is allowed in the state it is made in. -/
def Admits (allowed : σ → ι → Prop) (s : σ) : List ι → Prop
  | [] => True
  | call :: rest => allowed s call ∧ Admits allowed (M.next s call) rest

/-- What the run has done, oldest first: the state before each call, the call and its answer. -/
def trace (s : σ) : List ι → List (σ × ι × ο)
  | [] => []
  | call :: rest => (s, call, M.answer s call) :: trace (M.next s call) rest

def Reachable (allowed : σ → ι → Prop) (s₀ s : σ) : Prop :=
  ∃ calls, M.Admits allowed s₀ calls ∧ M.run s₀ calls = s

/-- What each step contributes to a growing record of the run. -/
def history {η : Type*} (record : σ → ι → ο → List η) (s : σ) : List ι → List η
  | [] => []
  | call :: rest => record s call (M.answer s call) ++ history record (M.next s call) rest

theorem run_append (s : σ) (before after : List ι) :
    M.run s (before ++ after) = M.run (M.run s before) after := by
  induction before generalizing s with
  | nil => rfl
  | cons call rest ih => exact ih (M.next s call)

theorem admits_append (allowed : σ → ι → Prop) (s : σ) (before after : List ι) :
    M.Admits allowed s (before ++ after) ↔
      M.Admits allowed s before ∧ M.Admits allowed (M.run s before) after := by
  induction before generalizing s with
  | nil => simp [Admits, run]
  | cons call rest ih => simp [Admits, run, ih, and_assoc]

theorem mem_trace (allowed : σ → ι → Prop) (s₀ s : σ) (call : ι) (answer : ο) (calls : List ι)
    (admitted : M.Admits allowed s₀ calls) (member : (s, call, answer) ∈ M.trace s₀ calls) :
    M.Reachable allowed s₀ s ∧ allowed s call ∧ answer = M.answer s call := by
  induction calls generalizing s₀ with
  | nil => cases member
  | cons first rest ih =>
    rcases List.mem_cons.mp member with same | later
    · cases same
      exact ⟨⟨[], trivial, rfl⟩, admitted.1, rfl⟩
    · obtain ⟨⟨before, allowedBefore, rfl⟩, permitted, answered⟩ := ih (M.next s₀ first) admitted.2 later
      exact ⟨⟨first :: before, ⟨admitted.1, allowedBefore⟩, rfl⟩, permitted, answered⟩

theorem admits_true (s : σ) (calls : List ι) : M.Admits (fun _ _ => True) s calls := by
  induction calls generalizing s with
  | nil => trivial
  | cons call rest ih => exact ⟨trivial, ih _⟩

theorem admits_of_mem (s : σ) (calls : List ι) : M.Admits (fun _ call => call ∈ calls) s calls := by
  suffices listed : ∀ rest, (∀ call ∈ rest, call ∈ calls) → ∀ s,
      M.Admits (fun _ call => call ∈ calls) s rest from listed calls (fun _ member => member) s
  intro rest
  induction rest with
  | nil => exact fun _ _ => trivial
  | cons call rest ih =>
    intro within s
    exact ⟨within call List.mem_cons_self, ih (fun c member => within c (List.mem_cons_of_mem _ member)) _⟩

theorem admits_mono {allowed permitted : σ → ι → Prop}
    (weaker : ∀ s call, allowed s call → permitted s call) (s : σ) (calls : List ι)
    (admitted : M.Admits allowed s calls) : M.Admits permitted s calls := by
  induction calls generalizing s with
  | nil => trivial
  | cons call rest ih => exact ⟨weaker _ _ admitted.1, ih _ admitted.2⟩

theorem run_invariant (allowed : σ → ι → Prop) (Inv : σ → Prop)
    (kept : ∀ s call, allowed s call → Inv s → Inv (M.next s call))
    (s : σ) (calls : List ι) (admitted : M.Admits allowed s calls) (start : Inv s) :
    Inv (M.run s calls) := by
  induction calls generalizing s with
  | nil => exact start
  | cons call rest ih => exact ih _ admitted.2 (kept s call admitted.1 start)

theorem run_history {η : Type*} (record : σ → ι → ο → List η) (allowed : σ → ι → Prop)
    (Inv : σ → List η → Prop)
    (kept : ∀ s call recorded, allowed s call → Inv s recorded →
      Inv (M.next s call) (recorded ++ record s call (M.answer s call)))
    (s : σ) (calls : List ι) (recorded : List η) (admitted : M.Admits allowed s calls)
    (start : Inv s recorded) : Inv (M.run s calls) (recorded ++ M.history record s calls) := by
  induction calls generalizing s recorded with
  | nil => simpa [history, run] using start
  | cons call rest ih =>
    have later := ih (M.next s call) _ admitted.2 (kept s call recorded admitted.1 start)
    rwa [List.append_assoc] at later

theorem run_relation (allowed : σ → ι → Prop) (Inv : σ → Prop) (R : σ → σ → Prop)
    (kept : ∀ s call, allowed s call → Inv s → Inv (M.next s call))
    (refl : ∀ s, R s s) (trans : ∀ a b c, R a b → R b c → R a c)
    (ordered : ∀ s call, allowed s call → Inv s → R s (M.next s call))
    (s : σ) (calls : List ι) (admitted : M.Admits allowed s calls) (start : Inv s) :
    R s (M.run s calls) := by
  induction calls generalizing s with
  | nil => exact refl s
  | cons call rest ih =>
    exact trans _ _ _ (ordered s call admitted.1 start)
      (ih _ admitted.2 (kept s call admitted.1 start))

theorem history_filterMap {η κ : Type*} (fine : σ → ι → ο → List η) (coarse : σ → ι → ο → List κ)
    (read : η → Option κ) (same : ∀ s call answer, coarse s call answer = (fine s call answer).filterMap read)
    (s : σ) (calls : List ι) :
    M.history coarse s calls = (M.history fine s calls).filterMap read := by
  induction calls generalizing s with
  | nil => rfl
  | cons call rest ih => rw [history, history, List.filterMap_append, same, ih]

/-- The machine that also keeps the record of its own run. -/
def recorded {η : Type*} (record : σ → ι → ο → List η) : Machine (σ × List η) ι ο where
  step state call :=
    let (next, answer) := M.step state.1 call
    ((next, state.2 ++ record state.1 call answer), answer)

theorem Reachable.invariant {allowed : σ → ι → Prop} {s₀ s : σ} (Inv : σ → Prop)
    (kept : ∀ s call, allowed s call → Inv s → Inv (M.next s call)) (start : Inv s₀)
    (reachable : M.Reachable allowed s₀ s) : Inv s := by
  obtain ⟨calls, admitted, rfl⟩ := reachable
  exact M.run_invariant allowed Inv kept s₀ calls admitted start

theorem Reachable.step {allowed : σ → ι → Prop} {s₀ s : σ} (call : ι)
    (reachable : M.Reachable allowed s₀ s) (permitted : allowed s call) :
    M.Reachable allowed s₀ (M.next s call) := by
  obtain ⟨calls, admitted, rfl⟩ := reachable
  refine ⟨calls ++ [call], (M.admits_append allowed s₀ calls [call]).mpr ⟨admitted, permitted, trivial⟩, ?_⟩
  rw [run_append]
  rfl

end Machine

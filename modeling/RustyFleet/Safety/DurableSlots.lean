import RustyFleet.Store.Slots

namespace RustyFleet.DurableStore

open DurableStateCodec DurableStateStore

section Slots

variable {β : Type} [DurableStateCodec β]

/-- The readable state of a slot. -/
def slotState (directory : StateDirectory β) (slot : Nat) : Option LocalHubDurableState :=
  (directory (.slot slot)).bind fun file => (readStateSlot file.content slot).toOption

def SlotsSound (directory : StateDirectory β) : Prop :=
  ∀ slot file, directory (.slot slot) = some file →
    slot < 2 ∧ file.synced = true ∧ ∃ state, readStateSlot file.content slot = .ok state

theorem readStateSlot_ok {content : β} {slot : Nat} {state : LocalHubDurableState}
    (read : readStateSlot content slot = .ok state) :
    state.generation ≠ 0 ∧ state.generation % 2 = slot := by
  simp only [readStateSlot, exceptBind_ok, errorIf_ok, exists_const, pure, Except.pure,
    Except.ok.injEq] at read
  obtain ⟨_, found, _, header, parity, rfl⟩ := read
  exact ⟨fun zero => header (Or.inr (Or.inl zero)), by simpa using parity⟩

theorem slotState_some {directory : StateDirectory β} {slot : Nat} {state : LocalHubDurableState}
    (found : slotState directory slot = some state) :
    ∃ file, directory (.slot slot) = some file ∧ readStateSlot file.content slot = .ok state := by
  obtain ⟨file, present, read⟩ := Option.bind_eq_some_iff.mp found
  cases outcome : readStateSlot file.content slot with
  | error text =>
    rw [outcome] at read
    cases read
  | ok value =>
    rw [outcome] at read
    cases read
    exact ⟨file, present, outcome⟩

theorem slotState_of_read {directory : StateDirectory β} {slot : Nat} {file : StoredFile β}
    {state : LocalHubDurableState} (present : directory (.slot slot) = some file)
    (read : readStateSlot file.content slot = .ok state) : slotState directory slot = some state := by
  rw [slotState, present, Option.bind_some, read]
  rfl

theorem slotState_parity {directory : StateDirectory β} {slot : Nat} {state : LocalHubDurableState}
    (found : slotState directory slot = some state) :
    state.generation ≠ 0 ∧ state.generation % 2 = slot := by
  obtain ⟨file, _, read⟩ := slotState_some found
  exact readStateSlot_ok read

instance : Std.Total notOlder where
  total left right := Nat.le_total right.2.generation left.2.generation

instance : IsTrans (Nat × LocalHubDurableState) notOlder where
  trans _ _ _ first second := Nat.le_trans second first

end Slots

end RustyFleet.DurableStore

import RustyFleet.Safety.DurableSlots
import RustyFleet.Safety.HubFreshness
import RustyFleet.Support.Machine

namespace RustyFleet.DurableStore

open DurableStateCodec DurableStateStore CrashDisk

section Guarding

variable {β : Type} [DurableStateCodec β]

structure Guarded (floor : Option Nat) (Recent : LocalHubDurableState → Prop)
    (directory : StateDirectory β) : Prop where
  sound : SlotsSound directory
  held : ∀ least ∈ floor, ∃ slot state, slotState directory slot = some state ∧ least ≤ state.generation
  recent : ∀ least ∈ floor, ∀ slot state, slotState directory slot = some state →
    least ≤ state.generation → Recent state

structure Running (floor : Option Nat) (generation : Nat) (directory : StateDirectory β) : Prop where
  fresh : generation = 0 → directory (.slot 0) = none
  anchored : 0 < generation → ∃ file state, directory (.slot (generation % 2)) = some file ∧
    readStateSlot file.content (generation % 2) = .ok state ∧ state.generation = generation
  reached : ∀ least ∈ floor, 0 < least ∧ least ≤ generation

variable {floor : Option Nat} {Recent : LocalHubDurableState → Prop} {generation : Nat}

theorem slotState_congr {directory next : StateDirectory β}
    (same : ∀ slot, next (.slot slot) = directory (.slot slot)) (slot : Nat) :
    slotState next slot = slotState directory slot := by
  rw [slotState, slotState, same]

theorem Guarded.congr {directory next : StateDirectory β}
    (same : ∀ slot, next (.slot slot) = directory (.slot slot)) (guarded : Guarded floor Recent directory) :
    Guarded floor Recent next := by
  constructor
  · intro slot file present
    rw [same] at present
    exact guarded.sound slot file present
  · intro least member
    obtain ⟨slot, state, found, enough⟩ := guarded.held least member
    exact ⟨slot, state, (slotState_congr same slot).trans found, enough⟩
  · intro least member slot state found enough
    rw [slotState_congr same] at found
    exact guarded.recent least member slot state found enough

theorem Guarded.afterCrash (directory : StateDirectory β) (left : β)
    (guarded : Guarded floor Recent directory) : Guarded floor Recent (directory.afterCrash left) := by
  apply guarded.congr
  intro slot
  cases present : directory (.slot slot) with
  | none => exact (directory.afterCrash_none_iff left _).mpr present
  | some file => exact directory.afterCrash_eq left present (guarded.sound slot file present).2.1

theorem Running.congr {directory next : StateDirectory β}
    (same : next (.slot (generation % 2)) = directory (.slot (generation % 2)))
    (running : Running floor generation directory) : Running floor generation next := by
  constructor
  · intro zero
    subst zero
    exact same.trans (running.fresh rfl)
  · intro positive
    rw [same]
    exact running.anchored positive
  · exact running.reached

theorem Guarded.emptied {directory : StateDirectory β} (guarded : Guarded floor Recent directory)
    (running : Running floor generation directory) :
    Guarded floor Recent (Function.update directory (.slot ((generation + 1) % 2)) none) := by
  have other : ∀ {slot}, slot ≠ (generation + 1) % 2 →
      Function.update directory (.slot ((generation + 1) % 2)) none (.slot slot) =
        directory (.slot slot) := by
    intro slot apart
    exact Function.update_of_ne (fun same => apart (StatePath.slot.inj same)) _ _
  have remains : ∀ slot file,
      Function.update directory (.slot ((generation + 1) % 2)) none (.slot slot) = some file →
      directory (.slot slot) = some file := by
    intro slot file present
    by_cases target : slot = (generation + 1) % 2
    · subst target
      rw [Function.update_self] at present
      cases present
    · rw [other target] at present
      exact present
  constructor
  · intro slot file present
    exact guarded.sound slot file (remains slot file present)
  · intro least member
    obtain ⟨positive, enough⟩ := running.reached least member
    obtain ⟨file, state, present, read, numbered⟩ := running.anchored (by omega)
    refine ⟨generation % 2, state, ?_, by omega⟩
    exact slotState_of_read ((other (by omega)).trans present) read
  · intro least member slot state found enough
    obtain ⟨file, present, read⟩ := slotState_some found
    exact guarded.recent least member slot state (slotState_of_read (remains slot file present) read) enough

theorem Guarded.stored {directory : StateDirectory β} (guarded : Guarded floor Recent directory)
    (running : Running floor generation directory) {content : β} {state : LocalHubDurableState}
    (read : readStateSlot content ((generation + 1) % 2) = .ok state)
    (recent : Recent state) :
    Guarded floor Recent
      (Function.update directory (.slot ((generation + 1) % 2)) (some { content, synced := true })) := by
  have other : ∀ {slot}, slot ≠ (generation + 1) % 2 →
      Function.update directory (.slot ((generation + 1) % 2)) (some { content, synced := true })
        (.slot slot) = directory (.slot slot) := by
    intro slot apart
    exact Function.update_of_ne (fun same => apart (StatePath.slot.inj same)) _ _
  constructor
  · intro slot file present
    by_cases target : slot = (generation + 1) % 2
    · subst target
      rw [Function.update_self] at present
      cases present
      exact ⟨by omega, rfl, state, read⟩
    · rw [other target] at present
      exact guarded.sound slot file present
  · intro least member
    obtain ⟨positive, enough⟩ := running.reached least member
    obtain ⟨file, anchor, present, anchorRead, numbered⟩ := running.anchored (by omega)
    refine ⟨generation % 2, anchor, ?_, by omega⟩
    exact slotState_of_read ((other (by omega)).trans present) anchorRead
  · intro least member slot held found enough
    by_cases target : slot = (generation + 1) % 2
    · subst target
      have present : Function.update directory (.slot ((generation + 1) % 2))
          (some { content, synced := true }) (.slot ((generation + 1) % 2)) =
            some { content, synced := true } := Function.update_self _ _ _
      have stored := slotState_of_read present read
      rw [stored] at found
      cases found
      exact recent
    · rw [slotState, other target] at found
      exact guarded.recent least member slot held found enough

end Guarding

section Runs

variable {β : Type} [DurableStateCodec β] {floor : Option Nat} {Recent : LocalHubDurableState → Prop}

structure Secured (floor : Option Nat) (Recent : LocalHubDurableState → Prop) (system : StoreSystem β) :
    Prop where
  throughout : system.disk.Throughout (Guarded floor Recent)
  running : ∀ store ∈ system.store, Running floor store.generation system.disk.present

theorem Secured.mono {Recent' : LocalHubDurableState → Prop} {system : StoreSystem β}
    (weaker : ∀ state, Recent state → Recent' state) (secured : Secured floor Recent system) :
    Secured floor Recent' system where
  throughout := system.disk.throughout_mono (fun _ guarded =>
    ⟨guarded.sound, guarded.held, fun least member slot state found enough =>
      weaker state (guarded.recent least member slot state found enough)⟩) secured.throughout
  running := secured.running

theorem Secured.lowered {least : Nat} {system : StoreSystem β} (secured : Secured (some least) Recent system) :
    Secured (some 1) (fun _ => True) system where
  throughout := system.disk.throughout_mono (fun directory guarded => by
    refine ⟨guarded.sound, ?_, fun _ _ _ _ _ _ => trivial⟩
    rintro _ ⟨⟩
    obtain ⟨slot, state, stored, _⟩ := guarded.held least rfl
    exact ⟨slot, state, stored, Nat.pos_of_ne_zero (slotState_parity stored).1⟩) secured.throughout
  running store member := by
    have kept := secured.running store member
    refine ⟨kept.fresh, kept.anchored, ?_⟩
    rintro _ ⟨⟩
    obtain ⟨positive, enough⟩ := kept.reached least rfl
    exact ⟨Nat.one_pos, by omega⟩

variable [FleetEnvironment]

end Runs

section Samples

end Samples

end RustyFleet.DurableStore

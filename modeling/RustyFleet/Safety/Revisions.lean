import RustyFleet.Hub.Frames

namespace RustyFleet

/-- The result revision is a `u64` counter that starts at one. -/
structure Revised (hub : FleetHub) : Prop where
  positive : 0 < hub.resultRevision
  bounded : hub.resultRevision ≤ u64Max

theorem le_saturatingSucc {counter : Nat} (bounded : counter ≤ u64Max) :
    counter ≤ saturatingSucc counter := by
  unfold saturatingSucc
  omega

theorem saturatingSucc_le (counter : Nat) : saturatingSucc counter ≤ u64Max := by
  unfold saturatingSucc
  omega

theorem lt_saturatingSucc {counter : Nat} (room : counter < u64Max) : counter < saturatingSucc counter := by
  unfold saturatingSucc
  omega

theorem revised_new (policy : AssertedPolicy) : Revised (.new policy) where
  positive := Nat.one_pos
  bounded := by simp only [FleetHub.new, u64Max]; omega

namespace FleetHub

variable (hub : FleetHub)

theorem observation_revision [ObservationCodec] (observation : DeviceObservation) (nowMs : Int) :
    (hub.acceptObservation observation nowMs).2.resultRevision = hub.resultRevision ∨
      (hub.acceptObservation observation nowMs).2.resultRevision = saturatingSucc hub.resultRevision := by
  unfold acceptObservation
  split
  · exact .inl rfl
  · split
    · exact .inl rfl
    · unfold admitObservation
      simp only
      split <;> exact .inr rfl

theorem catalog_revision [UnicodeLowercase] (admission : ProductionKioskCatalogAdmission)
    (profileId : String) (receivedAtMs : Int) :
    (hub.acceptProfiledKioskCatalog admission profileId receivedAtMs).2.resultRevision = hub.resultRevision ∨
      (hub.acceptProfiledKioskCatalog admission profileId receivedAtMs).2.resultRevision =
        saturatingSucc hub.resultRevision := by
  unfold acceptProfiledKioskCatalog
  split
  · exact .inl rfl
  · rename_i candidate accepted
    simp only [profiledCatalogEdit, acceptProductionKioskCatalog, acceptKioskCatalogInternal,
      bindProductionAdmission, exceptBind_ok, exceptPure_ok] at accepted
    obtain ⟨_, _, _, _, bound, ⟨_, _, _, _, _, _, _, _, _, _, _, _, _, _, internal, admitted, retained⟩, rfl⟩ :=
      accepted
    obtain ⟨_, _, _, _, _, _, _, _, _, _, _, _, rfl⟩ := admitted
    obtain ⟨_, _, rfl⟩ := retained
    exact .inr rfl

variable [HubEnvironment]

theorem handle_revision (call : HubCall) :
    (hub.handle call).1.resultRevision = hub.resultRevision ∨
      (hub.handle call).1.resultRevision = saturatingSucc hub.resultRevision := by
  cases call with
  | observe observation nowMs =>
    rw [handle_observe]
    exact hub.observation_revision observation nowMs
  | savedView call =>
    obtain ⟨_, _, frame⟩ := hub.savedView_frame call
    rw [handle_savedView, frame]
    exact .inl rfl
  | kiosk call =>
    obtain ⟨_, frame⟩ := hub.kiosk_frame call
    rw [handle_kiosk, frame]
    exact .inl rfl
  | package call =>
    obtain ⟨_, _, frame⟩ := hub.package_frame call
    rw [handle_package, frame]
    exact .inl rfl
  | awake call =>
    obtain ⟨_, frame⟩ := hub.awake_frame call
    rw [handle_awake, frame]
    exact .inl rfl
  | wifiAdb call =>
    obtain ⟨_, frame⟩ := hub.wifiAdb_frame call
    rw [handle_wifiAdb, frame]
    exact .inl rfl
  | hotspot call =>
    obtain ⟨_, _, frame⟩ := hub.hotspot_frame call
    rw [handle_hotspot, frame]
    exact .inl rfl
  | catalog admission profileId receivedAtMs =>
    rw [handle_catalog]
    exact hub.catalog_revision admission profileId receivedAtMs
  | restart policy =>
    rw [handle_restart, hub.restarted_same]
    exact .inl rfl

end FleetHub

section Calls

variable {hub : FleetHub} [HubEnvironment]

theorem handle_revision_le (revised : Revised hub) (call : HubCall) :
    hub.resultRevision ≤ (hub.handle call).1.resultRevision := by
  rcases hub.handle_revision call with same | moved
  · exact Nat.le_of_eq same.symm
  · rw [moved]
    exact le_saturatingSucc revised.bounded

theorem call_revised (revised : Revised hub) (call : HubCall) : Revised (hub.handle call).1 where
  positive := Nat.lt_of_lt_of_le revised.positive (handle_revision_le revised call)
  bounded := by
    rcases hub.handle_revision call with same | moved
    · rw [same]
      exact revised.bounded
    · rw [moved]
      exact saturatingSucc_le hub.resultRevision

end Calls

end RustyFleet

import RustyFleet.Safety.Lineage

namespace RustyFleet

def DirectoryKeyed (hub : FleetHub) : Prop :=
  ∀ (deviceId : String) (record : DeviceRecord), hub.devices[deviceId]? = some record →
    record.observation.identity.deviceId = deviceId

theorem directoryKeyed_new (policy : AssertedPolicy) : DirectoryKeyed (.new policy) := by
  intro deviceId record stored
  simp [FleetHub.new] at stored

theorem directoryKeyed_of_devices {hub next : FleetHub} (same : next.devices = hub.devices)
    (keyed : DirectoryKeyed hub) : DirectoryKeyed next := by
  intro deviceId record stored
  rw [same] at stored
  exact keyed deviceId record stored

theorem observation_keyed [ObservationCodec] {hub : FleetHub} (keyed : DirectoryKeyed hub)
    (observation : DeviceObservation) (nowMs : Int) :
    DirectoryKeyed (hub.acceptObservation observation nowMs).2 := by
  rcases Lineage.acceptObservation_cases hub observation nowMs with
    ⟨_, _, _, _, _, rejected⟩ | ⟨_, _, admitted⟩
  · rw [rejected]
    exact directoryKeyed_of_devices rfl keyed
  · rw [admitted]
    unfold FleetHub.admitObservation
    simp only
    split
    · exact BTreeMap.insert_forall hub.devices _ _
        (fun deviceId record => record.observation.identity.deviceId = deviceId) keyed rfl
    · exact directoryKeyed_of_devices rfl keyed

theorem call_keyed [HubEnvironment] {hub : FleetHub} (keyed : DirectoryKeyed hub) (call : HubCall) :
    DirectoryKeyed (hub.handle call).1 := by
  by_cases observes : ∃ observation nowMs, call = .observe observation nowMs
  · obtain ⟨observation, nowMs, rfl⟩ := observes
    rw [FleetHub.handle_observe]
    exact observation_keyed keyed observation nowMs
  · refine directoryKeyed_of_devices ?_ keyed
    exact FleetHub.handle_devices hub call fun observation nowMs same => observes ⟨observation, nowMs, same⟩

theorem observation_keeps_known [ObservationCodec] {hub : FleetHub} (observation : DeviceObservation)
    (nowMs : Int) {deviceId : String} {record : DeviceRecord} (stored : hub.devices[deviceId]? = some record) :
    ∃ later, (hub.acceptObservation observation nowMs).2.devices[deviceId]? = some later := by
  rcases Lineage.acceptObservation_cases hub observation nowMs with
    ⟨_, _, _, _, _, rejected⟩ | ⟨_, _, admitted⟩
  · rw [rejected]
    exact ⟨record, stored⟩
  · rw [admitted]
    unfold FleetHub.admitObservation
    simp only
    split
    · by_cases same : deviceId = observation.identity.deviceId
      · rw [same]
        exact ⟨_, BTreeMap.lookup_insert_self hub.devices _ _⟩
      · exact ⟨record, (BTreeMap.lookup_insert_of_ne hub.devices _ same).trans stored⟩
    · exact ⟨record, stored⟩

theorem call_keeps_known [HubEnvironment] {hub : FleetHub} (call : HubCall) {deviceId : String}
    {record : DeviceRecord} (stored : hub.devices[deviceId]? = some record) :
    ∃ later, (hub.handle call).1.devices[deviceId]? = some later := by
  by_cases observes : ∃ observation nowMs, call = .observe observation nowMs
  · obtain ⟨observation, nowMs, rfl⟩ := observes
    rw [FleetHub.handle_observe]
    exact observation_keeps_known observation nowMs stored
  · rw [FleetHub.handle_devices hub call fun observation nowMs same => observes ⟨observation, nowMs, same⟩]
    exact ⟨record, stored⟩

theorem requestedPreflights_named {hub : FleetHub} (keyed : DirectoryKeyed hub)
    (texts : RequestedTargetTexts) (preflight : String → DeviceRecord → HubResult TargetPreflight)
    (describes : ∀ deviceId record current, preflight deviceId record = .ok current →
      current.deviceId = record.observation.identity.deviceId ∧
        current.identityRevision = record.observation.identity.identityRevision)
    (requested : List (String × Nat)) (preflights : List TargetPreflight)
    (ok : hub.requestedPreflights texts preflight requested = .ok preflights) :
    preflights.map (fun current => (current.deviceId, current.identityRevision)) = requested := by
  induction requested generalizing preflights with
  | nil =>
    cases ok
    rfl
  | cons entry rest ih =>
    obtain ⟨deviceId, identityRevision⟩ := entry
    simp only [FleetHub.requestedPreflights, FleetHub.requestedRecord, exceptBind_ok, orError_ok, errorIf_ok,
      exceptPure_ok, not_not] at ok
    obtain ⟨_, ⟨record, stored, _, revision, rfl⟩, current, judged, later, tail, rfl⟩ := ok
    obtain ⟨device, identity⟩ := describes deviceId record current judged
    rw [List.map_cons, ih later tail, device, identity, keyed deviceId record stored, revision]

theorem requestedPreflights_recorded {hub : FleetHub} (keyed : DirectoryKeyed hub)
    (texts : RequestedTargetTexts) (preflight : String → DeviceRecord → HubResult TargetPreflight)
    (describes : ∀ deviceId record current, preflight deviceId record = .ok current →
      current.deviceId = record.observation.identity.deviceId)
    (requested : List (String × Nat)) (preflights : List TargetPreflight)
    (ok : hub.requestedPreflights texts preflight requested = .ok preflights) :
    ∀ current ∈ preflights, ∃ record, hub.devices[current.deviceId]? = some record := by
  induction requested generalizing preflights with
  | nil =>
    cases ok
    intro current member
    cases member
  | cons entry rest ih =>
    obtain ⟨deviceId, identityRevision⟩ := entry
    simp only [FleetHub.requestedPreflights, FleetHub.requestedRecord, exceptBind_ok, orError_ok, errorIf_ok,
      exceptPure_ok, not_not] at ok
    obtain ⟨_, ⟨record, stored, _, _, rfl⟩, current, judged, later, tail, rfl⟩ := ok
    intro member listed
    rcases List.mem_cons.mp listed with rfl | inRest
    · refine ⟨record, ?_⟩
      rw [describes deviceId record member judged, keyed deviceId record stored]
      exact stored
    · exact ih later tail member inRest

end RustyFleet

import RustyFleet.Hub.Frames
import RustyFleet.Support.EpochLog

namespace RustyFleet.Lineage

/-- What orders the observations of one device. -/
def stamp (observation : DeviceObservation) : Stamp String where
  revision := observation.identity.identityRevision
  epoch := observation.sourceEpoch
  counter := observation.sourceRevision

def seenEpochs (record : Option DeviceRecord) : List String :=
  (record.map (·.seenSourceEpochs)).getD []

def accepts : HubAnswer → Bool
  | .observed (.ok (.accepted ..)) => true
  | _ => false

/-- The observation a call got accepted, if it did. -/
def acceptedBy (_ : FleetHub) (call : HubCall) (answer : HubAnswer) : List DeviceObservation :=
  match call with
  | .observe observation _ => if accepts answer then [observation] else []
  | _ => []

def ofDevice (deviceId : String) (accepted : List DeviceObservation) : List DeviceObservation :=
  accepted.filter (·.identity.deviceId == deviceId)

def sameLineage (a b : DeviceObservation) : Prop :=
  a.identity.identityRevision = b.identity.identityRevision ∧ a.sourceEpoch = b.sourceEpoch

def receivedInOrder (a b : DeviceObservation) : Prop :=
  sameLineage a b → a.receivedTimeMs ≤ b.receivedTimeMs

def describedAlike (a b : DeviceObservation) : Prop :=
  identityDescriptionDiffers b a → a.identity.identityRevision < b.identity.identityRevision

structure DeviceLineage (limit : Nat) (record : Option DeviceRecord)
    (accepted : List DeviceObservation) : Prop where
  history : EpochLog.History (seenEpochs record) (accepted.map stamp)
  last : accepted.getLast? = record.map (·.observation)
  bounded : (seenEpochs record).length ≤ limit
  received : accepted.Pairwise receivedInOrder
  described : accepted.Pairwise describedAlike

theorem lineage_empty (limit : Nat) : DeviceLineage limit none [] where
  history :=
    { distinct := List.nodup_nil
      listed := by simp
      increasing := by simp
      monotone := by simp
      current := by simp [seenEpochs] }
  last := rfl
  bounded := Nat.zero_le limit
  received := List.Pairwise.nil
  described := List.Pairwise.nil

structure Admissible (limit : Nat) (existing : DeviceRecord) (observation : DeviceObservation) : Prop where
  revision : existing.observation.identity.identityRevision ≤ observation.identity.identityRevision
  described : describedAlike existing.observation observation
  epoch : observation.sourceEpoch = existing.observation.sourceEpoch ∨
    (observation.sourceEpoch ∉ existing.seenSourceEpochs ∧ existing.seenSourceEpochs.length < limit)
  newer : sameLineage existing.observation observation →
    existing.observation.sourceRevision < observation.sourceRevision ∧
      existing.observation.receivedTimeMs ≤ observation.receivedTimeMs

theorem admissible_of_unrejected (limit : Nat) (existing : DeviceRecord)
    (observation : DeviceObservation) (clear : observationRejection limit existing observation = none) :
    Admissible limit existing observation := by
  simp only [observationRejection] at clear
  split at clear
  · cases clear
  rename_i noConflict
  split at clear
  · cases clear
  rename_i noRollback
  split at clear
  · cases clear
  split at clear
  · cases clear
  rename_i noReplay
  split at clear
  · cases clear
  rename_i room
  split at clear
  · cases clear
  split at clear
  · cases clear
  rename_i noDuplicate
  split at clear
  · cases clear
  rename_i noStale
  split at clear
  · cases clear
  rename_i noRegression
  refine ⟨Nat.le_of_not_lt noRollback, ?_, ?_, ?_⟩
  · intro differs
    have distinct : observation.identity.identityRevision ≠
        existing.observation.identity.identityRevision := fun same => noConflict ⟨same, differs⟩
    omega
  · by_cases same : observation.sourceEpoch = existing.observation.sourceEpoch
    · exact .inl same
    · exact .inr ⟨fun seen => noReplay ⟨same, seen⟩, Nat.lt_of_not_ge fun full => room ⟨same, full⟩⟩
  · rintro ⟨revision, epoch⟩
    have notEqual : observation.sourceRevision ≠ existing.observation.sourceRevision :=
      fun equal => noDuplicate ⟨revision.symm, epoch.symm, equal⟩
    have notBelow : ¬ observation.sourceRevision < existing.observation.sourceRevision :=
      fun below => noStale ⟨revision.symm, epoch.symm, below⟩
    have notEarlier : ¬ observation.receivedTimeMs < existing.observation.receivedTimeMs :=
      fun earlier => noRegression ⟨revision.symm, epoch.symm, earlier⟩
    omega

variable {limit : Nat} {record : Option DeviceRecord} {existing : DeviceRecord}
  {accepted : List DeviceObservation} {observation : DeviceObservation}

theorem DeviceLineage.current_seen (lineage : DeviceLineage limit (some existing) accepted) :
    existing.observation.sourceEpoch ∈ existing.seenSourceEpochs := by
  have final := lineage.last
  have listed := lineage.history.listed (stamp existing.observation)
  exact listed (List.mem_map_of_mem (List.mem_of_getLast? final))

theorem last_shares_lineage (lineage : DeviceLineage limit (some existing) accepted)
    (admissible : Admissible limit existing observation) (a : DeviceObservation) (member : a ∈ accepted)
    (same : sameLineage a observation) :
    sameLineage a existing.observation ∧ sameLineage existing.observation observation := by
  have final := lineage.last
  rcases Support.pairwise_last (List.pairwise_map.mp lineage.history.monotone) final a member with
    rfl | ordered
  · exact ⟨⟨rfl, rfl⟩, same⟩
  · obtain ⟨revision, epoch⟩ := same
    have known := lineage.history.listed (stamp a) (List.mem_map_of_mem member)
    have unmoved : a.sourceEpoch = existing.observation.sourceEpoch := by
      rcases admissible.epoch with kept | ⟨fresh, _⟩
      · exact epoch.trans kept
      · exact absurd (epoch ▸ known) fresh
    have lower := ordered.1
    have upper := admissible.revision
    simp only [stamp] at lower
    exact ⟨⟨by omega, unmoved⟩, ⟨by omega, unmoved ▸ epoch⟩⟩

theorem extended_length (seen : List String) (epoch : String) :
    (extendedSourceEpochs seen epoch).length ≤ seen.length + 1 := by
  unfold extendedSourceEpochs
  split <;> simp

theorem extended_bounded (lineage : DeviceLineage limit (some existing) accepted)
    (admissible : Admissible limit existing observation) :
    (extendedSourceEpochs existing.seenSourceEpochs observation.sourceEpoch).length ≤ limit := by
  rcases admissible.epoch with kept | ⟨_, room⟩
  · have seen : observation.sourceEpoch ∈ existing.seenSourceEpochs := kept ▸ lineage.current_seen
    rw [extendedSourceEpochs, if_pos seen]
    exact lineage.bounded
  · have grown := extended_length existing.seenSourceEpochs observation.sourceEpoch
    omega

theorem extended_history (lineage : DeviceLineage limit (some existing) accepted)
    (admissible : Admissible limit existing observation) :
    EpochLog.History (extendedSourceEpochs existing.seenSourceEpochs observation.sourceEpoch)
      ((accepted ++ [observation]).map stamp) := by
  have final : (accepted.map stamp).getLast? = some (stamp existing.observation) := by
    rw [List.getLast?_map, lineage.last]
    rfl
  rw [List.map_append, List.map_singleton]
  rcases admissible.epoch with kept | ⟨fresh, _⟩
  · have seen : observation.sourceEpoch ∈ existing.seenSourceEpochs := kept ▸ lineage.current_seen
    rw [extendedSourceEpochs, if_pos seen]
    refine lineage.history.advance final kept ?_
    by_cases bumped : existing.observation.identity.identityRevision <
        observation.identity.identityRevision
    · exact .inl bumped
    · have revision : existing.observation.identity.identityRevision =
          observation.identity.identityRevision := by
        have lower := admissible.revision
        omega
      exact .inr ⟨revision, (admissible.newer ⟨revision, kept.symm⟩).1⟩
  · rw [extendedSourceEpochs, if_neg fresh]
    have unseen : (stamp observation).epoch ∉ existing.seenSourceEpochs := fresh
    exact lineage.history.move final unseen admissible.revision

theorem extended_received (lineage : DeviceLineage limit (some existing) accepted)
    (admissible : Admissible limit existing observation) :
    (accepted ++ [observation]).Pairwise receivedInOrder := by
  refine Support.pairwise_snoc lineage.received fun a member same => ?_
  obtain ⟨before, after⟩ := last_shares_lineage lineage admissible a member same
  have final := lineage.last
  have newer := (admissible.newer after).2
  rcases Support.pairwise_last lineage.received final a member with rfl | ordered
  · exact newer
  · exact Int.le_trans (ordered before) newer

theorem extended_described (lineage : DeviceLineage limit (some existing) accepted)
    (admissible : Admissible limit existing observation) :
    (accepted ++ [observation]).Pairwise describedAlike := by
  refine Support.pairwise_snoc lineage.described fun a member differs => ?_
  have final := lineage.last
  have step := admissible.described
  have lower := admissible.revision
  rcases Support.pairwise_last lineage.described final a member with rfl | ordered
  · exact step differs
  · by_cases last : identityDescriptionDiffers observation existing.observation
    · have monotone := Support.pairwise_last (List.pairwise_map.mp lineage.history.monotone) final a member
      have bumped := step last
      rcases monotone with rfl | ⟨before, _⟩
      · exact bumped
      · exact Nat.lt_of_le_of_lt before bumped
    · have first : identityDescriptionDiffers existing.observation a := by
        simp only [identityDescriptionDiffers, not_or, not_not] at last differs ⊢
        rwa [← last.1, ← last.2.1, ← last.2.2]
      exact Nat.lt_of_lt_of_le (ordered first) lower

theorem lineage_extends (hub : FleetHub) (nowMs : Int)
    (positive : 0 < hub.policy.sourceEpochLimitPerDevice)
    (lineage : DeviceLineage hub.policy.sourceEpochLimitPerDevice
      hub.devices[observation.identity.deviceId]? accepted)
    (clear : (hub.devices[observation.identity.deviceId]?.bind fun existing =>
      observationRejection hub.policy.sourceEpochLimitPerDevice existing observation) = none) :
    DeviceLineage hub.policy.sourceEpochLimitPerDevice (some (hub.acceptedRecord observation nowMs))
      (accepted ++ [observation]) := by
  cases stored : hub.devices[observation.identity.deviceId]? with
  | none =>
    rw [stored] at lineage
    have empty : accepted = [] := by simpa using lineage.last
    rw [empty]
    refine ⟨?_, rfl, ?_, List.pairwise_singleton _ _, List.pairwise_singleton _ _⟩
    · simpa [FleetHub.acceptedRecord, stored, seenEpochs, extendedSourceEpochs, stamp] using
        EpochLog.History.first (stamp observation)
    · simp only [FleetHub.acceptedRecord, stored, seenEpochs, extendedSourceEpochs]
      exact positive
  | some existing =>
    rw [stored] at lineage clear
    have admissible := admissible_of_unrejected _ existing observation clear
    refine ⟨?_, by simp [FleetHub.acceptedRecord], ?_, extended_received lineage admissible,
      extended_described lineage admissible⟩
    · simpa [FleetHub.acceptedRecord, stored, seenEpochs] using extended_history lineage admissible
    · simpa [FleetHub.acceptedRecord, stored, seenEpochs] using extended_bounded lineage admissible

structure HubLineage (policy : AssertedPolicy) (hub : FleetHub) (accepted : List DeviceObservation) :
    Prop where
  limits : hub.policy = policy.val
  device : ∀ deviceId, DeviceLineage hub.policy.sourceEpochLimitPerDevice hub.devices[deviceId]?
    (ofDevice deviceId accepted)

theorem HubLineage.positive {policy : AssertedPolicy} {hub : FleetHub}
    (lineage : HubLineage policy hub accepted) : 0 < hub.policy.sourceEpochLimitPerDevice := by
  rw [lineage.limits]
  exact policy.property.2.2.2.1

theorem admitObservation_fits (hub : FleetHub) (observation : DeviceObservation) (nowMs : Int)
    (fits : (hub.acceptedRecord observation nowMs).seenSourceEpochs.length ≤
      hub.policy.sourceEpochLimitPerDevice) :
    hub.admitObservation observation nowMs =
      ({ hub with
        resultRevision := saturatingSucc hub.resultRevision
        devices := hub.devices.insert observation.identity.deviceId
          (hub.acceptedRecord observation nowMs) } : FleetHub).recordDecision nowMs
        (.accepted (saturatingSucc hub.resultRevision) observation.identity.deviceId
          observation.sourceRevision) := by
  simp only [FleetHub.admitObservation, if_pos fits]

theorem acceptObservation_cases [ObservationCodec] (hub : FleetHub) (observation : DeviceObservation)
    (nowMs : Int) :
    (∃ resultRevision deviceId sourceRevision reason details,
      hub.acceptObservation observation nowMs =
        hub.recordDecision nowMs (.rejected resultRevision deviceId sourceRevision reason details)) ∨
      ((hub.devices[observation.identity.deviceId]?.bind fun existing =>
          observationRejection hub.policy.sourceEpochLimitPerDevice existing observation) = none ∧
        Valid observation ∧
        hub.acceptObservation observation nowMs = hub.admitObservation observation nowMs) := by
  unfold FleetHub.acceptObservation
  by_cases valid : Valid observation
  · rw [validate_of_valid valid]
    simp only
    split
    · exact .inl ⟨_, _, _, _, _, rfl⟩
    · rename_i clear
      exact .inr ⟨clear, valid, rfl⟩
  · rw [validate_of_not_valid valid]
    exact .inl ⟨_, _, _, _, _, rfl⟩

theorem admitted_record_fits {policy : AssertedPolicy} {hub : FleetHub} (nowMs : Int)
    (lineage : HubLineage policy hub accepted)
    (clear : (hub.devices[observation.identity.deviceId]?.bind fun existing =>
      observationRejection hub.policy.sourceEpochLimitPerDevice existing observation) = none) :
    (hub.acceptedRecord observation nowMs).seenSourceEpochs.length ≤
      hub.policy.sourceEpochLimitPerDevice :=
  (lineage_extends hub nowMs lineage.positive (lineage.device _) clear).bounded

theorem acceptObservation_returns [ObservationCodec] {policy : AssertedPolicy} {hub : FleetHub}
    (lineage : HubLineage policy hub accepted) (observation : DeviceObservation) (nowMs : Int) :
    ∃ decision, (hub.acceptObservation observation nowMs).1 = .ok decision := by
  rcases acceptObservation_cases hub observation nowMs with
    ⟨_, _, _, _, _, rejected⟩ | ⟨clear, _, admitted⟩
  · exact ⟨_, by rw [rejected]; rfl⟩
  · have fits := admitted_record_fits nowMs lineage clear
    exact ⟨_, by rw [admitted, admitObservation_fits hub observation nowMs fits]; rfl⟩

variable [HubEnvironment]

theorem observation_keeps_lineage {policy : AssertedPolicy} {hub : FleetHub}
    (lineage : HubLineage policy hub accepted) (observation : DeviceObservation) (nowMs : Int) :
    HubLineage policy (hub.handle (.observe observation nowMs)).1
      (accepted ++ acceptedBy hub (.observe observation nowMs)
        (hub.handle (.observe observation nowMs)).2) := by
  rcases acceptObservation_cases hub observation nowMs with
    ⟨_, _, _, _, _, rejected⟩ | ⟨clear, _, admitted⟩
  · simp only [FleetHub.handle, answeredBy, rejected, FleetHub.recordDecision, acceptedBy, accepts,
      Bool.false_eq_true, if_false, List.append_nil]
    exact ⟨lineage.limits, lineage.device⟩
  · have fits := admitted_record_fits nowMs lineage clear
    simp only [FleetHub.handle, answeredBy, admitted, admitObservation_fits hub observation nowMs fits,
      FleetHub.recordDecision, FleetHub.recordEvent, acceptedBy, accepts, if_true]
    refine ⟨lineage.limits, fun deviceId => ?_⟩
    by_cases same : observation.identity.deviceId = deviceId
    · subst same
      have extended := lineage_extends hub nowMs lineage.positive (lineage.device _) clear
      simpa [BTreeMap.lookup_insert_self, ofDevice] using extended
    · have untouched := lineage.device deviceId
      simpa [BTreeMap.lookup_insert_of_ne _ _ (Ne.symm same), ofDevice, same] using untouched

theorem call_keeps_lineage {policy : AssertedPolicy} {hub : FleetHub}
    (lineage : HubLineage policy hub accepted) (call : HubCall) :
    HubLineage policy (hub.handle call).1 (accepted ++ acceptedBy hub call (hub.handle call).2) := by
  by_cases observes : ∃ observation nowMs, call = .observe observation nowMs
  · obtain ⟨observation, nowMs, rfl⟩ := observes
    exact observation_keeps_lineage lineage observation nowMs
  · have other : ∀ observation nowMs, call ≠ .observe observation nowMs :=
      fun observation nowMs same => observes ⟨observation, nowMs, same⟩
    have nothing : acceptedBy hub call (hub.handle call).2 = [] := by
      cases call with
      | observe observation nowMs => exact absurd rfl (other observation nowMs)
      | _ => rfl
    rw [nothing, List.append_nil]
    refine ⟨?_, fun deviceId => ?_⟩
    · rw [FleetHub.handle_policy]
      exact lineage.limits
    · rw [FleetHub.handle_policy, FleetHub.handle_devices hub call other]
      exact lineage.device deviceId

theorem run_lineage (policy : AssertedPolicy) (calls : List HubCall) :
    HubLineage policy (fleetHubMachine.run (.new policy) calls)
      (fleetHubMachine.history acceptedBy (.new policy) calls) := by
  have start : HubLineage policy (.new policy) [] := by
    refine ⟨rfl, fun deviceId => ?_⟩
    simpa [FleetHub.new, ofDevice] using lineage_empty policy.val.sourceEpochLimitPerDevice
  have carried := fleetHubMachine.run_history acceptedBy (fun _ _ => True) (HubLineage policy)
    (fun hub call accepted _ lineage => call_keeps_lineage lineage call)
    (.new policy) calls [] (fleetHubMachine.admits_true _ _) start
  simpa using carried

/-- What every run of a fresh Hub guarantees about the observations it accepted for one device. -/
theorem observation_lineage (policy : AssertedPolicy) (calls : List HubCall) (deviceId : String) :
    let hub := fleetHubMachine.run (.new policy) calls
    let accepted := ofDevice deviceId (fleetHubMachine.history acceptedBy (.new policy) calls)
    let seen := seenEpochs hub.devices[deviceId]?
    accepted.Pairwise (fun a b => EpochLog.Before seen (stamp a) (stamp b)) ∧
      accepted.Pairwise (fun a b => stamp a ≠ stamp b) ∧
      (∀ a b c, [a, b, c].Sublist accepted → a.sourceEpoch ≠ b.sourceEpoch →
        c.sourceEpoch ≠ a.sourceEpoch) ∧
      accepted.Pairwise (fun a b => sameLineage a b → a.receivedTimeMs ≤ b.receivedTimeMs) ∧
      seen.Nodup ∧
      (∀ record, hub.devices[deviceId]? = some record → record.observation.sourceEpoch ∈ seen) ∧
      seen.length ≤ policy.val.sourceEpochLimitPerDevice ∧
      (∀ observation nowMs, ∃ decision, (hub.acceptObservation observation nowMs).1 = .ok decision) ∧
      accepted.Pairwise (fun a b => identityDescriptionDiffers b a →
        a.identity.identityRevision < b.identity.identityRevision) := by
  intro hub accepted seen
  have lineage := run_lineage policy calls
  have device := lineage.device deviceId
  have increasing := List.pairwise_map.mp device.history.increasing
  refine ⟨increasing, ?_, ?_, device.received, device.history.distinct, ?_, ?_, ?_, device.described⟩
  · refine increasing.imp fun {a b} before same => ?_
    rw [same] at before
    exact EpochLog.Before.irrefl _ _ before
  · intro a b c order moved
    exact device.history.no_return (order.map stamp) moved
  · intro record stored
    have current := device
    rw [stored] at current
    simpa [seen, seenEpochs, stored] using current.current_seen
  · rw [← lineage.limits]
    exact device.bounded
  · exact acceptObservation_returns lineage

end RustyFleet.Lineage

import RustyFleet.Hub.State

namespace RustyFleet

def watchEventSchema := "rusty.fleet.watch_event.v1"

/-- The longest suffix of a list that respects a limit. -/
def newest {α : Type} (limit : Nat) (values : List α) : List α := values.drop (values.length - limit)

@[simp] theorem newest_length {α : Type} (limit : Nat) (values : List α) :
    (newest limit values).length = min limit values.length := by
  simp only [newest, List.length_drop]
  omega

theorem newest_sublist {α : Type} (limit : Nat) (values : List α) : (newest limit values).Sublist values :=
  List.drop_sublist _ _

def identityDescriptionDiffers (observation existing : DeviceObservation) : Prop :=
  observation.identity.displayName ≠ existing.identity.displayName ∨
    observation.identity.model ≠ existing.identity.model ∨
    observation.identity.hardwareClass ≠ existing.identity.hardwareClass

instance (observation existing : DeviceObservation) :
    Decidable (identityDescriptionDiffers observation existing) :=
  inferInstanceAs (Decidable (_ ∨ _))

def observationRejection (sourceEpochLimit : Nat) (existing : DeviceRecord)
    (observation : DeviceObservation) : Option RejectionReason :=
  let current := existing.observation
  let revision := observation.identity.identityRevision
  let currentRevision := current.identity.identityRevision
  if revision = currentRevision ∧ identityDescriptionDiffers observation current then
    some .identityConflict
  else if revision < currentRevision then some .identityRevisionRollback
  else if revision > currentRevision ∧ observation.sourceRevision ≠ 1 then
    some .identityRevisionChangedWithoutRestart
  else if observation.sourceEpoch ≠ current.sourceEpoch ∧
      observation.sourceEpoch ∈ existing.seenSourceEpochs then
    some .sourceEpochReplay
  else if observation.sourceEpoch ≠ current.sourceEpoch ∧
      existing.seenSourceEpochs.length ≥ sourceEpochLimit then
    some .sourceEpochEvidenceLimitExceeded
  else if revision = currentRevision ∧ observation.sourceEpoch ≠ current.sourceEpoch ∧
      observation.sourceRevision ≠ 1 then
    some .sourceEpochChangedWithoutRestart
  else if revision = currentRevision ∧ observation.sourceEpoch = current.sourceEpoch ∧
      observation.sourceRevision = current.sourceRevision then
    some .duplicateRevision
  else if revision = currentRevision ∧ observation.sourceEpoch = current.sourceEpoch ∧
      observation.sourceRevision < current.sourceRevision then
    some .staleRevision
  else if revision = currentRevision ∧ observation.sourceEpoch = current.sourceEpoch ∧
      observation.receivedTimeMs < current.receivedTimeMs then
    some .receiveTimeRegression
  else none

/-- The epoch evidence after an accepted observation; the newest epoch is last. -/
def extendedSourceEpochs (seen : List String) (epoch : String) : List String :=
  if epoch ∈ seen then seen else seen ++ [epoch]

namespace FleetHub

variable (hub : FleetHub)

def recordEvent (observedAtMs : Int) (decision : ObservationDecision) : FleetHub :=
  let eventSequence := saturatingSucc hub.eventSequence
  { hub with
    eventSequence := eventSequence
    events := newest hub.policy.eventLimit
      (hub.events ++ [⟨watchEventSchema, eventSequence, observedAtMs, decision⟩]) }

def recordDecision (observedAtMs : Int) (decision : ObservationDecision) :
    HubResult ObservationDecision × FleetHub :=
  (.ok decision, hub.recordEvent observedAtMs decision)

def rejectedContract (observation : DeviceObservation) (failures : List ContractViolation) :
    ObservationDecision :=
  .rejected hub.resultRevision (nonempty observation.identity.deviceId)
    (if observation.sourceRevision > 0 then some observation.sourceRevision else none) .contractInvalid
    (failures.map fun failure => failure.code ++ ":" ++ failure.path ++ ":" ++ failure.message)

def rejectedObservation (observation : DeviceObservation) (reason : RejectionReason) : ObservationDecision :=
  .rejected hub.resultRevision (some observation.identity.deviceId) (some observation.sourceRevision)
    reason []

/-- The record an accepted observation leaves behind under the Hub's next result revision. -/
def acceptedRecord (observation : DeviceObservation) (nowMs : Int) : DeviceRecord :=
  let existing := hub.devices[observation.identity.deviceId]?
  { observation := observation
    acceptedAtMs := nowMs
    acceptedRevision := saturatingSucc hub.resultRevision
    conditionHistory := newest hub.policy.historyLimitPerDevice
      ((existing.map (·.conditionHistory)).getD [] ++ observation.conditions)
    seenSourceEpochs := extendedSourceEpochs ((existing.map (·.seenSourceEpochs)).getD [])
      observation.sourceEpoch }

/-- The tail of `accept_observation` once nothing rejects the observation. -/
def admitObservation (observation : DeviceObservation) (nowMs : Int) :
    HubResult ObservationDecision × FleetHub :=
  let record := hub.acceptedRecord observation nowMs
  let counted := { hub with resultRevision := saturatingSucc hub.resultRevision }
  if record.seenSourceEpochs.length ≤ hub.policy.sourceEpochLimitPerDevice then
    let stored := { counted with
      devices := hub.devices.insert observation.identity.deviceId record }
    stored.recordDecision nowMs
      (.accepted stored.resultRevision observation.identity.deviceId observation.sourceRevision)
  else (panicWith "new source epochs must fail closed when evidence is full", counted)

variable [ObservationCodec]

def acceptObservation (observation : DeviceObservation) (nowMs : Int) :
    HubResult ObservationDecision × FleetHub :=
  match validate observation with
  | .error failures => hub.recordDecision nowMs (hub.rejectedContract observation failures)
  | .ok _ =>
    match hub.devices[observation.identity.deviceId]?.bind fun existing =>
      observationRejection hub.policy.sourceEpochLimitPerDevice existing observation with
    | some reason => hub.recordDecision nowMs (hub.rejectedObservation observation reason)
    | none => hub.admitObservation observation nowMs

end FleetHub

end RustyFleet

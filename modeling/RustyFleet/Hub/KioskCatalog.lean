import RustyFleet.Hub.State

namespace RustyFleet

/-- `path:code` for every failure, comma separated. -/
def catalogFailureSummary (failures : List ContractViolation) : String :=
  ",".intercalate (failures.map fun failure => failure.path ++ ":" ++ failure.code)

/-- The profile grammar the Hub checks when it sets up an association and when it restores one. -/
def isCatalogProfileId (profileId : String) : Bool := validToken profileId 8 128

def isCatalogOwnerEpoch (owner : String) : Bool :=
  16 ≤ owner.utf8ByteSize && owner.utf8ByteSize ≤ 96 && owner.toList.all isOwnerEpochByte

def ProductionKioskCatalogAdmission.association (admission : ProductionKioskCatalogAdmission)
    (profileId : String) : KioskCatalogAssociation where
  identityRevision := admission.snapshot.identityRevision
  profileId := profileId
  ownerEpoch := admission.snapshot.kioskOwnerEpoch

/-- The capability evidence a production catalog must have been read under. -/
def catalogCapabilityCurrent (capability : CapabilityState) (admission : ProductionKioskCatalogAdmission)
    (receivedAtMs : Int) : Prop :=
  capability.owner = "rusty-kiosk" ∧ capability.isReady = true ∧
    capability.evidenceRevision = admission.binding.capabilityEvidenceRevision ∧
    receivedAtMs ≤ capability.freshUntilMs

instance (capability : CapabilityState) (admission : ProductionKioskCatalogAdmission) (receivedAtMs : Int) :
    Decidable (catalogCapabilityCurrent capability admission receivedAtMs) :=
  inferInstanceAs (Decidable (_ ∧ _))

namespace FleetHub

variable (hub : FleetHub) [UnicodeLowercase]

def requireCatalogAdvance (snapshot : KioskCatalogSnapshot) (receivedAtMs : Int) : HubResult Unit :=
  match hub.kioskCatalogs[snapshot.deviceId]? with
  | none => .ok ()
  | some existing => do
    rejectIf (receivedAtMs < existing.receivedAtMs) "kiosk_catalog_receive_time_regression"
      "catalog receive time cannot regress"
    rejectIf (snapshot.observedAtMs ≤ existing.snapshot.observedAtMs)
      "kiosk_catalog_observation_regression" "catalog owner observation time must increase"

def acceptKioskCatalogInternal (snapshot : KioskCatalogSnapshot) (receivedAtMs : Int) :
    HubResult FleetHub := do
  rejectIf (¬ Valid snapshot) "kiosk_catalog_invalid" (catalogFailureSummary (violations snapshot))
  rejectIf (receivedAtMs < snapshot.observedAtMs) "kiosk_catalog_receive_time_invalid"
    "catalog receive time cannot precede its owner observation"
  let device ← orRefuse hub.devices[snapshot.deviceId]? "kiosk_catalog_device_unknown"
    "catalog device is not enrolled in Fleet"
  rejectIf (device.observation.identity.identityRevision ≠ snapshot.identityRevision)
    "kiosk_catalog_identity_mismatch" "catalog does not bind the current Fleet identity revision"
  hub.requireCatalogAdvance snapshot receivedAtMs
  rejectIf (¬ hub.kioskCatalogs.contains snapshot.deviceId ∧ hub.kioskCatalogs.size ≥ maxKioskCatalogs)
    "kiosk_catalog_full" "catalogue observation capacity reached"
  return { hub with
    kioskCatalogs := hub.kioskCatalogs.insert snapshot.deviceId
      { snapshot := snapshot
        receivedAtMs := receivedAtMs
        sourceEpoch := device.observation.sourceEpoch
        productionAdmission := none }
    resultRevision := saturatingSucc hub.resultRevision }

/-- The retained record of the catalog gets its production binding, and its replay identity is spent. -/
def bindProductionAdmission (deviceId : String) (binding : KioskV2CatalogAdmissionBinding) :
    HubResult FleetHub := do
  let record ← orRefuse hub.kioskCatalogs[deviceId]? "kiosk_production_catalog_internal"
    "production catalog was not retained after validation"
  return { hub with
    kioskCatalogs := hub.kioskCatalogs.insert deviceId { record with productionAdmission := some binding }
    seenKioskCatalogReplayIdentities :=
      hub.seenKioskCatalogReplayIdentities.insert binding.replayIdentity }

def acceptProductionKioskCatalog (admission : ProductionKioskCatalogAdmission) (receivedAtMs : Int) :
    HubResult FleetHub := do
  rejectIf (¬ Valid admission) "kiosk_production_catalog_invalid"
    (catalogFailureSummary (violations admission))
  rejectIf (receivedAtMs < admission.binding.issuedAtMs ∨ receivedAtMs > admission.binding.expiresAtMs ∨
      receivedAtMs < admission.snapshot.observedAtMs ∨ receivedAtMs > admission.snapshot.freshUntilMs)
    "kiosk_production_catalog_expired"
    "production catalog admission is outside its exact verified freshness window"
  rejectIf (hub.seenKioskCatalogReplayIdentities.contains admission.binding.replayIdentity)
    "kiosk_production_catalog_replay"
    "production Kiosk catalog replay identity was already consumed"
  rejectIf (hub.seenKioskCatalogReplayIdentities.size ≥ maxKioskCatalogReplayIdentities)
    "kiosk_production_catalog_replay_evidence_full"
    "production Kiosk catalog replay evidence reached its durable bound"
  let device ← orRefuse hub.devices[admission.snapshot.deviceId]? "kiosk_catalog_device_unknown"
    "production catalog device is not enrolled in Fleet"
  let capability ← orRefuse (device.observation.capabilities.get admission.binding.capabilityId)
    "kiosk_production_capability_absent" "production catalog lacks current Kiosk capability evidence"
  rejectIf (¬ catalogCapabilityCurrent capability admission receivedAtMs)
    "kiosk_production_capability_mismatch"
    "production catalog does not bind current ready Kiosk capability evidence"
  let candidate ← hub.acceptKioskCatalogInternal admission.snapshot receivedAtMs
  candidate.bindProductionAdmission admission.snapshot.deviceId admission.binding

def profiledCatalogEdit (admission : ProductionKioskCatalogAdmission) (profileId : String)
    (receivedAtMs : Int) : HubResult FleetHub := do
  let deviceId := admission.snapshot.deviceId
  let association := admission.association profileId
  rejectIf (hub.kioskCatalogAssociations[deviceId]?.any (· != association)) "kiosk_catalog_setup_required"
    "stored identity, profile or owner association differs; explicit setup required"
  rejectIf (¬ isCatalogProfileId profileId ∨
      (¬ hub.kioskCatalogAssociations.contains deviceId ∧
        hub.kioskCatalogAssociations.size ≥ maxKioskCatalogs))
    "kiosk_catalog_setup_invalid" "profile association is invalid or full"
  let candidate ← hub.acceptProductionKioskCatalog admission receivedAtMs
  return { candidate with
    kioskCatalogAssociations := candidate.kioskCatalogAssociations.insert deviceId association }

def acceptProfiledKioskCatalog (admission : ProductionKioskCatalogAdmission) (profileId : String)
    (receivedAtMs : Int) : HubResult Unit × FleetHub :=
  match hub.profiledCatalogEdit admission profileId receivedAtMs with
  | .error fault => (.error fault, hub)
  | .ok candidate => (.ok (), candidate)

end FleetHub

end RustyFleet

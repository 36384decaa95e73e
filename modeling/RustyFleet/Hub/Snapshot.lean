import RustyFleet.Hub.Observations
import RustyFleet.Hub.SavedViews
import RustyFleet.Hub.KioskCatalog

namespace RustyFleet

def hubSnapshotSchema := "rusty.fleet.hub_snapshot.v1"

structure FleetHubSnapshot where
  schema : String
  policy : HubPolicy
  devices : BTreeMap String DeviceRecord
  resultRevision : Nat
  eventSequence : Nat
  events : List WatchEvent
  savedViewRevision : Nat
  savedViews : BTreeMap String SavedView
  kioskOperations : BTreeMap String KioskShowControlsOperation
  packageOperations : BTreeMap String PackageInstallReleaseOperation
  packageOperationArchives : BTreeMap String PackageInstallReleaseArchive
  awakeOperations : BTreeMap String QuestAwakeOperation
  wifiAdbOperations : BTreeMap String QuestWifiAdbOperation
  windowsHotspotOperations : BTreeMap String WindowsHotspotOperation
  windowsHotspotObservation : Option WindowsHotspotObservedState
  kioskCatalogs : BTreeMap String KioskCatalogRecord
  seenKioskCatalogReplayIdentities : BTreeSet String
  kioskCatalogAssociations : BTreeMap String KioskCatalogAssociation

def FleetHub.snapshot (hub : FleetHub) : FleetHubSnapshot where
  schema := hubSnapshotSchema
  policy := hub.policy
  devices := hub.devices
  resultRevision := hub.resultRevision
  eventSequence := hub.eventSequence
  events := hub.events
  savedViewRevision := hub.savedViewRevision
  savedViews := hub.savedViews
  kioskOperations := hub.kioskOperations
  packageOperations := hub.packageOperations
  packageOperationArchives := hub.packageOperationArchives
  awakeOperations := hub.awakeOperations
  wifiAdbOperations := hub.wifiAdbOperations
  windowsHotspotOperations := hub.windowsHotspotOperations
  windowsHotspotObservation := hub.windowsHotspotObservation
  kioskCatalogs := hub.kioskCatalogs
  seenKioskCatalogReplayIdentities := hub.seenKioskCatalogReplayIdentities
  kioskCatalogAssociations := hub.kioskCatalogAssociations

namespace FleetHubSnapshot

variable (snapshot : FleetHubSnapshot)

/-- The Hub whose fields a snapshot lists. -/
def contents : FleetHub where
  policy := snapshot.policy
  devices := snapshot.devices
  resultRevision := snapshot.resultRevision
  eventSequence := snapshot.eventSequence
  events := snapshot.events
  savedViewRevision := snapshot.savedViewRevision
  savedViews := snapshot.savedViews
  kioskOperations := snapshot.kioskOperations
  packageOperations := snapshot.packageOperations
  packageOperationArchives := snapshot.packageOperationArchives
  awakeOperations := snapshot.awakeOperations
  wifiAdbOperations := snapshot.wifiAdbOperations
  windowsHotspotOperations := snapshot.windowsHotspotOperations
  windowsHotspotObservation := snapshot.windowsHotspotObservation
  kioskCatalogs := snapshot.kioskCatalogs
  seenKioskCatalogReplayIdentities := snapshot.seenKioskCatalogReplayIdentities
  kioskCatalogAssociations := snapshot.kioskCatalogAssociations

def limitsInvalid (policy : HubPolicy) : Prop :=
  snapshot.resultRevision = 0 ∨ snapshot.events.length > policy.eventLimit ∨
    ∃ event ∈ snapshot.events.getLast?, event.eventSequence > snapshot.eventSequence

instance (policy : HubPolicy) : Decidable (snapshot.limitsInvalid policy) :=
  inferInstanceAs (Decidable (_ ∨ _))

/-- Some neighbouring events are out of order, or some event has another schema. -/
def eventsDisordered : List WatchEvent → Bool
  | [] => false
  | [event] => event.schema != watchEventSchema
  | event :: next :: rest =>
    event.eventSequence ≥ next.eventSequence || event.schema != watchEventSchema ||
      eventsDisordered (next :: rest)

variable [ObservationCodec] [UnicodeLowercase] [OperationDigest] [Sha256Hex]

omit [UnicodeLowercase] [OperationDigest] [Sha256Hex] in
def deviceInvalid (policy : HubPolicy) (deviceId : String) (record : DeviceRecord) : Bool :=
  decide (record.observation.identity.deviceId ≠ deviceId) || !decide (Valid record.observation) ||
    decide (record.acceptedAtMs < 0) || record.acceptedRevision == 0 ||
    record.acceptedRevision > snapshot.resultRevision ||
    record.conditionHistory.length > policy.historyLimitPerDevice ||
    record.seenSourceEpochs.isEmpty ||
    record.seenSourceEpochs.length > policy.sourceEpochLimitPerDevice ||
    !record.seenSourceEpochs.contains record.observation.sourceEpoch ||
    !decide record.seenSourceEpochs.Nodup ||
    record.conditionHistory.any fun condition => !decide (Valid condition)

def associationInvalid (deviceId : String) (association : KioskCatalogAssociation) : Bool :=
  !snapshot.devices.contains deviceId || association.identityRevision == 0 ||
    !isCatalogProfileId association.profileId || !isCatalogOwnerEpoch association.ownerEpoch

def replayIdentityInvalid (identity : String) : Bool :=
  identity.utf8ByteSize != 64 || !identity.toList.all isLowerHex

def admissionUnbound (deviceId : String) (record : KioskCatalogRecord)
    (binding : KioskV2CatalogAdmissionBinding) : Bool :=
  decide (record.receivedAtMs < binding.issuedAtMs) || decide (record.receivedAtMs > binding.expiresAtMs) ||
    decide (record.receivedAtMs > record.snapshot.freshUntilMs) ||
    !snapshot.seenKioskCatalogReplayIdentities.contains binding.replayIdentity ||
    snapshot.kioskCatalogAssociations[deviceId]?.all (fun association =>
      association.identityRevision != record.snapshot.identityRevision ||
        association.ownerEpoch != record.snapshot.kioskOwnerEpoch) ||
    !decide (Valid (ProductionKioskCatalogAdmission.mk binding record.snapshot))

def catalogInvalid (deviceId : String) (record : KioskCatalogRecord) : Bool :=
  decide (deviceId ≠ record.snapshot.deviceId) || record.sourceEpoch.isEmpty ||
    !decide (Valid record.snapshot) || decide (record.receivedAtMs < record.snapshot.observedAtMs) ||
    record.productionAdmission.all (snapshot.admissionUnbound deviceId record)

def catalogsInvalid : Prop :=
  snapshot.kioskCatalogs.size > maxKioskCatalogs ∨
    snapshot.kioskCatalogAssociations.size > maxKioskCatalogs ∨
    snapshot.seenKioskCatalogReplayIdentities.size > maxKioskCatalogReplayIdentities ∨
    (∃ identity ∈ snapshot.seenKioskCatalogReplayIdentities.toList, replayIdentityInvalid identity) ∨
    BTreeMap.anyEntry snapshot.kioskCatalogAssociations snapshot.associationInvalid ∨
    BTreeMap.anyEntry snapshot.kioskCatalogs snapshot.catalogInvalid

instance : Decidable snapshot.catalogsInvalid := inferInstanceAs (Decidable (_ ∨ _))

def savedViewsInvalid : Prop :=
  ¬ Valid snapshot.contents.savedViewCollection ∨ snapshot.savedViews.size > maxSavedViews ∨
    BTreeMap.anyEntry snapshot.savedViews fun viewId view => view.viewId != viewId

instance : Decidable snapshot.savedViewsInvalid := inferInstanceAs (Decidable (_ ∨ _))

/-- A Kiosk target that is not settled must still be the device the directory knows. -/
def kioskTargetDrifted (target : KioskShowControlsTargetLedger) : Bool :=
  !target.lifecycle.isSettled && snapshot.devices[target.deviceId]?.all fun record =>
    record.observation.identity.identityRevision != target.identityRevision

def kioskOperationInvalid (operationId : String) (operation : KioskShowControlsOperation) : Bool :=
  decide (operationId ≠ operation.operationId) || !decide (Valid operation) ||
    operation.preview.fleetRevision > snapshot.resultRevision ||
    operation.targets.any snapshot.kioskTargetDrifted

def packageOperationInvalid (operationId : String) (operation : PackageInstallReleaseOperation) : Bool :=
  decide (operationId ≠ operation.operationId) || !decide (Valid operation) ||
    operation.preview.fleetRevision > snapshot.resultRevision

def archiveInvalid (operationId : String) (archive : PackageInstallReleaseArchive) : Bool :=
  decide (operationId ≠ archive.operationId) || !decide (Valid archive) ||
    archive.operation.preview.fleetRevision > snapshot.resultRevision ||
    snapshot.packageOperations.contains operationId

def awakeOperationInvalid (operationId : String) (operation : QuestAwakeOperation) : Bool :=
  decide (operationId ≠ operation.operationId) || !decide (Valid operation) ||
    operation.preview.fleetRevision > snapshot.resultRevision

def wifiAdbOperationInvalid (operationId : String) (operation : QuestWifiAdbOperation) : Bool :=
  decide (operationId ≠ operation.operationId) || !decide (Valid operation) ||
    operation.preview.fleetRevision > snapshot.resultRevision

def hotspotOperationInvalid (operationId : String) (operation : WindowsHotspotOperation) : Bool :=
  decide (operationId ≠ operation.operationId) || !decide (Valid operation) ||
    operation.preview.fleetRevision > snapshot.resultRevision

/-- The operations that hold the one host resource. -/
def activeHotspots : Nat :=
  (BTreeMap.storedValues snapshot.windowsHotspotOperations).countP (·.isActive)

/-- A ledger is refused when it is over its limit or holds an operation the contract refuses. -/
def ledgerInvalid {α : Type} (stored : BTreeMap String α) (limit : Nat) (invalid : String → α → Bool) :
    Prop :=
  stored.size > limit ∨ BTreeMap.anyEntry stored invalid = true

instance {α : Type} (stored : BTreeMap String α) (limit : Nat) (invalid : String → α → Bool) :
    Decidable (ledgerInvalid stored limit invalid) :=
  inferInstanceAs (Decidable (_ ∨ _))

end FleetHubSnapshot

namespace FleetHub

open FleetHubSnapshot

variable [ObservationCodec] [UnicodeLowercase] [OperationDigest] [Sha256Hex]

/-- The first device record the snapshot's own checks refuse, in key order. -/
def requireSnapshotDevices (policy : HubPolicy) (snapshot : FleetHubSnapshot) :
    List (String × DeviceRecord) → HubResult Unit
  | [] => .ok ()
  | (deviceId, record) :: rest => do
    rejectIf (snapshot.deviceInvalid policy deviceId record) "snapshot_device_invalid"
      ("Fleet Hub snapshot record is invalid for " ++ deviceId)
    requireSnapshotDevices policy snapshot rest

def restore (policy : HubPolicy) (snapshot : FleetHubSnapshot) : HubResult FleetHub := do
  rejectIf (snapshot.schema ≠ hubSnapshotSchema) "snapshot_schema_invalid"
    "Fleet Hub snapshot schema is not supported"
  rejectIf (snapshot.policy ≠ policy) "snapshot_policy_mismatch"
    "Fleet Hub snapshot policy does not match current configuration"
  rejectIf (snapshot.limitsInvalid policy) "snapshot_limits_invalid"
    "Fleet Hub snapshot revisions or event limits are invalid"
  rejectIf (eventsDisordered snapshot.events) "snapshot_events_invalid"
    "Fleet Hub snapshot events are not strictly ordered"
  requireSnapshotDevices policy snapshot snapshot.devices.toList
  rejectIf snapshot.catalogsInvalid "snapshot_catalog_invalid" "catalogue or replay state is invalid"
  rejectIf snapshot.savedViewsInvalid "snapshot_saved_views_invalid"
    "Fleet Hub snapshot saved views are invalid or exceed their limit"
  rejectIf (ledgerInvalid snapshot.kioskOperations maxKioskOperations snapshot.kioskOperationInvalid)
    "snapshot_kiosk_operations_invalid"
    "Fleet Hub snapshot Kiosk operations are invalid or exceed their limit"
  rejectIf (ledgerInvalid snapshot.packageOperations maxPackageOperations
      snapshot.packageOperationInvalid)
    "snapshot_package_operations_invalid"
    "Fleet Hub snapshot package operations are invalid or exceed their limit"
  rejectIf (ledgerInvalid snapshot.packageOperationArchives maxArchivedPackageOperations
      snapshot.archiveInvalid)
    "snapshot_package_archives_invalid"
    "Fleet Hub snapshot package archives are invalid, overlap active operations, or exceed their limit"
  rejectIf (ledgerInvalid snapshot.awakeOperations maxAwakeOperations snapshot.awakeOperationInvalid)
    "snapshot_awake_operations_invalid"
    "Fleet Hub snapshot Quest awake operations are invalid or exceed their limit"
  rejectIf (ledgerInvalid snapshot.wifiAdbOperations maxWifiAdbOperations
      snapshot.wifiAdbOperationInvalid)
    "snapshot_wifi_adb_operations_invalid"
    "Fleet Hub snapshot Quest Wi-Fi ADB operations are invalid or exceed their limit"
  rejectIf (ledgerInvalid snapshot.windowsHotspotOperations maxWindowsHotspotOperations
      snapshot.hotspotOperationInvalid ∨ snapshot.activeHotspots > 1)
    "snapshot_windows_hotspot_operations_invalid" "Fleet Hub snapshot Windows hotspot state is invalid"
  return { snapshot.contents with policy := policy }

end FleetHub

end RustyFleet

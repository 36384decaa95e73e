import RustyFleet.Adapter.Authority
import RustyFleet.Adapter.Sessions

namespace RustyFleet

def kioskShowControlsParamsTypeId := "rusty.fleet.kiosk.show-controls.params.v1"
def packagesInstallReleaseParamsTypeId := "rusty.fleet.packages.install-release.params.v1"
def questAwakeParamsTypeId := "rusty.fleet.quest.awake-control.params.v1"
def questWifiAdbParamsTypeId := "rusty.fleet.quest.wifi-adb-control.params.v1"
def windowsHotspotParamsTypeId := "rusty.fleet.windows-hotspot.params.v1"

def maxKioskCommandLifetimeMs : Nat := 90000
def maxPackageCommandLifetimeMs : Nat := 15 * 60000
def maxQuestAwakeCommandLifetimeMs : Nat := 15 * 60000
def maxQuestWifiAdbCommandLifetimeMs : Nat := 15 * 60000
def maxWindowsHotspotCommandLifetimeMs : Nat := 5 * 60000

/-- The typed parameters a command's digest covers. -/
inductive FleetCommandParams
  | kiosk (schema operationId previewId actionId deviceId : String) (identityRevision : Nat)
  | package (schema operationId previewId actionId deviceId : String) (identityRevision : Nat)
      (release : PackageReleaseReference) (expectedPackageName expectedRolloutRing : String)
  | awake (schema operationId previewId actionId deviceId : String) (identityRevision : Nat)
      (action : QuestAwakeAction) (durationMs watchdogIntervalMs : Nat) (watchdogGeneration : String)
  | wifiAdb (schema operationId previewId actionId deviceId : String) (identityRevision : Nat)
      (action : QuestWifiAdbAction)
  | hotspot (schema operationId previewId actionId resourceId leaseId leaseGeneration : String)
      (action : WindowsHotspotAction) (ownershipGeneration : Option String)

structure ManifoldRuntimeTypedParamsDigest where
  schemaId : String
  paramsTypeId : String
  canonicalSha256 : String
  canonicalSizeBytes : Nat
deriving DecidableEq

structure ManifoldRuntimeCommandRequest where
  schemaId : String
  requestId : String
  expectedAuthorityRevision : Nat
  requesterId : String
  commandId : String
  leaseId : Option String
  paramsDigest : Option ManifoldRuntimeTypedParamsDigest
  issuedAtMs : Nat
  expiresAtMs : Nat
deriving DecidableEq

structure ManifoldRuntimeDispatchReceipt where
  ready : Bool
  rejectionReason : String
  document : JsonValue
deriving DecidableEq

structure ManifoldRuntimeApplicationReceipt where
  applied : Bool
  rejectionReason : String
  document : JsonValue
deriving DecidableEq

structure CommandAuthorityReceipt where
  request : ManifoldRuntimeCommandRequest
  dispatch : ManifoldRuntimeDispatchReceipt
  application : ManifoldRuntimeApplicationReceipt
deriving DecidableEq

/-- What the five authorizations take from the Manifold runtime host and the serialisation crates. -/
class AuthorityEnvironment extends FleetEnvironment where
  hostCommandRequestSchema : String
  hostTypedParamsDigestSchema : String
  dottedIdError : String → String
  canonicalParams : FleetCommandParams → Except String Bytes
  reviewCommand : ManifoldRuntimeHostSnapshot → ManifoldRuntimeCommandRequest → (nowMs : Nat) →
    ManifoldRuntimeHostSnapshot × ManifoldRuntimeDispatchReceipt
  applyDispatch : ManifoldRuntimeHostSnapshot → ManifoldRuntimeCommandRequest →
    ManifoldRuntimeDispatchReceipt → (nowMs : Nat) →
      ManifoldRuntimeHostSnapshot × ManifoldRuntimeApplicationReceipt

section RequestIds

variable [ManifoldEnvironment]

def questAwakeManifoldRequestId (operationId deviceId ownerActionRequestId : String) : String :=
  "request.fleet.quest-awake." ++ sha256Hex
    (separatedBytes "rusty.fleet.quest-awake.manifold-request.v1"
      [operationId, deviceId, ownerActionRequestId])

def questWifiAdbManifoldRequestId (operationId deviceId ownerActionRequestId : String) : String :=
  "request.fleet.quest-wifi-adb." ++ sha256Hex
    (separatedBytes "rusty.fleet.quest-wifi-adb.manifold-request.v1"
      [operationId, deviceId, ownerActionRequestId])

def windowsHotspotManifoldRequestId (operationId leaseId ownerActionRequestId : String) : String :=
  "request.fleet.windows-hotspot." ++ sha256Hex
    (separatedBytes "rusty.fleet.windows-hotspot.manifold-request.v1"
      [operationId, leaseId, ownerActionRequestId])

end RequestIds

/-- How one of the five commands words its refusals and bounds its parameters. -/
structure CommandProfile where
  commandId : String
  paramsTypeId : String
  maxParamsBytes : Nat
  invalidMessage : String
  unboundMessage : String
  notCanonicalizable : String
  tooLargeMessage : String
  reviewRejected : String
  applicationRejected : String

/-- The fields every authorization carries. -/
structure CommandHeader where
  manifoldRequestId : String
  ownerActionRequestId : String
  requesterId : String
  issuedAtMs : Nat
  expiresAtMs : Nat

/-- A validity window around the present, no longer than the command's lifetime. -/
def commandWindowOpen (header : CommandHeader) (nowMs maxLifetimeMs : Nat) : Prop :=
  header.issuedAtMs ≤ nowMs ∧ nowMs < header.expiresAtMs ∧ header.issuedAtMs < header.expiresAtMs ∧
    header.expiresAtMs - header.issuedAtMs ≤ maxLifetimeMs

instance (header : CommandHeader) (nowMs maxLifetimeMs : Nat) :
    Decidable (commandWindowOpen header nowMs maxLifetimeMs) :=
  inferInstanceAs (Decidable (_ ∧ _))

def commandIdBounded (value : String) : Prop := ¬ value.isEmpty ∧ value.utf8ByteSize ≤ 256

instance (value : String) : Decidable (commandIdBounded value) := inferInstanceAs (Decidable (_ ∧ _))

namespace FleetManifoldAdapter

variable [AuthorityEnvironment] (adapter : FleetManifoldAdapter)

open ManifoldEnvironment AuthorityEnvironment

/-- The request the host reviews, once the adapter's own checks have passed. -/
def commandRequest (profile : CommandProfile) (header : CommandHeader) (valid bound : Prop)
    [Decidable valid] [Decidable bound] (params : FleetCommandParams) :
    Except String ManifoldRuntimeCommandRequest := do
  errorIf (¬ valid) profile.invalidMessage
  errorIf (¬ bound) profile.unboundMessage
  errorIf (adapter.runtimeHost.authorityRevision = u64Max)
    "Fleet runtime authority reached its terminal revision"
  let canonical ← (canonicalParams params).mapError (profile.notCanonicalizable ++ ·)
  errorIf (canonical = [] ∨ canonical.length > profile.maxParamsBytes) profile.tooLargeMessage
  errorIf (isDottedId header.manifoldRequestId = false)
    ("invalid Manifold request ID: " ++ dottedIdError header.manifoldRequestId)
  errorIf (isDottedId header.requesterId = false)
    ("invalid Manifold requester ID: " ++ dottedIdError header.requesterId)
  return {
    schemaId := hostCommandRequestSchema
    requestId := header.manifoldRequestId
    expectedAuthorityRevision := adapter.runtimeHost.authorityRevision
    requesterId := header.requesterId
    commandId := profile.commandId
    leaseId := none
    paramsDigest := some
      { schemaId := hostTypedParamsDigestSchema
        paramsTypeId := profile.paramsTypeId
        canonicalSha256 := "sha256:" ++ sha256Hex canonical
        canonicalSizeBytes := canonical.length }
    issuedAtMs := header.issuedAtMs
    expiresAtMs := header.expiresAtMs }

/-- The host reviews the request and applies what it found ready. -/
def dispatchCommand (profile : CommandProfile) (request : ManifoldRuntimeCommandRequest) (nowMs : Nat) :
    Except String CommandAuthorityReceipt × FleetManifoldAdapter :=
  let (reviewed, dispatch) := reviewCommand adapter.runtimeHost request nowMs
  if dispatch.ready = false then
    (.error (profile.reviewRejected ++ dispatch.rejectionReason), { adapter with runtimeHost := reviewed })
  else
    let (host, application) := applyDispatch reviewed request dispatch nowMs
    if application.applied = false then
      (.error (profile.applicationRejected ++ application.rejectionReason), { adapter with runtimeHost := host })
    else
      (.ok { request := request, dispatch := dispatch, application := application },
        { adapter with runtimeHost := host })

def authorizeCommand (profile : CommandProfile) (header : CommandHeader) (valid bound : Prop)
    [Decidable valid] [Decidable bound] (params : FleetCommandParams) (nowMs : Nat) :
    Except String CommandAuthorityReceipt × FleetManifoldAdapter :=
  match adapter.commandRequest profile header valid bound params with
  | .error text => (.error text, adapter)
  | .ok request => adapter.dispatchCommand profile request nowMs

end FleetManifoldAdapter

structure KioskShowControlsCommandAuthorization extends CommandHeader where
  operationId : String
  previewId : String
  deviceId : String
  identityRevision : Nat

def kioskCommandProfile : CommandProfile where
  commandId := kioskShowControlsActionId
  paramsTypeId := kioskShowControlsParamsTypeId
  maxParamsBytes := 4096
  invalidMessage := "Fleet Kiosk command authorization is invalid or expired"
  unboundMessage := "Fleet Kiosk Manifold request identity does not bind the owner action"
  notCanonicalizable := "Fleet Kiosk parameters are not canonicalizable: "
  tooLargeMessage := "Fleet Kiosk parameters exceed the Manifold command bound"
  reviewRejected := "Manifold rejected Fleet Kiosk dispatch review: "
  applicationRejected := "Manifold rejected Fleet Kiosk dispatch application: "

structure PackageInstallReleaseCommandAuthorization extends CommandHeader where
  operationId : String
  previewId : String
  deviceId : String
  identityRevision : Nat
  release : PackageReleaseReference
  expectedPackageName : String
  expectedRolloutRing : String

def packageCommandProfile : CommandProfile where
  commandId := packagesInstallReleaseActionId
  paramsTypeId := packagesInstallReleaseParamsTypeId
  maxParamsBytes := 8192
  invalidMessage := "Fleet package command authorization is invalid or expired"
  unboundMessage := "Fleet package Manifold request identity does not bind the owner action"
  notCanonicalizable := "Fleet package parameters are not canonicalizable: "
  tooLargeMessage := "Fleet package parameters exceed the Manifold command bound"
  reviewRejected := "Manifold rejected Fleet package dispatch review: "
  applicationRejected := "Manifold rejected Fleet package dispatch application: "

structure QuestAwakeCommandAuthorization extends CommandHeader where
  operationId : String
  previewId : String
  deviceId : String
  identityRevision : Nat
  action : QuestAwakeAction
  durationMs : Nat
  watchdogIntervalMs : Nat
  watchdogGeneration : String

def awakeCommandProfile : CommandProfile where
  commandId := questAwakeFamily.actionId
  paramsTypeId := questAwakeParamsTypeId
  maxParamsBytes := 8192
  invalidMessage := "Fleet Quest awake authorization is invalid or expired"
  unboundMessage := "Fleet Quest awake Manifold request identity does not bind the owner action"
  notCanonicalizable := "Fleet Quest awake parameters are not canonicalizable: "
  tooLargeMessage := "Fleet Quest awake parameters exceed the Manifold command bound"
  reviewRejected := "Manifold rejected Fleet Quest awake dispatch review: "
  applicationRejected := "Manifold rejected Fleet Quest awake dispatch application: "

structure QuestWifiAdbCommandAuthorization extends CommandHeader where
  operationId : String
  previewId : String
  deviceId : String
  identityRevision : Nat
  action : QuestWifiAdbAction

def wifiAdbCommandProfile [Sha256Hex] : CommandProfile where
  commandId := questWifiAdbFamily.actionId
  paramsTypeId := questWifiAdbParamsTypeId
  maxParamsBytes := 8192
  invalidMessage := "Fleet Quest Wi-Fi ADB authorization is invalid or expired"
  unboundMessage := "Fleet Quest Wi-Fi ADB Manifold request identity does not bind the owner action"
  notCanonicalizable := "Fleet Quest Wi-Fi ADB parameters are not canonicalizable: "
  tooLargeMessage := "Fleet Quest Wi-Fi ADB parameters exceed the Manifold command bound"
  reviewRejected := "Manifold rejected Fleet Quest Wi-Fi ADB dispatch review: "
  applicationRejected := "Manifold rejected Fleet Quest Wi-Fi ADB dispatch application: "

structure WindowsHotspotCommandAuthorization extends CommandHeader where
  operationId : String
  previewId : String
  leaseId : String
  leaseGeneration : String
  action : WindowsHotspotAction
  ownershipGeneration : Option String

def hotspotCommandProfile : CommandProfile where
  commandId := windowsHotspotActionId
  paramsTypeId := windowsHotspotParamsTypeId
  maxParamsBytes := 8192
  invalidMessage := "Fleet Windows hotspot authorization is invalid or expired"
  unboundMessage := "Fleet Windows hotspot request does not bind its exact lease and generation"
  notCanonicalizable := "hotspot parameters are not canonicalizable: "
  tooLargeMessage := "Fleet Windows hotspot parameters exceed the command bound"
  reviewRejected := "Manifold rejected Fleet Windows hotspot review: "
  applicationRejected := "Manifold rejected Fleet Windows hotspot application: "

/-- The ownership generation an action must, may or must not name. -/
def WindowsHotspotCommandAuthorization.generationsValid
    (authorization : WindowsHotspotCommandAuthorization) : Bool :=
  match authorization.action with
  | .status | .start => authorization.ownershipGeneration.isNone
  | .ensure => authorization.ownershipGeneration.all (!·.isEmpty)
  | .stop => authorization.ownershipGeneration.any (!·.isEmpty)

namespace FleetManifoldAdapter

variable [AuthorityEnvironment] (adapter : FleetManifoldAdapter)

def authorizeKioskShowControls (authorization : KioskShowControlsCommandAuthorization) (nowMs : Nat) :
    Except String CommandAuthorityReceipt × FleetManifoldAdapter :=
  adapter.authorizeCommand kioskCommandProfile authorization.toCommandHeader
    (commandIdBounded authorization.operationId ∧ commandIdBounded authorization.previewId ∧
      commandIdBounded authorization.deviceId ∧ authorization.identityRevision ≠ 0 ∧
      commandWindowOpen authorization.toCommandHeader nowMs maxKioskCommandLifetimeMs)
    (¬ authorization.ownerActionRequestId.isEmpty ∧ authorization.manifoldRequestId =
      kioskManifoldRequestId authorization.operationId authorization.deviceId
        authorization.ownerActionRequestId)
    (.kiosk "rusty.fleet.kiosk_show_controls_params.v1" authorization.operationId authorization.previewId
      kioskShowControlsActionId authorization.deviceId authorization.identityRevision) nowMs

def authorizePackageInstallRelease (authorization : PackageInstallReleaseCommandAuthorization)
    (nowMs : Nat) : Except String CommandAuthorityReceipt × FleetManifoldAdapter :=
  adapter.authorizeCommand packageCommandProfile authorization.toCommandHeader
    (commandIdBounded authorization.operationId ∧ commandIdBounded authorization.previewId ∧
      commandIdBounded authorization.deviceId ∧ authorization.identityRevision ≠ 0 ∧
      ¬ authorization.expectedPackageName.isEmpty ∧ authorization.expectedPackageName.utf8ByteSize ≤ 255 ∧
      ¬ authorization.expectedRolloutRing.isEmpty ∧ authorization.expectedRolloutRing.utf8ByteSize ≤ 128 ∧
      Valid authorization.release ∧
      commandWindowOpen authorization.toCommandHeader nowMs maxPackageCommandLifetimeMs)
    (¬ authorization.ownerActionRequestId.isEmpty ∧ authorization.manifoldRequestId =
      packageManifoldRequestId authorization.operationId authorization.deviceId
        authorization.ownerActionRequestId)
    (.package "rusty.fleet.package_install_release_params.v1" authorization.operationId
      authorization.previewId packagesInstallReleaseActionId authorization.deviceId
      authorization.identityRevision authorization.release authorization.expectedPackageName
      authorization.expectedRolloutRing) nowMs

def authorizeQuestAwake (authorization : QuestAwakeCommandAuthorization) (nowMs : Nat) :
    Except String CommandAuthorityReceipt × FleetManifoldAdapter :=
  adapter.authorizeCommand awakeCommandProfile authorization.toCommandHeader
    (commandIdBounded authorization.operationId ∧ commandIdBounded authorization.previewId ∧
      commandIdBounded authorization.deviceId ∧ commandIdBounded authorization.watchdogGeneration ∧
      authorization.identityRevision ≠ 0 ∧
      60000 ≤ authorization.durationMs ∧ authorization.durationMs ≤ 28800000 ∧
      1000 ≤ authorization.watchdogIntervalMs ∧ authorization.watchdogIntervalMs ≤ 60000 ∧
      commandWindowOpen authorization.toCommandHeader nowMs maxQuestAwakeCommandLifetimeMs)
    (¬ authorization.ownerActionRequestId.isEmpty ∧ authorization.manifoldRequestId =
      questAwakeManifoldRequestId authorization.operationId authorization.deviceId
        authorization.ownerActionRequestId)
    (.awake "rusty.fleet.quest_awake_params.v1" authorization.operationId authorization.previewId
      questAwakeFamily.actionId authorization.deviceId authorization.identityRevision authorization.action
      authorization.durationMs authorization.watchdogIntervalMs authorization.watchdogGeneration) nowMs

def authorizeQuestWifiAdb (authorization : QuestWifiAdbCommandAuthorization) (nowMs : Nat) :
    Except String CommandAuthorityReceipt × FleetManifoldAdapter :=
  adapter.authorizeCommand wifiAdbCommandProfile authorization.toCommandHeader
    (commandIdBounded authorization.operationId ∧ commandIdBounded authorization.previewId ∧
      commandIdBounded authorization.deviceId ∧ authorization.identityRevision ≠ 0 ∧
      commandWindowOpen authorization.toCommandHeader nowMs maxQuestWifiAdbCommandLifetimeMs)
    (¬ authorization.ownerActionRequestId.isEmpty ∧ authorization.manifoldRequestId =
      questWifiAdbManifoldRequestId authorization.operationId authorization.deviceId
        authorization.ownerActionRequestId)
    (.wifiAdb "rusty.fleet.quest_wifi_adb_params.v1" authorization.operationId authorization.previewId
      questWifiAdbFamily.actionId authorization.deviceId authorization.identityRevision
      authorization.action) nowMs

/-- The hotspot binds its lease and ownership generation where the others bind the device. -/
def authorizeWindowsHotspot (authorization : WindowsHotspotCommandAuthorization) (nowMs : Nat) :
    Except String CommandAuthorityReceipt × FleetManifoldAdapter :=
  adapter.authorizeCommand hotspotCommandProfile authorization.toCommandHeader
    (commandIdBounded authorization.operationId ∧ commandIdBounded authorization.previewId ∧
      commandIdBounded authorization.leaseId ∧ commandIdBounded authorization.leaseGeneration ∧
      commandWindowOpen authorization.toCommandHeader nowMs maxWindowsHotspotCommandLifetimeMs)
    (authorization.generationsValid = true ∧ ¬ authorization.ownerActionRequestId.isEmpty ∧
      authorization.manifoldRequestId = windowsHotspotManifoldRequestId authorization.operationId
        authorization.leaseId authorization.ownerActionRequestId)
    (.hotspot "rusty.fleet.windows_hotspot_params.v1" authorization.operationId authorization.previewId
      windowsHotspotActionId "windows.mobile-hotspot" authorization.leaseId authorization.leaseGeneration
      authorization.action authorization.ownershipGeneration) nowMs

end FleetManifoldAdapter

inductive AuthorizationCall
  | kiosk (authorization : KioskShowControlsCommandAuthorization)
  | package (authorization : PackageInstallReleaseCommandAuthorization)
  | awake (authorization : QuestAwakeCommandAuthorization)
  | wifiAdb (authorization : QuestWifiAdbCommandAuthorization)
  | hotspot (authorization : WindowsHotspotCommandAuthorization)

/-- The calls a Hub and its adapter take with the five authorizations. -/
inductive AuthorityCall
  | fleet (call : FleetCall)
  | authorize (call : AuthorizationCall) (nowMs : Nat)

inductive AuthorityAnswer
  | fleet (answer : FleetAnswer)
  | authorized (result : Except String CommandAuthorityReceipt)

section Machine

variable [AuthorityEnvironment]

def FleetManifoldAdapter.authorize (adapter : FleetManifoldAdapter) (nowMs : Nat) :
    AuthorizationCall → Except String CommandAuthorityReceipt × FleetManifoldAdapter
  | .kiosk authorization => adapter.authorizeKioskShowControls authorization nowMs
  | .package authorization => adapter.authorizePackageInstallRelease authorization nowMs
  | .awake authorization => adapter.authorizeQuestAwake authorization nowMs
  | .wifiAdb authorization => adapter.authorizeQuestWifiAdb authorization nowMs
  | .hotspot authorization => adapter.authorizeWindowsHotspot authorization nowMs

def Fleet.handleAuthority (fleet : Fleet) : AuthorityCall → Fleet × AuthorityAnswer
  | .fleet call =>
    let (next, answer) := fleet.handle call
    (next, .fleet answer)
  | .authorize call nowMs =>
    let (result, adapter) := fleet.adapter.authorize nowMs call
    (⟨fleet.hub, adapter⟩, .authorized result)

def authorityMachine : Machine Fleet AuthorityCall AuthorityAnswer where
  step fleet call := fleet.handleAuthority call

end Machine

end RustyFleet

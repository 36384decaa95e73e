import RustyFleet.Hub.Snapshot
import RustyFleet.Hub.Kiosk
import RustyFleet.Hub.Packages
import RustyFleet.Hub.QuestOwners
import RustyFleet.Hub.WindowsHotspot
import RustyFleet.Support.Machine

namespace RustyFleet

/-- What the Hub takes from outside its own sources: serialisation, hashing and Unicode tables. -/
class HubEnvironment extends ObservationCodec, UnicodeLowercase, OperationDigest, Sha256Hex

inductive SavedViewCall
  | upsert (request : SavedViewMutationRequest)
  | delete (viewId : String) (expectedRevision : Nat)

inductive KioskCall
  | preview (plan : KioskShowControlsPreviewPlan)
  | confirm (operationId previewId : String) (nowMs : Int)
  | confirmRequest (request : OperationExecuteRequest) (nowMs : Int)
  | dispatch (operationId deviceId ownerRequestId : String) (nowMs : Int)
  | running (operationId deviceId : String) (nowMs : Int)
  | receipt (receipt : KioskEffectiveReceipt) (nowMs : Int)
  | fail (operationId deviceId reasonCode message : String) (nowMs : Int)
  | expire (operationId deviceId reasonCode message : String) (nowMs : Int)
  | requestCancellation (operationId deviceId : String) (nowMs : Int)
  | completeCancellation (operationId deviceId : String) (nowMs : Int)

inductive PackageCall
  | preview (plan : PackageInstallReleasePreviewPlan)
  | confirm (operationId previewId : String) (nowMs : Int)
  | prepare (operationId deviceId ownerActionRequestId : String) (nowMs : Int)
  | offer (claim : PackageUpdaterClaim) (nowMs : Int)
  | expire (nowMs : Int)
  | acknowledgement (acknowledgement : PackageUpdaterInvocationAcknowledgement) (nowMs : Int)
  | receipt (receipt : PackageUpdaterEffectiveReceipt) (nowMs : Int)
  | progress (progress : PackageUpdaterProgress) (nowMs : Int)
  | archive (request : PackageOperationArchiveRequest) (nowMs : Int)

inductive AwakeCall
  | preview (plan : QuestAwakePreviewPlan)
  | confirm (operationId previewId : String) (nowMs : Int)
  | prepare (operationId deviceId requestId : String) (nowMs : Int)
  | prepareWithGeneration (operationId deviceId requestId : String)
      (expectedDeviceWatchdogGeneration : Option String) (nowMs : Int)
  | dispatched (operationId deviceId : String) (nowMs : Int)
  | receipt (receipt : QuestAwakeOwnerReceipt) (nowMs : Int)
  | fail (operationId deviceId code : String) (nowMs : Int)

inductive WifiAdbCall
  | preview (plan : QuestWifiAdbPreviewPlan)
  | confirm (operationId previewId : String) (nowMs : Int)
  | prepare (operationId deviceId requestId : String) (nowMs : Int)
  | dispatched (operationId deviceId : String) (nowMs : Int)
  | receipt (receipt : QuestWifiAdbOwnerReceipt) (nowMs : Int)
  | fail (operationId deviceId code : String) (nowMs : Int)

inductive HotspotCall
  | preview (plan : WindowsHotspotPreviewPlan)
  | confirm (operationId previewId : String) (nowMs : Int)
  | prepare (operationId requestId : String) (nowMs : Int)
  | receipt (receipt : WindowsHotspotProviderReceipt) (nowMs : Int)
  | fail (operationId failureCode : String) (nowMs : Int)
  | recover (nowMs : Int)

/-- The public calls that may change a Hub; a restart stores a snapshot and restores it. -/
inductive HubCall
  | observe (observation : DeviceObservation) (nowMs : Int)
  | savedView (call : SavedViewCall)
  | kiosk (call : KioskCall)
  | package (call : PackageCall)
  | awake (call : AwakeCall)
  | wifiAdb (call : WifiAdbCall)
  | hotspot (call : HotspotCall)
  | catalog (admission : ProductionKioskCatalogAdmission) (profileId : String) (receivedAtMs : Int)
  | restart (policy : HubPolicy)

inductive PackageAnswer
  | operation (result : HubResult PackageInstallReleaseOperation)
  | expired (result : HubResult Nat)
  | archived (result : HubResult PackageInstallReleaseArchive)

inductive HubAnswer
  | observed (result : HubResult ObservationDecision)
  | savedView (result : HubResult SavedViewMutationReceipt)
  | kiosk (result : HubResult KioskShowControlsOperation)
  | package (answer : PackageAnswer)
  | awake (result : HubResult QuestAwakeOperation)
  | wifiAdb (result : HubResult QuestWifiAdbOperation)
  | hotspot (result : HubResult WindowsHotspotOperation)
  | recovered (operations : List WindowsHotspotOperation)
  | catalog (result : HubResult Unit)
  | restarted (result : HubResult Unit)

def returnsErr {α : Type} : HubResult α → Bool
  | .error (.hubError _) => true
  | _ => false

def PackageAnswer.isErr : PackageAnswer → Bool
  | .operation result => returnsErr result
  | .expired result => returnsErr result
  | .archived result => returnsErr result

def HubAnswer.isErr : HubAnswer → Bool
  | .observed result => returnsErr result
  | .savedView result => returnsErr result
  | .kiosk result => returnsErr result
  | .package answer => answer.isErr
  | .awake result => returnsErr result
  | .wifiAdb result => returnsErr result
  | .hotspot result => returnsErr result
  | .recovered _ => false
  | .catalog result => returnsErr result
  | .restarted result => returnsErr result

/-- A call's own result and the Hub it leaves behind. -/
def answeredBy {α β : Type} (answer : α → β) (result : α × FleetHub) : FleetHub × β :=
  (result.2, answer result.1)

namespace FleetHub

variable (hub : FleetHub)

def handleSavedView : SavedViewCall → HubResult SavedViewMutationReceipt × FleetHub
  | .upsert request => hub.upsertSavedView request
  | .delete viewId expectedRevision => hub.deleteSavedView viewId expectedRevision

def handleKiosk : KioskCall → HubResult KioskShowControlsOperation × FleetHub
  | .preview plan => hub.previewKioskShowControls plan
  | .confirm operationId previewId nowMs => hub.confirmKioskShowControls operationId previewId nowMs
  | .confirmRequest request nowMs => hub.confirmKioskShowControlsRequest request nowMs
  | .dispatch operationId deviceId ownerRequestId nowMs =>
    hub.dispatchKioskShowControls operationId deviceId ownerRequestId nowMs
  | .running operationId deviceId nowMs => hub.markKioskShowControlsRunning operationId deviceId nowMs
  | .receipt receipt nowMs => hub.applyKioskShowControlsReceipt receipt nowMs
  | .fail operationId deviceId reasonCode message nowMs =>
    hub.failKioskShowControls operationId deviceId reasonCode message nowMs
  | .expire operationId deviceId reasonCode message nowMs =>
    hub.expireKioskShowControls operationId deviceId reasonCode message nowMs
  | .requestCancellation operationId deviceId nowMs =>
    hub.requestKioskShowControlsCancellation operationId deviceId nowMs
  | .completeCancellation operationId deviceId nowMs =>
    hub.completeKioskShowControlsCancellation operationId deviceId nowMs

def handlePackage [OperationDigest] : PackageCall → PackageAnswer × FleetHub
  | .preview plan => (hub.previewPackageInstallRelease plan).map .operation id
  | .confirm operationId previewId nowMs =>
    (hub.confirmPackageInstallRelease operationId previewId nowMs).map .operation id
  | .prepare operationId deviceId ownerActionRequestId nowMs =>
    (hub.preparePackageInstallReleaseInvocation operationId deviceId ownerActionRequestId nowMs).map
      .operation id
  | .offer claim nowMs => (hub.offerPackageUpdaterClaim claim nowMs).map .operation id
  | .expire nowMs => (hub.expirePackageUpdaterClaims nowMs).map .expired id
  | .acknowledgement acknowledgement nowMs =>
    (hub.admitAuthenticatedPackageUpdaterAcknowledgement acknowledgement nowMs).map .operation id
  | .receipt receipt nowMs =>
    (hub.admitAuthenticatedPackageUpdaterReceipt receipt nowMs).map .operation id
  | .progress progress nowMs =>
    (hub.admitAuthenticatedPackageUpdaterProgress progress nowMs).map .operation id
  | .archive request nowMs => (hub.archivePackageOperation request nowMs).map .archived id

def handleAwake : AwakeCall → HubResult QuestAwakeOperation × FleetHub
  | .preview plan => hub.previewQuestAwake plan
  | .confirm operationId previewId nowMs => hub.confirmQuestAwake operationId previewId nowMs
  | .prepare operationId deviceId requestId nowMs =>
    hub.prepareQuestAwakeInvocation operationId deviceId requestId nowMs
  | .prepareWithGeneration operationId deviceId requestId generation nowMs =>
    hub.prepareQuestAwakeInvocationWithWatchdogGeneration operationId deviceId requestId generation nowMs
  | .dispatched operationId deviceId nowMs => hub.markQuestAwakeDispatched operationId deviceId nowMs
  | .receipt receipt nowMs => hub.applyQuestAwakeReceipt receipt nowMs
  | .fail operationId deviceId code nowMs => hub.failQuestAwakeTarget operationId deviceId code nowMs

def handleWifiAdb [Sha256Hex] : WifiAdbCall → HubResult QuestWifiAdbOperation × FleetHub
  | .preview plan => hub.previewQuestWifiAdb plan
  | .confirm operationId previewId nowMs => hub.confirmQuestWifiAdb operationId previewId nowMs
  | .prepare operationId deviceId requestId nowMs =>
    hub.prepareQuestWifiAdbInvocation operationId deviceId requestId nowMs
  | .dispatched operationId deviceId nowMs => hub.markQuestWifiAdbDispatched operationId deviceId nowMs
  | .receipt receipt nowMs => hub.applyQuestWifiAdbReceipt receipt nowMs
  | .fail operationId deviceId code nowMs => hub.failQuestWifiAdbTarget operationId deviceId code nowMs

def handleHotspot : HotspotCall → HubAnswer × FleetHub
  | .preview plan => (hub.previewWindowsHotspot plan).map .hotspot id
  | .confirm operationId previewId nowMs =>
    (hub.confirmWindowsHotspot operationId previewId nowMs).map .hotspot id
  | .prepare operationId requestId nowMs =>
    (hub.prepareWindowsHotspotInvocation operationId requestId nowMs).map .hotspot id
  | .receipt receipt nowMs => (hub.applyWindowsHotspotReceipt receipt nowMs).map .hotspot id
  | .fail operationId failureCode nowMs =>
    (hub.failWindowsHotspotOperation operationId failureCode nowMs).map .hotspot id
  | .recover nowMs => (hub.recoverWindowsHotspot nowMs).map .recovered id

variable [HubEnvironment]

/-- The Hub after its snapshot was restored; a refused snapshot leaves the running Hub in place. -/
def restarted (policy : HubPolicy) : HubResult Unit × FleetHub :=
  match restore policy hub.snapshot with
  | .error fault => (.error fault, hub)
  | .ok restored => (.ok (), restored)

def handle : HubCall → FleetHub × HubAnswer
  | .observe observation nowMs => answeredBy .observed (hub.acceptObservation observation nowMs)
  | .savedView call => answeredBy .savedView (hub.handleSavedView call)
  | .kiosk call => answeredBy .kiosk (hub.handleKiosk call)
  | .package call => answeredBy .package (hub.handlePackage call)
  | .awake call => answeredBy .awake (hub.handleAwake call)
  | .wifiAdb call => answeredBy .wifiAdb (hub.handleWifiAdb call)
  | .hotspot call => answeredBy id (hub.handleHotspot call)
  | .catalog admission profileId receivedAtMs =>
    answeredBy .catalog (hub.acceptProfiledKioskCatalog admission profileId receivedAtMs)
  | .restart policy => answeredBy .restarted (hub.restarted policy)

@[simp] theorem handle_observe (observation : DeviceObservation) (nowMs : Int) :
    (hub.handle (.observe observation nowMs)).1 = (hub.acceptObservation observation nowMs).2 := by
  simp only [handle, answeredBy]

@[simp] theorem handle_savedView (call : SavedViewCall) :
    (hub.handle (.savedView call)).1 = (hub.handleSavedView call).2 := by
  simp only [handle, answeredBy]

@[simp] theorem handle_kiosk (call : KioskCall) :
    (hub.handle (.kiosk call)).1 = (hub.handleKiosk call).2 := by
  simp only [handle, answeredBy]

@[simp] theorem handle_package (call : PackageCall) :
    (hub.handle (.package call)).1 = (hub.handlePackage call).2 := by
  simp only [handle, answeredBy]

@[simp] theorem handle_awake (call : AwakeCall) :
    (hub.handle (.awake call)).1 = (hub.handleAwake call).2 := by
  simp only [handle, answeredBy]

@[simp] theorem handle_wifiAdb (call : WifiAdbCall) :
    (hub.handle (.wifiAdb call)).1 = (hub.handleWifiAdb call).2 := by
  simp only [handle, answeredBy]

@[simp] theorem handle_hotspot (call : HotspotCall) :
    (hub.handle (.hotspot call)).1 = (hub.handleHotspot call).2 := by
  simp only [handle, answeredBy]

@[simp] theorem handle_catalog (admission : ProductionKioskCatalogAdmission) (profileId : String)
    (receivedAtMs : Int) :
    (hub.handle (.catalog admission profileId receivedAtMs)).1 =
      (hub.acceptProfiledKioskCatalog admission profileId receivedAtMs).2 := by
  simp only [handle, answeredBy]

@[simp] theorem handle_restart (policy : HubPolicy) :
    (hub.handle (.restart policy)).1 = (hub.restarted policy).2 := by
  simp only [handle, answeredBy]

end FleetHub

/-- The Hub as a system that answers one public call after the other. -/
def fleetHubMachine [HubEnvironment] : Machine FleetHub HubCall HubAnswer where
  step hub call := hub.handle call

end RustyFleet

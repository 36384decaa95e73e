import RustyFleet.Adapter.Authority
import RustyFleet.Adapter.Sessions
import RustyFleet.Hub.Snapshot
import RustyFleet.Support.CrashDisk

namespace RustyFleet

def stateSchema := "rusty.fleet.local_hub_durable_state.v1"
def maxStateBytes : Nat := 16 * 1024 * 1024
def maxRawReceiptBytes : Nat := 512 * 1024

/-- What an owner answered, byte for byte. -/
structure RawOwnerReceiptEvidence where
  rawReceiptSha256 : String
  rawReceipt : Bytes
  hostReceivedAtMs : Int
  resultTransportRequestId : String

abbrev OwnerReceipts := BTreeMap String RawOwnerReceiptEvidence

structure LocalHubDurableState where
  schema : String
  generation : Nat
  writtenAtMs : Int
  hub : FleetHubSnapshot
  adapter : FleetManifoldAdapterSnapshot
  ownerReceipts : OwnerReceipts

/-- The JSON crate that turns a durable state into the content of a file and back. -/
class DurableStateCodec (β : Type) extends Inhabited β where
  len : β → Nat
  toVec : LocalHubDurableState → Except String β
  fromSlice : β → Except String LocalHubDurableState
  /-- How many arrays and objects the JSON of a state opens inside one another. -/
  nesting : LocalHubDurableState → Nat

/-- A Hub, its adapter and the evidence kept beside them, as one stored state gives them back. -/
structure RestoredState where
  hub : FleetHub
  adapter : FleetManifoldAdapter
  ownerReceipts : OwnerReceipts
  generation : Nat

def hubDescription : HubFault → String
  | .hubError error => error.code ++ ": " ++ error.message
  | .panicked text => text

/-- Oldest first, then by operation identifier. -/
def listedBefore (left right : Int × String) : Bool :=
  left.1 < right.1 || (left.1 == right.1 && (compare left.2 right.2).isLE)

namespace FleetHub

def listedKioskOperations (hub : FleetHub) : List KioskShowControlsOperation :=
  (BTreeMap.storedValues hub.kioskOperations).mergeSort fun left right =>
    listedBefore (left.createdAtMs, left.operationId) (right.createdAtMs, right.operationId)

def listedPackageOperations (hub : FleetHub) : List PackageInstallReleaseOperation :=
  (BTreeMap.storedValues hub.packageOperations).mergeSort fun left right =>
    listedBefore (left.createdAtMs, left.operationId) (right.createdAtMs, right.operationId)

end FleetHub

section Restore

variable [FleetEnvironment]

/-- The first Kiosk owner request the adapter's host has not applied. -/
def unauthorizedKioskRequest (adapter : FleetManifoldAdapter)
    (operations : List KioskShowControlsOperation) : Option String :=
  operations.findSome? fun operation => operation.targets.findSome? fun target =>
    target.ownerRequestIds.findSome? fun ownerRequestId =>
      if adapter.hasAppliedKioskAuthorization operation.operationId target.deviceId ownerRequestId then none
      else some ("Kiosk operation " ++ operation.operationId ++ " target " ++ target.deviceId ++
        " lacks applied Manifold authority for owner request " ++ ownerRequestId)

/-- The first package invocation the adapter's host has not applied. -/
def unauthorizedPackageInvocation (adapter : FleetManifoldAdapter)
    (operations : List PackageInstallReleaseOperation) : Option String :=
  operations.findSome? fun operation => operation.targets.findSome? fun target =>
    target.invocation.bind fun invocation =>
      if adapter.hasAppliedPackageAuthorization operation.operationId target.deviceId
          invocation.ownerActionRequestId then none
      else some ("package operation " ++ operation.operationId ++ " target " ++ target.deviceId ++
        " lacks applied Manifold authority")

/-- The raw evidence is what the effective receipt was derived from. -/
def evidenceMatches (receipt : KioskEffectiveReceipt) (raw : RawOwnerReceiptEvidence) : Prop :=
  raw.rawReceipt ≠ [] ∧ raw.rawReceipt.length ≤ maxRawReceiptBytes ∧
    sha256Hex raw.rawReceipt = raw.rawReceiptSha256 ∧
    raw.rawReceiptSha256 = receipt.responseContentSha256 ∧ raw.hostReceivedAtMs = receipt.wrappedAtMs ∧
    raw.resultTransportRequestId = receipt.ownerResultTransportRequestId

instance (receipt : KioskEffectiveReceipt) (raw : RawOwnerReceiptEvidence) :
    Decidable (evidenceMatches receipt raw) :=
  inferInstanceAs (Decidable (_ ∧ _))

/-- The first Kiosk effective receipt without matching raw evidence. -/
def unprovenKioskReceipt (ownerReceipts : OwnerReceipts) (operations : List KioskShowControlsOperation) :
    Option String :=
  operations.findSome? fun operation => operation.targets.findSome? fun target =>
    target.effectiveReceipt.bind fun receipt =>
      match ownerReceipts[receipt.receiptId]? with
      | none => some ("Kiosk effective receipt " ++ receipt.receiptId ++ " lacks durable raw owner evidence")
      | some raw =>
        if evidenceMatches receipt raw then none
        else some ("Kiosk effective receipt " ++ receipt.receiptId ++ " does not match raw owner evidence")

def rejectWith (complaint : Option String) : Except String Unit :=
  match complaint with
  | none => .ok ()
  | some text => .error text

omit [FleetEnvironment] in
@[simp] theorem rejectWith_ok (complaint : Option String) (done : Unit) :
    rejectWith complaint = .ok done ↔ complaint = none := by
  cases complaint <;> simp [rejectWith]

def sameMembers (left right : List String) : Prop := (∀ id ∈ left, id ∈ right) ∧ ∀ id ∈ right, id ∈ left

instance (left right : List String) : Decidable (sameMembers left right) :=
  inferInstanceAs (Decidable (_ ∧ _))

def restoreStateCandidate (policy : HubPolicy) (configuredAdapter : FleetManifoldAdapter)
    (state : LocalHubDurableState) (nowMs : Int) : Except String RestoredState := do
  let restoredHub ← (FleetHub.restore policy state.hub).mapError fun fault =>
    "cannot restore Fleet Hub state: " ++ hubDescription fault
  let restoredAdapter ← (configuredAdapter.restoreSession state.adapter nowMs).mapError
    ("cannot restore Manifold adapter state: " ++ ·)
  errorIf (¬ sameMembers restoredHub.deviceIds restoredAdapter.acceptedPeerIds)
    "Fleet Hub devices do not match accepted Manifold peers"
  rejectWith (unauthorizedKioskRequest restoredAdapter restoredHub.listedKioskOperations)
  rejectWith (unauthorizedPackageInvocation restoredAdapter restoredHub.listedPackageOperations)
  rejectWith (unprovenKioskReceipt state.ownerReceipts restoredHub.listedKioskOperations)
  return {
    hub := restoredHub
    adapter := restoredAdapter
    ownerReceipts := state.ownerReceipts
    generation := state.generation }

end Restore

end RustyFleet

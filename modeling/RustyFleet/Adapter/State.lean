import RustyFleet.Contracts.CheckIn
import RustyFleet.Hub.Calls
import RustyFleet.Hub.Rows

namespace RustyFleet

def maxSeenCheckins : Nat := 10000

structure ManifoldPeerIdentity where
  peerId : String
  keyFingerprint : String
  document : JsonValue
deriving DecidableEq

structure ManifoldPeerStatus where
  peerId : String
  observedAtMs : Nat
  expiresAtMs : Nat
  capabilityIds : List String
  document : JsonValue
deriving DecidableEq

structure ManifoldPeerStatusProposal where
  identity : ManifoldPeerIdentity
  status : ManifoldPeerStatus
  expectedAuthorityRevision : Nat
  document : JsonValue
deriving DecidableEq

structure ManifoldAcceptedPeer where
  identity : ManifoldPeerIdentity
  document : JsonValue
deriving DecidableEq

structure ManifoldAcceptedPeerState where
  schemaId : String
  authorityRevision : Nat
  peers : List ManifoldAcceptedPeer
  appliedProposalIds : List String
deriving DecidableEq

inductive ManifoldPeerCredentialStatus
  | active | inactive (status : String)
deriving DecidableEq, Repr

structure ManifoldPeerCredential where
  keyId : String
  keyGeneration : Nat
  peerId : String
  status : ManifoldPeerCredentialStatus
  validFromMs : Nat
  expiresAtMs : Nat
  publicKeyHex : String
  publicKeySha256 : String
deriving DecidableEq

structure ManifoldPeerEnrollmentState where
  authorityRevision : Nat
  credentials : List ManifoldPeerCredential
deriving DecidableEq

inductive ManifoldPeerDecisionOutcome
  | accepted | rejected
deriving DecidableEq, Repr

structure ManifoldPeerReviewCase where
  schemaId : String
  caseId : String
  currentState : ManifoldAcceptedPeerState
  proposal : ManifoldPeerStatusProposal
  trustedKeyFingerprints : List String
  nowMs : Nat
  expectedOutcome : ManifoldPeerDecisionOutcome

structure ManifoldPeerDecision where
  acceptedState : Option ManifoldAcceptedPeerState
  document : JsonValue
deriving DecidableEq

structure ManifoldPeerApplicationReceipt where
  applied : Bool
  document : JsonValue
deriving DecidableEq

/-- A runtime host is its snapshot: commands it knows and requests it has applied. -/
structure ManifoldRuntimeHostSnapshot where
  schemaId : String
  authorityRevision : Nat
  commandIds : List String
  appliedRequestIds : List String
  document : JsonValue
deriving DecidableEq

structure ManifoldHostMigration where
  migrated : Bool
  sourceSchemaId : String
  resultingSchemaId : String

structure LoopbackAdbCapabilityExtensions where
  proofSchema : String
  state : String
  routeMode : String
  discoveryMode : String
  listenerDiscovered : Bool
  shellUid : String
  ownerEvidenceSha256 : String

inductive CheckInRejectionReason
  | contractInvalid | staleOrFuture | replay | unknownOrInactiveKey | keyOutsideValidity
  | identityMismatch | authorityEvidenceMismatch | signatureInvalid | manifoldRejected | fleetRejected
  | evidenceLimitExceeded
deriving DecidableEq, Repr

structure CheckInReceipt where
  schema : String
  checkinId : String
  accepted : Bool
  rejectionReason : Option CheckInRejectionReason
  manifoldDecision : Option ManifoldPeerDecision
  manifoldApplication : Option ManifoldPeerApplicationReceipt
  fleetDecision : Option ObservationDecision
deriving DecidableEq

inductive QuestWifiAdbProofConsumptionState
  | boundToExactOwnerReceipt
deriving DecidableEq, Repr

structure AdmittedQuestWifiAdbTermuxAdmission where
  keyId : String
  keyGeneration : Nat
  publicKeySha256 : String
  claimsJcsSha256 : String
  signingMessageSha256 : String
  signatureSha256 : String
  fleetAcceptedRevision : Nat
  enrollmentAuthorityRevision : Nat
  manifoldAuthorityRevision : Nat
  boundOperationId : String
  boundReceiptRequestId : String
  boundReceiptEvidenceSha256 : String
  boundReceiptUpdatedAtMs : Int
  consumptionState : QuestWifiAdbProofConsumptionState
deriving DecidableEq

structure AdmittedQuestWifiAdbTermuxProof where
  proof : QuestWifiAdbTermuxProof
  checkinId : String
  checkinExpiresAtMs : Int
  acceptedAtMs : Int
  admission : Option AdmittedQuestWifiAdbTermuxAdmission
deriving DecidableEq

structure FleetManifoldAdapter where
  enrollment : ManifoldPeerEnrollmentState
  acceptedPeers : ManifoldAcceptedPeerState
  trustedOperatorIds : List String
  seenCheckins : BTreeMap String Int
  runtimeHost : ManifoldRuntimeHostSnapshot
  termuxProofs : BTreeMap String AdmittedQuestWifiAdbTermuxProof

structure FleetManifoldAdapterSnapshot where
  schema : String
  acceptedPeers : ManifoldAcceptedPeerState
  seenCheckins : BTreeMap String Int
  runtimeHost : Option ManifoldRuntimeHostSnapshot
  termuxProofs : BTreeMap String AdmittedQuestWifiAdbTermuxProof

/-- What the adapter takes from the Manifold, signature, hashing and serialisation crates. -/
class ManifoldEnvironment extends Sha256Hex where
  initialRevision : Nat
  hostSnapshotSchema : String
  legacyHostSnapshotV1Schema : String
  legacyHostSnapshotV2Schema : String
  legacyHostSnapshotV3Schema : String
  emptyEnrollment : ManifoldPeerEnrollmentState
  proposalFromValue : JsonValue → Option ManifoldPeerStatusProposal
  reviewAndApplyPeerProposal :
    ManifoldPeerReviewCase → ManifoldPeerDecision × ManifoldPeerApplicationReceipt
  reviewAndApplyPeerEnrollment :
    ManifoldPeerEnrollmentState → (request : JsonValue) → (trustedOperatorIds : List String) →
      (nowMs : Nat) → ManifoldPeerEnrollmentState × JsonValue
  isDottedId : String → Bool
  hexDecode : String → Option Bytes
  verifyStrict : (publicKey message signature : Bytes) → Bool
  capabilityExtensions : BTreeMap String JsonValue → Option LoopbackAdbCapabilityExtensions
  hostFromSnapshot : ManifoldRuntimeHostSnapshot → Except String ManifoldRuntimeHostSnapshot
  hostFromLegacyJson : ManifoldRuntimeHostSnapshot → (removedFields : List String) →
    Except String (ManifoldRuntimeHostSnapshot × ManifoldHostMigration)

/-- Everything outside the Hub and the adapter. -/
class FleetEnvironment extends HubEnvironment, CheckInCodec, ManifoldEnvironment

def fleetManifoldSnapshotV1Schema := "rusty.fleet.manifold_adapter_snapshot.v1"
def fleetManifoldSnapshotV2Schema := "rusty.fleet.manifold_adapter_snapshot.v2"
def fleetManifoldSnapshotV3Schema := "rusty.fleet.manifold_adapter_snapshot.v3"
def fleetManifoldSnapshotV4Schema := "rusty.fleet.manifold_adapter_snapshot.v4"
def fleetManifoldSnapshotSchema := "rusty.fleet.manifold_adapter_snapshot.v5"

/-- The commands a new adapter's runtime host knows. -/
def fleetRuntimeCommandIds : List String :=
  ["kiosk.show-controls", "quest.awake-control", "quest.wifi-adb-control", "packages.install-release",
    windowsHotspotActionId]

namespace FleetManifoldAdapter

open ManifoldEnvironment in
def new [ManifoldEnvironment] (trustedOperatorIds : List String) : FleetManifoldAdapter where
  enrollment := emptyEnrollment
  acceptedPeers :=
    { schemaId := "rusty.manifold.peer.accepted_state.v1"
      authorityRevision := initialRevision
      peers := []
      appliedProposalIds := [] }
  trustedOperatorIds := trustedOperatorIds
  seenCheckins := ∅
  runtimeHost :=
    { schemaId := hostSnapshotSchema
      authorityRevision := initialRevision
      commandIds := fleetRuntimeCommandIds
      appliedRequestIds := []
      document := "runtime.fleet.hub" }
  termuxProofs := ∅

variable (adapter : FleetManifoldAdapter)

def acceptedPeerIds : List String := adapter.acceptedPeers.peers.map (·.identity.peerId)

def snapshot : FleetManifoldAdapterSnapshot where
  schema := fleetManifoldSnapshotSchema
  acceptedPeers := adapter.acceptedPeers
  seenCheckins := adapter.seenCheckins
  runtimeHost := some adapter.runtimeHost
  termuxProofs := adapter.termuxProofs

def applyEnrollment [ManifoldEnvironment] (request : JsonValue) (nowMs : Nat) :
    JsonValue × FleetManifoldAdapter :=
  let (next, receipt) := ManifoldEnvironment.reviewAndApplyPeerEnrollment adapter.enrollment request
    adapter.trustedOperatorIds nowMs
  (receipt, { adapter with enrollment := next })

end FleetManifoldAdapter

end RustyFleet

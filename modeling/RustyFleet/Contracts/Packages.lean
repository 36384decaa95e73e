import RustyFleet.Contracts.Preflight
import RustyFleet.Contracts.SavedViews

namespace RustyFleet

def packagesInstallReleaseActionId := "packages.install-release"
def packageUpdaterCapabilityId := "rusty-quest.package-updater"
def packageUpdaterOwner := "rusty-quest"
def packageUpdateManifestEnvelopeSchema := "rusty.quest.package_update_manifest_envelope.v1"
def packageUpdateReceiptSchema := "rusty.quest.package_update_receipt.v1"
def packageInstallPreviewRequestSchema := "rusty.fleet.package_install_release_preview_request.v1"
def packageUpdaterAckSchema := "rusty.fleet.package_updater_invocation_acknowledgement.v1"
def packageUpdaterProgressSchema := "rusty.fleet.package_updater_progress.v1"
def packageUpdaterClaimSchema := "rusty.fleet.package_updater_claim.v1"
def packageOperationArchiveRequestSchema := "rusty.fleet.package_operation_archive_request.v1"
def packageOperationProgressSchema := "rusty.fleet.package_install_release_progress.v1"
def packageOperationArchiveSchema := "rusty.fleet.package_install_release_archive.v1"
def maxConsumedPackageOwnerClaims : Nat := 64

def isPackageName (value : String) : Bool :=
  3 ≤ value.utf8ByteSize && value.utf8ByteSize ≤ 255 && value.toList.contains '.' &&
    (splitSegments '.' value.toList).all fun part =>
      !part.isEmpty && part.all fun byte => asciiAlphanumeric byte || byte == '_'

inductive PackageReleaseReference
  | manifestUrl (manifestUrl : String)
  | releaseId (releaseId : String)
deriving DecidableEq, Repr

/-- What follows `https://` names a host without credentials. -/
def isManifestAuthority (authority : List Char) : Bool :=
  !authority.isEmpty && authority.head? != some '/' &&
    (splitSegments '/' authority).head?.all fun host => !host.contains '@'

def isManifestUrl (url : String) : Bool :=
  url.utf8ByteSize ≤ 2048 && !url.toList.contains '#' &&
    (url.toList.dropPrefix? "https://".toList).any isManifestAuthority

instance : ValidateContract PackageReleaseReference where
  violations
    | .manifestUrl url =>
      violationIf (¬ isManifestUrl url) "invalid_manifest_url" "manifest_url"
        "manifest URL must be a bounded HTTPS URL without credentials or a fragment"
    | .releaseId releaseId =>
      violationIf (¬ isPortableId releaseId 256) "invalid_release_id" "release_id"
        "release ID must contain 1 through 256 portable identifier bytes"

def packageTargetViolations (targets : BTreeMap String Nat) : List ContractViolation :=
  violationIf (targets.size = 0 ∨ targets.size > 10000)
    "invalid_target_count" "targets" "operation previews require 1 through 10000 targets" ++
  targets.toList.flatMap fun (deviceId, identityRevision) =>
    violationIf (¬ isPortableId deviceId 256 ∨ identityRevision = 0)
      "invalid_target" "targets" "target device IDs and identity revisions must be valid"

structure PackageInstallReleasePreviewRequest where
  schema : String
  actionId : String
  release : PackageReleaseReference
  expectedPackageName : String
  expectedRolloutRing : String
  targets : BTreeMap String Nat
deriving DecidableEq

instance : ValidateContract PackageInstallReleasePreviewRequest where
  violations request :=
    violationIf (request.schema ≠ packageInstallPreviewRequestSchema)
      "wrong_schema" "schema" "expected rusty.fleet.package_install_release_preview_request.v1" ++
    violationIf (request.actionId ≠ packagesInstallReleaseActionId)
      "wrong_action" "action_id" "expected packages.install-release" ++
    violations request.release ++
    violationIf (¬ isPackageName request.expectedPackageName)
      "invalid_package_name" "expected_package_name"
      "expected package name must be a bounded dotted Android package identity" ++
    violationIf (¬ isPortableId request.expectedRolloutRing 128)
      "invalid_rollout_ring" "expected_rollout_ring"
      "expected rollout ring must be a bounded portable identifier" ++
    packageTargetViolations request.targets

structure PackageUpdaterOwnerContractBinding where
  ownerRepoId : String
  capabilityId : String
  manifestEnvelopeSchema : String
  receiptSchema : String
  installMode : String
  applicationProof : String
deriving DecidableEq

def PackageUpdaterOwnerContractBinding.attendedV1 : PackageUpdaterOwnerContractBinding where
  ownerRepoId := packageUpdaterOwner
  capabilityId := packageUpdaterCapabilityId
  manifestEnvelopeSchema := packageUpdateManifestEnvelopeSchema
  receiptSchema := packageUpdateReceiptSchema
  installMode := "attended_package_installer"
  applicationProof := "effective_installed_version_receipt"

instance : ValidateContract PackageUpdaterOwnerContractBinding where
  violations binding :=
    violationIf (binding ≠ .attendedV1) "owner_contract_mismatch" "owner_contract"
      "package updater owner binding differs from the pinned attended updater contract"

abbrev PackageInstallTargetPreflight := TargetPreflight

def packagePreflightProfile : PreflightProfile where
  capabilityId := packageUpdaterCapabilityId
  owner := packageUpdaterOwner
  unavailable := "unavailable"
  revisionMessage := "identity and capability revisions must be greater than zero"
  ownerMessage := "package install preflight must use the Rusty Quest updater capability"

structure PackageInstallReleasePreview where
  schema : String
  previewId : String
  operationId : String
  actionId : String
  createdAtMs : Int
  expiresAtMs : Int
  fleetRevision : Nat
  release : PackageReleaseReference
  expectedPackageName : String
  expectedRolloutRing : String
  ownerContract : PackageUpdaterOwnerContractBinding
  targets : List PackageInstallTargetPreflight
deriving DecidableEq

def packagePreflightsViolations (preview : PackageInstallReleasePreview) : List ContractViolation :=
  violationIf (preview.targets.length = 0 ∨ preview.targets.length > 10000)
    "invalid_target_count" "targets" "package previews require 1 through 10000 targets" ++
  preflightListViolations packagePreflightProfile.violations
    "preflights must be sorted, unique, and evaluated inside the preview window"
    preview.createdAtMs preview.expiresAtMs none 0 preview.targets

instance : ValidateContract PackageInstallReleasePreview where
  violations preview :=
    violationIf (preview.schema ≠ "rusty.fleet.package_install_release_preview.v1")
      "wrong_schema" "schema" "expected rusty.fleet.package_install_release_preview.v1" ++
    violationIf (¬ isPortableId preview.previewId 256 ∨ ¬ isPortableId preview.operationId 256 ∨
        preview.actionId ≠ packagesInstallReleaseActionId ∨ preview.createdAtMs < 0 ∨
        preview.expiresAtMs ≤ preview.createdAtMs ∨ preview.fleetRevision = 0 ∨
        ¬ isPackageName preview.expectedPackageName ∨ ¬ isPortableId preview.expectedRolloutRing 128)
      "invalid_preview_header" "preview"
      "package preview identity, action, time, package, ring, or revision is invalid" ++
    violations preview.release ++
    violations preview.ownerContract ++
    packagePreflightsViolations preview

structure PackageUpdaterInvocation where
  schema : String
  operationId : String
  previewId : String
  deviceId : String
  identityRevision : Nat
  ownerActionRequestId : String
  release : PackageReleaseReference
  expectedPackageName : String
  expectedRolloutRing : String
  expiresAtMs : Int
deriving DecidableEq

/-- One failure for each listed field that is not a portable identifier. -/
def identifierViolations (message : String) (fields : List (String × String)) : List ContractViolation :=
  fields.flatMap fun (path, value) =>
    violationIf (¬ isPortableId value 256) "invalid_identifier" path message

@[simp] theorem identifierViolations_nil (message : String) (fields : List (String × String)) :
    identifierViolations message fields = [] ↔
      ∀ field ∈ fields, isPortableId field.2 256 = true := by
  simp [identifierViolations]

instance : ValidateContract PackageUpdaterInvocation where
  violations invocation :=
    violationIf (invocation.schema ≠ "rusty.fleet.package_updater_invocation.v1")
      "wrong_schema" "schema" "expected rusty.fleet.package_updater_invocation.v1" ++
    identifierViolations "invocation identifiers must be bounded portable identifiers"
      [("operation_id", invocation.operationId), ("preview_id", invocation.previewId),
        ("device_id", invocation.deviceId),
        ("owner_action_request_id", invocation.ownerActionRequestId)] ++
    violationIf (invocation.identityRevision = 0 ∨ invocation.expiresAtMs < 0 ∨
        ¬ isPackageName invocation.expectedPackageName ∨
        ¬ isPortableId invocation.expectedRolloutRing 128)
      "invalid_invocation" "invocation" "invocation revision, expiry, package, or ring is invalid" ++
    violations invocation.release

structure PackageUpdaterInvocationAcknowledgement where
  schema : String
  operationId : String
  deviceId : String
  ownerActionRequestId : String
  accepted : Bool
  code : String
  acknowledgedAtMs : Int
deriving DecidableEq

instance : ValidateContract PackageUpdaterInvocationAcknowledgement where
  violations acknowledgement :=
    violationIf (acknowledgement.schema ≠ packageUpdaterAckSchema)
      "wrong_schema" "schema" "expected rusty.fleet.package_updater_invocation_acknowledgement.v1" ++
    identifierViolations "acknowledgement identifiers and code must be bounded portable identifiers"
      [("operation_id", acknowledgement.operationId), ("device_id", acknowledgement.deviceId),
        ("owner_action_request_id", acknowledgement.ownerActionRequestId),
        ("code", acknowledgement.code)] ++
    violationIf (acknowledgement.acknowledgedAtMs < 0)
      "invalid_timestamp" "acknowledged_at_ms" "acknowledgement time must be nonnegative"

inductive PackageUpdaterProgressStage
  | staged | awaitingWearer | cancellationRequested | cancelled | recoveryRequired | failed | expired
deriving DecidableEq, Repr

structure PackageUpdaterProgress where
  schema : String
  operationId : String
  deviceId : String
  ownerActionRequestId : String
  stage : PackageUpdaterProgressStage
  code : String
  message : String
  observedAtMs : Int
deriving DecidableEq

def PackageUpdaterProgress.validateFor (progress : PackageUpdaterProgress)
    (invocation : PackageUpdaterInvocation) : List ContractViolation :=
  violationIf (progress.schema ≠ packageUpdaterProgressSchema ∨
      progress.operationId ≠ invocation.operationId ∨ progress.deviceId ≠ invocation.deviceId ∨
      progress.ownerActionRequestId ≠ invocation.ownerActionRequestId ∨ progress.observedAtMs < 0 ∨
      progress.observedAtMs > invocation.expiresAtMs ∨ ¬ isPortableId progress.code 256 ∨
      progress.message.isEmpty ∨ progress.message.utf8ByteSize > 1024)
    "package_progress_binding_mismatch" "owner_progress"
    "owner progress must bind the exact invocation, bounded stage, code, message, and observation time"

inductive PackageUpdateReceiptStage
  | manifestAdmission | installCommit
deriving DecidableEq, Repr

inductive PackageUpdateReceiptDecision
  | accepted | rejected
deriving DecidableEq, Repr

structure PackageUpdateCheckpoint where
  packageName : String
  rolloutRing : String
  sequence : Nat
  versionCode : Nat
  signedManifestSha256 : String
deriving DecidableEq

structure PackageUpdateReceipt where
  schema : String
  stage : PackageUpdateReceiptStage
  decision : PackageUpdateReceiptDecision
  code : String
  observedAtMs : Int
  envelopeSha256 : Option String
  signedManifestSha256 : Option String
  keyId : Option String
  manifestId : Option String
  packageName : Option String
  rolloutRing : Option String
  sequence : Option Nat
  versionCode : Option Nat
  priorCheckpoint : Option PackageUpdateCheckpoint
  acceptedCheckpoint : Option PackageUpdateCheckpoint
  stateChanged : Bool
deriving DecidableEq

def PackageUpdateReceipt.provesInstalledVersion (receipt : PackageUpdateReceipt)
    (packageName rolloutRing : String) : Bool :=
  match receipt.acceptedCheckpoint with
  | none => false
  | some checkpoint =>
    receipt.schema == packageUpdateReceiptSchema && receipt.stage == .installCommit &&
      receipt.decision == .accepted && receipt.packageName == some packageName &&
      receipt.rolloutRing == some rolloutRing && receipt.sequence == some checkpoint.sequence &&
      receipt.versionCode == some checkpoint.versionCode &&
      receipt.signedManifestSha256 == some checkpoint.signedManifestSha256 &&
      checkpoint.packageName == packageName && checkpoint.rolloutRing == rolloutRing &&
      checkpoint.sequence > 0 && checkpoint.versionCode > 0 &&
      isPrefixedSha256 checkpoint.signedManifestSha256

instance : ValidateContract PackageUpdateReceipt where
  violations receipt :=
    violationIf (receipt.schema ≠ packageUpdateReceiptSchema)
      "wrong_schema" "schema" "expected rusty.quest.package_update_receipt.v1" ++
    violationIf (¬ isPortableId receipt.code 256 ∨ receipt.observedAtMs < 0)
      "invalid_receipt_header" "receipt" "receipt code or observation time is invalid" ++
    [("envelope_sha256", receipt.envelopeSha256),
      ("signed_manifest_sha256", receipt.signedManifestSha256)].flatMap (fun (path, digest) =>
        violationIf (digest.any fun value => !isPrefixedSha256 value)
          "invalid_sha256" path "digest must use sha256: followed by lowercase hex") ++
    violationIf (receipt.acceptedCheckpoint.any fun checkpoint =>
        !isPackageName checkpoint.packageName || !isPortableId checkpoint.rolloutRing 128 ||
          checkpoint.sequence == 0 || checkpoint.versionCode == 0 ||
          !isPrefixedSha256 checkpoint.signedManifestSha256)
      "invalid_checkpoint" "accepted_checkpoint" "accepted checkpoint is invalid" ++
    violationIf (receipt.decision = .rejected ∧ (receipt.acceptedCheckpoint.isSome ∨ receipt.stateChanged))
      "rejected_state_change" "state_changed"
      "a rejected owner receipt cannot advance updater state"

structure PackageUpdaterEffectiveReceipt where
  schema : String
  operationId : String
  deviceId : String
  identityRevision : Nat
  ownerActionRequestId : String
  updaterReceipt : PackageUpdateReceipt
  wrappedAtMs : Int
deriving DecidableEq

def PackageUpdaterEffectiveReceipt.validateFor (receipt : PackageUpdaterEffectiveReceipt)
    (invocation : PackageUpdaterInvocation) : List ContractViolation :=
  violationIf (receipt.schema ≠ "rusty.fleet.package_updater_effective_receipt.v1" ∨
      receipt.operationId ≠ invocation.operationId ∨ receipt.deviceId ≠ invocation.deviceId ∨
      receipt.identityRevision ≠ invocation.identityRevision ∨
      receipt.ownerActionRequestId ≠ invocation.ownerActionRequestId ∨ receipt.wrappedAtMs < 0 ∨
      receipt.wrappedAtMs > invocation.expiresAtMs)
    "effective_receipt_binding_mismatch" "effective_receipt"
    "effective receipt must bind the exact invocation and its deadline" ++
  violations receipt.updaterReceipt ++
  violationIf (¬ receipt.updaterReceipt.provesInstalledVersion invocation.expectedPackageName
      invocation.expectedRolloutRing)
    "installed_version_not_proven" "updater_receipt"
    "only an accepted install_commit checkpoint for the expected package and ring proves application"

structure PackageUpdaterClaim where
  schema : String
  claimId : String
  ownerId : String
  requestId : String
  claimedAtMs : Int
  expiresAtMs : Int
  invocationSha256 : String
  releaseSha256 : String
  targetSha256 : String
  invocation : PackageUpdaterInvocation
deriving DecidableEq

structure ConsumedPackageUpdaterClaimIdentity where
  claimId : String
  requestId : String
deriving DecidableEq, Repr

instance : ValidateContract PackageUpdaterClaim where
  violations claim :=
    violationIf (claim.schema ≠ packageUpdaterClaimSchema ∨ claim.claimedAtMs < 0 ∨
        claim.expiresAtMs ≤ claim.claimedAtMs ∨ claim.expiresAtMs > claim.invocation.expiresAtMs)
      "invalid_claim" "claim" "owner claim schema or bounded lifetime is invalid" ++
    identifierViolations "claim identifiers must be bounded portable identifiers"
      [("claim_id", claim.claimId), ("owner_id", claim.ownerId), ("request_id", claim.requestId)] ++
    [("invocation_sha256", claim.invocationSha256), ("release_sha256", claim.releaseSha256),
      ("target_sha256", claim.targetSha256)].flatMap (fun (path, digest) =>
        violationIf (¬ isPrefixedSha256 digest)
          "invalid_sha256" path "claim digests must use sha256: followed by lowercase hex") ++
    violations claim.invocation

inductive PackageInstallStage
  | preflightRejected | previewReady | approved | dispatchReady | ownerAcknowledged | staged
  | awaitingWearer | cancellationRequested | cancelled | applied | failed | expired | recoveryRequired
deriving DecidableEq, Repr

def progressStageToInstallStage : PackageUpdaterProgressStage → PackageInstallStage
  | .staged => .staged
  | .awaitingWearer => .awaitingWearer
  | .cancellationRequested => .cancellationRequested
  | .cancelled => .cancelled
  | .recoveryRequired => .recoveryRequired
  | .failed => .failed
  | .expired => .expired

def progressStageToLifecycle : PackageUpdaterProgressStage → CommandLifecycle
  | .staged | .awaitingWearer | .recoveryRequired => .running
  | .cancellationRequested => .cancellationRequested
  | .cancelled => .cancelled
  | .failed => .failed
  | .expired => .expired

structure PackageInstallTargetLedger where
  deviceId : String
  identityRevision : Nat
  preflight : PackageInstallTargetPreflight
  lifecycle : CommandLifecycle
  stage : PackageInstallStage
  invocation : Option PackageUpdaterInvocation
  ownerClaim : Option PackageUpdaterClaim
  priorOwnerClaims : List PackageUpdaterClaim
  consumedOwnerClaimIdentities : List ConsumedPackageUpdaterClaimIdentity
  invocationAcknowledgement : Option PackageUpdaterInvocationAcknowledgement
  ownerProgress : Option PackageUpdaterProgress
  effectiveReceipt : Option PackageUpdaterEffectiveReceipt
  reasonCode : String
  message : String
  lastTransitionMs : Int
deriving DecidableEq

/-- The target occupies a delivery slot in the validator's count. -/
def PackageInstallTargetLedger.occupiesSlot (target : PackageInstallTargetLedger) : Bool :=
  target.lifecycle == .dispatched || target.lifecycle == .running ||
    (target.lifecycle == .accepted && target.ownerClaim.isSome)

structure PackageInstallReleaseOperation where
  schema : String
  operationId : String
  actionId : String
  createdAtMs : Int
  preview : PackageInstallReleasePreview
  lifecycle : CommandLifecycle
  maxParallelism : Nat
  cleanupRequired : Bool
  targets : List PackageInstallTargetLedger
deriving DecidableEq

namespace PackageInstallReleaseOperation

def eligibleTargets (operation : PackageInstallReleaseOperation) : List PackageInstallTargetLedger :=
  operation.targets.filter (·.preflight.eligible)

def derivedLifecycle (operation : PackageInstallReleaseOperation) : CommandLifecycle :=
  let eligible := operation.eligibleTargets
  if eligible.isEmpty then .rejected
  else if eligible.any (·.lifecycle == .running) then .running
  else if eligible.any (·.lifecycle == .dispatched) then .dispatched
  else if eligible.any (·.lifecycle == .proposed) then .proposed
  else if eligible.any (·.lifecycle == .accepted) then .accepted
  else if eligible.all (·.lifecycle == .applied) then .applied
  else if eligible.all (·.lifecycle == .expired) then .expired
  else .failed

def isTerminal (operation : PackageInstallReleaseOperation) : Bool :=
  operation.targets.all (·.lifecycle.isSettled)

def occupiedDeliverySlots (operation : PackageInstallReleaseOperation) : Nat :=
  operation.targets.countP (·.occupiesSlot)

end PackageInstallReleaseOperation

inductive PackageOperationRetention
  | active | archived
deriving DecidableEq, Repr

structure PackageInstallReleaseProgress where
  schema : String
  operationId : String
  operationSha256 : String
  lifecycle : CommandLifecycle
  retention : PackageOperationRetention
  archivedAtMs : Option Int
  createdAtMs : Int
  lastTransitionMs : Int
  totalTargets : Nat
  eligibleTargets : Nat
  excludedTargets : Nat
  previewReady : Nat
  approved : Nat
  dispatchReady : Nat
  claimed : Nat
  ownerAcknowledged : Nat
  staged : Nat
  awaitingWearer : Nat
  cancellationRequested : Nat
  recoveryRequired : Nat
  applied : Nat
  failed : Nat
  expired : Nat
  cancelled : Nat
  retainedOwnerClaims : Nat
  maxParallelism : Nat
  terminalTargets : Nat
  terminal : Bool
  archiveEligible : Bool
deriving DecidableEq

/-- SHA-256 over the canonical JSON of an operation. -/
class OperationDigest where
  operationSha256 : PackageInstallReleaseOperation → String

namespace PackageInstallReleaseOperation

variable [OperationDigest] (operation : PackageInstallReleaseOperation)

def operationSha256 : String := OperationDigest.operationSha256 operation

def countStage (operation : PackageInstallReleaseOperation) (stage : PackageInstallStage) : Nat :=
  operation.targets.countP (·.stage == stage)

/-- `max` over the targets' last transitions, or the creation time without targets. -/
def latestTransitionMs (operation : PackageInstallReleaseOperation) : Int :=
  ((operation.targets.map (·.lastTransitionMs)).max?).getD operation.createdAtMs

def progress (retention : PackageOperationRetention) (archivedAtMs : Option Int) :
    PackageInstallReleaseProgress where
  schema := packageOperationProgressSchema
  operationId := operation.operationId
  operationSha256 := operation.operationSha256
  lifecycle := operation.lifecycle
  retention := retention
  archivedAtMs := archivedAtMs
  createdAtMs := operation.createdAtMs
  lastTransitionMs := operation.latestTransitionMs
  totalTargets := operation.targets.length
  eligibleTargets := operation.targets.countP (·.preflight.eligible)
  excludedTargets := operation.targets.length - operation.targets.countP (·.preflight.eligible)
  previewReady := operation.countStage .previewReady
  approved := operation.countStage .approved
  dispatchReady := operation.targets.countP fun target =>
    target.stage == .dispatchReady && target.ownerClaim.isNone
  claimed := operation.targets.countP fun target =>
    target.lifecycle == .accepted && target.ownerClaim.isSome
  ownerAcknowledged := operation.countStage .ownerAcknowledged
  staged := operation.countStage .staged
  awaitingWearer := operation.countStage .awaitingWearer
  cancellationRequested := operation.countStage .cancellationRequested
  recoveryRequired := operation.countStage .recoveryRequired
  applied := operation.countStage .applied
  failed := operation.countStage .failed
  expired := operation.countStage .expired
  cancelled := operation.countStage .cancelled
  retainedOwnerClaims := operation.targets.countP (·.occupiesSlot)
  maxParallelism := operation.maxParallelism
  terminalTargets := operation.targets.countP (·.lifecycle.isSettled)
  terminal := operation.isTerminal
  archiveEligible := operation.isTerminal && retention == .active

end PackageInstallReleaseOperation

def PackageInstallReleaseProgress.validateFor [OperationDigest] (progress : PackageInstallReleaseProgress)
    (operation : PackageInstallReleaseOperation) : List ContractViolation :=
  violationIf (¬ (progress = operation.progress progress.retention progress.archivedAtMs ∧
      (progress.retention ≠ .archived ∨ progress.archivedAtMs.any (· ≥ progress.lastTransitionMs))))
    "package_progress_projection_mismatch" "progress"
    "package progress must be the exact count projection over the immutable operation"

structure PackageOperationArchiveRequest where
  schema : String
  operationId : String
  expectedOperationSha256 : String
deriving DecidableEq

instance : ValidateContract PackageOperationArchiveRequest where
  violations request :=
    violationIf (request.schema ≠ packageOperationArchiveRequestSchema ∨
        ¬ isPortableId request.operationId 256 ∨ ¬ isPrefixedSha256 request.expectedOperationSha256)
      "invalid_package_archive_request" "archive_request"
      "archive request must bind one portable operation ID and exact operation SHA-256"

structure PackageInstallReleaseArchive where
  schema : String
  operationId : String
  operationSha256 : String
  archivedAtMs : Int
  progress : PackageInstallReleaseProgress
  operation : PackageInstallReleaseOperation
deriving DecidableEq

instance [OperationDigest] : ValidateContract PackageInstallReleaseArchive where
  violations archive :=
    violationIf (archive.schema ≠ packageOperationArchiveSchema ∨
        archive.operationId ≠ archive.operation.operationId ∨
        archive.operationSha256 ≠ archive.operation.operationSha256 ∨ archive.archivedAtMs < 0 ∨
        ¬ archive.operation.isTerminal ∨ archive.progress.retention ≠ .archived ∨
        archive.progress.archivedAtMs ≠ some archive.archivedAtMs ∨
        archive.progress.validateFor archive.operation ≠ [])
      "invalid_package_operation_archive" "archive"
      "archive must retain one exact terminal operation and its archived progress projection"

end RustyFleet

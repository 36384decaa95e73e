import RustyFleet.Hub.Preflights
import RustyFleet.Support.Lists

namespace RustyFleet

structure PackageInstallReleasePreviewPlan where
  operationId : String
  previewId : String
  request : PackageInstallReleasePreviewRequest
  createdAtMs : Int
  expiresAtMs : Int
  maxParallelism : Nat

def packagePreviewMaxLifetimeMs : Int := 15 * 60 * 1000

def maxPriorOwnerClaims : Nat := 16

def packageUpdaterEvidence : EvidenceProfile where
  capabilityId := packageUpdaterCapabilityId
  owner := packageUpdaterOwner
  unavailable := "unavailable"
  wrongOwnerMessage := "Package updater capability evidence has the wrong owner"
  absentMessage := "No Rusty Quest package-updater capability evidence is present"

def packageTargetTexts : RequestedTargetTexts where
  notFoundCode := "package_target_not_found"
  notFound := fun deviceId => "unknown package operation target " ++ deviceId
  mismatchCode := "package_target_identity_mismatch"
  mismatch := fun deviceId _ _ =>
    "target " ++ deviceId ++ " identity revision differs from the request"

def validatePackageOperation (operation : PackageInstallReleaseOperation) : HubResult Unit :=
  rejectIf (¬ Valid operation) "package_operation_invalid"
    ("package operation failed validation: " ++ failureSummary (violations operation))

def packageProgressTransitionAllowed : PackageInstallStage → PackageUpdaterProgressStage → Bool
  | .ownerAcknowledged, next =>
    [.staged, .awaitingWearer, .recoveryRequired, .failed, .expired].contains next
  | .staged, next =>
    [.awaitingWearer, .cancellationRequested, .recoveryRequired, .failed, .expired].contains next
  | .awaitingWearer, next => [.cancellationRequested, .recoveryRequired, .failed, .expired].contains next
  | .recoveryRequired, next =>
    [.staged, .awaitingWearer, .cancellationRequested, .failed, .expired].contains next
  | .cancellationRequested, next => [.cancelled, .recoveryRequired, .failed, .expired].contains next
  | _, _ => false

namespace PackageInstallTargetLedger

def proposed (createdAtMs : Int) (preflight : PackageInstallTargetPreflight) :
    PackageInstallTargetLedger where
  deviceId := preflight.deviceId
  identityRevision := preflight.identityRevision
  preflight := preflight
  lifecycle := if preflight.eligible then .proposed else .rejected
  stage := if preflight.eligible then .previewReady else .preflightRejected
  invocation := none
  ownerClaim := none
  priorOwnerClaims := []
  consumedOwnerClaimIdentities := []
  invocationAcknowledgement := none
  ownerProgress := none
  effectiveReceipt := none
  reasonCode := if preflight.eligible then "preview_ready" else "preflight_excluded"
  message :=
    if preflight.eligible then "Target is ready for explicit confirmation"
    else "Target was excluded by the frozen updater preflight"
  lastTransitionMs := createdAtMs

variable (target : PackageInstallTargetLedger)

def confirmed (nowMs : Int) : PackageInstallTargetLedger :=
  if target.preflight.eligible then
    { target with
      lifecycle := .accepted
      stage := .approved
      reasonCode := "operator_confirmed"
      message := "Exact package preview confirmed for dispatch"
      lastTransitionMs := nowMs }
  else target

def prepared (invocation : PackageUpdaterInvocation) (nowMs : Int) : PackageInstallTargetLedger :=
  { target with
    invocation := some invocation
    lifecycle := .accepted
    stage := .dispatchReady
    reasonCode := "owner_dispatch_ready"
    message := "Exact updater invocation is ready for delivery; application remains unproven"
    lastTransitionMs := nowMs }

def offered (claim : PackageUpdaterClaim) (nowMs : Int) : PackageInstallTargetLedger :=
  { target with
    consumedOwnerClaimIdentities :=
      target.consumedOwnerClaimIdentities ++ [⟨claim.claimId, claim.requestId⟩]
    ownerClaim := some claim
    reasonCode := "owner_delivery_offered"
    message :=
      "Authenticated updater owner claimed the exact invocation; transport remains unacknowledged"
    lastTransitionMs := nowMs }

/-- The claim `expire_package_updater_claims` takes from the target, if it takes one. -/
def expiredClaim (nowMs : Int) : Option PackageUpdaterClaim :=
  if target.lifecycle = .accepted ∧ target.stage = .dispatchReady then
    target.ownerClaim.filter fun claim => claim.expiresAtMs ≤ nowMs
  else none

def claimReleased (prior : PackageUpdaterClaim) (nowMs : Int) : PackageInstallTargetLedger :=
  let retained :=
    if target.priorOwnerClaims.length ≥ maxPriorOwnerClaims then target.priorOwnerClaims.tail
    else target.priorOwnerClaims
  let released :=
    { target with
      ownerClaim := none
      priorOwnerClaims := retained ++ [prior]
      lastTransitionMs := nowMs }
  if target.consumedOwnerClaimIdentities.length ≥ maxConsumedPackageOwnerClaims then
    { released with
      lifecycle := .failed
      stage := .failed
      reasonCode := "owner_replay_authority_exhausted"
      message := "Bounded durable replay authority is exhausted; target failed closed" }
  else
    { released with
      lifecycle := .accepted
      stage := .dispatchReady
      reasonCode := "owner_claim_expired"
      message := "Prior owner claim expired unacknowledged; a fresh exact request may retry" }

def claimExpired (nowMs : Int) : PackageInstallTargetLedger :=
  match target.expiredClaim nowMs with
  | some prior => target.claimReleased prior nowMs
  | none => target

def acknowledged (acknowledgement : PackageUpdaterInvocationAcknowledgement) (nowMs : Int) :
    PackageInstallTargetLedger :=
  { target with
    invocationAcknowledgement := some acknowledgement
    lifecycle := if acknowledgement.accepted then .dispatched else .failed
    stage := if acknowledgement.accepted then .ownerAcknowledged else .failed
    reasonCode :=
      if acknowledgement.accepted then "owner_invocation_acknowledged" else "owner_invocation_rejected"
    message :=
      if acknowledgement.accepted then
        "Updater acknowledged invocation; installed-version proof is still pending"
      else "Updater rejected the invocation"
    lastTransitionMs := nowMs }

def received (receipt : PackageUpdaterEffectiveReceipt) (nowMs : Int) : PackageInstallTargetLedger :=
  { target with
    effectiveReceipt := some receipt
    lifecycle := .applied
    stage := .applied
    reasonCode := "owner_effective_installed_version"
    message := "Updater install_commit receipt proves the effective installed package version"
    lastTransitionMs := nowMs }

def progressed (progress : PackageUpdaterProgress) (nowMs : Int) : PackageInstallTargetLedger :=
  { target with
    stage := progressStageToInstallStage progress.stage
    lifecycle := progressStageToLifecycle progress.stage
    reasonCode := progress.code
    message := progress.message
    ownerProgress := some progress
    lastTransitionMs := nowMs }

/-- The target waits for its first or next owner claim. -/
def dispatchReady : Prop := target.lifecycle = .accepted ∧ target.stage = .dispatchReady

instance : Decidable target.dispatchReady := inferInstanceAs (Decidable (_ ∧ _))

end PackageInstallTargetLedger

namespace PackageInstallReleaseOperation

variable (operation : PackageInstallReleaseOperation)

def rederived : PackageInstallReleaseOperation :=
  { operation with lifecycle := operation.derivedLifecycle }

def rewriteTarget (deviceId : String)
    (rewrite : PackageInstallTargetLedger → PackageInstallTargetLedger) :
    PackageInstallReleaseOperation :=
  { operation with
    targets := Support.modifyFirst (·.deviceId == deviceId) rewrite operation.targets }

def findTarget (deviceId : String) : Option PackageInstallTargetLedger :=
  operation.targets.find? (·.deviceId == deviceId)

def confirmed (nowMs : Int) : PackageInstallReleaseOperation :=
  rederived { operation with targets := operation.targets.map (·.confirmed nowMs) }

def claimsExpired (nowMs : Int) : PackageInstallReleaseOperation :=
  rederived { operation with targets := operation.targets.map (·.claimExpired nowMs) }

def expiredClaimCount (nowMs : Int) : Nat :=
  operation.targets.countP fun target => (target.expiredClaim nowMs).isSome

def invocationFor (target : PackageInstallTargetLedger) (ownerActionRequestId : String) :
    PackageUpdaterInvocation where
  schema := "rusty.fleet.package_updater_invocation.v1"
  operationId := operation.operationId
  previewId := operation.preview.previewId
  deviceId := target.deviceId
  identityRevision := target.identityRevision
  ownerActionRequestId := ownerActionRequestId
  release := operation.preview.release
  expectedPackageName := operation.preview.expectedPackageName
  expectedRolloutRing := operation.preview.expectedRolloutRing
  expiresAtMs := operation.preview.expiresAtMs

/-- The slots `select_package_updater_offer` counts as occupied. -/
def occupiedForSelection (nowMs : Int) : Nat :=
  operation.targets.countP fun target =>
    target.lifecycle == .dispatched || target.lifecycle == .running ||
      (target.lifecycle == .accepted && target.ownerClaim.any fun claim => claim.expiresAtMs > nowMs)

/-- The claims `offer_package_updater_claim` counts as active. -/
def activeClaims (nowMs : Int) : Nat :=
  operation.targets.countP fun target =>
    target.ownerClaim.any (fun claim => claim.expiresAtMs > nowMs) &&
      !([.applied, .failed, .cancelled, .expired].contains target.lifecycle)

def offerableInvocation (nowMs : Int) (target : PackageInstallTargetLedger) :
    Option PackageUpdaterInvocation :=
  target.invocation.filter fun invocation =>
    target.lifecycle == .accepted && target.stage == .dispatchReady &&
      target.ownerClaim.all (fun claim => claim.expiresAtMs ≤ nowMs) &&
      target.consumedOwnerClaimIdentities.length < maxConsumedPackageOwnerClaims &&
      invocation.expiresAtMs > nowMs

def selectOffer (nowMs : Int) : Option PackageUpdaterInvocation :=
  if operation.occupiedForSelection nowMs ≥ operation.maxParallelism then none
  else operation.targets.findSome? (offerableInvocation nowMs)

end PackageInstallReleaseOperation

namespace PackageInstallReleasePreviewPlan

variable (plan : PackageInstallReleasePreviewPlan)

def validatePackagePreviewPlan : HubResult Unit :=
  rejectIf (plan.operationId.isEmpty ∨ plan.operationId.utf8ByteSize > 256 ∨ plan.previewId.isEmpty ∨
      plan.previewId.utf8ByteSize > 256 ∨ ¬ Valid plan.request ∨ plan.createdAtMs < 0 ∨
      plan.expiresAtMs ≤ plan.createdAtMs ∨
      saturateI64 (plan.expiresAtMs - plan.createdAtMs) > packagePreviewMaxLifetimeMs ∨
      ¬ (1 ≤ plan.maxParallelism ∧ plan.maxParallelism ≤ 64))
    "package_preview_plan_invalid" "package preview plan is invalid or exceeds its bounded lifetime"

/-- `package_plan_matches` -/
def matchesOperation (operation : PackageInstallReleaseOperation) : Prop :=
  plan.operationId = operation.operationId ∧ plan.previewId = operation.preview.previewId ∧
    plan.createdAtMs = operation.createdAtMs ∧ plan.expiresAtMs = operation.preview.expiresAtMs ∧
    plan.maxParallelism = operation.maxParallelism ∧ plan.request.release = operation.preview.release ∧
    plan.request.expectedPackageName = operation.preview.expectedPackageName ∧
    plan.request.expectedRolloutRing = operation.preview.expectedRolloutRing ∧
    plan.request.targets =
      .ofList (operation.preview.targets.map fun target => (target.deviceId, target.identityRevision)) compare

instance (operation : PackageInstallReleaseOperation) : Decidable (plan.matchesOperation operation) :=
  inferInstanceAs (Decidable (_ ∧ _))

def frozenPreview (fleetRevision : Nat) (preflights : List PackageInstallTargetPreflight) :
    PackageInstallReleasePreview where
  schema := "rusty.fleet.package_install_release_preview.v1"
  previewId := plan.previewId
  operationId := plan.operationId
  actionId := packagesInstallReleaseActionId
  createdAtMs := plan.createdAtMs
  expiresAtMs := plan.expiresAtMs
  fleetRevision := fleetRevision
  release := plan.request.release
  expectedPackageName := plan.request.expectedPackageName
  expectedRolloutRing := plan.request.expectedRolloutRing
  ownerContract := .attendedV1
  targets := preflights

def proposedOperation (fleetRevision : Nat) (preflights : List PackageInstallTargetPreflight) :
    PackageInstallReleaseOperation :=
  PackageInstallReleaseOperation.rederived
    { schema := "rusty.fleet.package_install_release_operation.v1"
      operationId := plan.operationId
      actionId := packagesInstallReleaseActionId
      createdAtMs := plan.createdAtMs
      preview := plan.frozenPreview fleetRevision preflights
      lifecycle := .proposed
      maxParallelism := plan.maxParallelism
      cleanupRequired := false
      targets := preflights.map (.proposed plan.createdAtMs) }

end PackageInstallReleasePreviewPlan

namespace FleetHub

variable (hub : FleetHub)

def selectPackageUpdaterOffer (nowMs : Int) : Option PackageUpdaterInvocation :=
  (BTreeMap.storedValues hub.packageOperations).findSome? (·.selectOffer nowMs)

def packageOperation (operationId : String) : HubResult PackageInstallReleaseOperation :=
  orRefuse (hub.packageOperations[operationId]? <|>
      hub.packageOperationArchives[operationId]?.map (·.operation))
    "package_operation_not_found" "package operation was not found"

/-- `get_mut(..).expect(..)` after the operation was read from either map. -/
def expectedPackageOperation (operationId : String) : HubResult PackageInstallReleaseOperation :=
  orPanic hub.packageOperations[operationId]? "package operation was just read"

def packageOperationProgress [OperationDigest] (operationId : String) :
    HubResult PackageInstallReleaseProgress :=
  orRefuse (hub.packageOperations[operationId]?.map (·.progress .active none) <|>
      hub.packageOperationArchives[operationId]?.map (·.progress))
    "package_operation_not_found" "package operation was not found"

def packageUpdaterPreflight (record : DeviceRecord) (evaluatedAtMs : Int) : PackageInstallTargetPreflight :=
  frozenPreflight packageUpdaterEvidence hub.policy record evaluatedAtMs

def packageTarget (operation : PackageInstallReleaseOperation) (deviceId : String) (message : String) :
    HubResult PackageInstallTargetLedger :=
  orRefuse (operation.findTarget deviceId) "package_target_not_found" message

def requirePackageTargetCurrent (operation : PackageInstallReleaseOperation) (deviceId : String)
    (nowMs : Int) : HubResult Unit := do
  let target ← packageTarget operation deviceId "target is not in operation"
  let record ← orRefuse hub.devices[deviceId]? "package_target_not_found"
    "package target is no longer in the Fleet directory"
  rejectIf (record.observation.identity.identityRevision ≠ target.identityRevision)
    "package_target_identity_changed" "package target identity changed after preview"
  rejectIf (¬ sameFrozenFacts packageUpdaterEvidence.unavailable target.preflight
      (hub.packageUpdaterPreflight record nowMs))
    "package_target_changed_since_preview"
    "package updater capability or freshness changed after preview"

def requirePackageTargetsCurrent (operation : PackageInstallReleaseOperation) (nowMs : Int) :
    List PackageInstallTargetLedger → HubResult Unit
  | [] => .ok ()
  | target :: rest => do
    if target.preflight.eligible then hub.requirePackageTargetCurrent operation target.deviceId nowMs
    requirePackageTargetsCurrent operation nowMs rest

/-- Every package mutator on one stored operation: it is edited in place and only then validated. -/
def settlePackage (operationId : String) (edit : HubResult (LedgerEdit PackageInstallReleaseOperation)) :
    HubResult PackageInstallReleaseOperation × FleetHub :=
  match edit with
  | .error fault => (.error fault, hub)
  | .ok (.unchanged operation) => (.ok operation, hub)
  | .ok (.rewritten operation) =>
    ((validatePackageOperation operation).map fun _ => operation,
      { hub with packageOperations := hub.packageOperations.insert operationId operation })

def packagePreviewEdit (plan : PackageInstallReleasePreviewPlan) :
    HubResult (LedgerEdit PackageInstallReleaseOperation) := do
  plan.validatePackagePreviewPlan
  match hub.packageOperations[plan.operationId]?, hub.packageOperationArchives[plan.operationId]? with
  | some existing, _ =>
    rejectIf (¬ plan.matchesOperation existing) "package_operation_id_conflict"
      "operation ID already names a different immutable package preview"
    return .unchanged existing
  | none, some existing =>
    rejectIf (¬ plan.matchesOperation existing.operation) "package_operation_id_conflict"
      "operation ID already names a different archived package operation"
    return .unchanged existing.operation
  | none, none =>
    let preflights ← hub.requestedPreflights packageTargetTexts
      (fun _ record => .ok (hub.packageUpdaterPreflight record plan.createdAtMs))
      plan.request.targets.toList
    let operation := plan.proposedOperation hub.resultRevision preflights
    validatePackageOperation operation
    rejectIf (hub.packageOperations.size ≥ maxPackageOperations) "package_operation_limit_reached"
      "Fleet Hub retains at most 1000 package operations"
    return .rewritten operation

def previewPackageInstallRelease (plan : PackageInstallReleasePreviewPlan) :
    HubResult PackageInstallReleaseOperation × FleetHub :=
  hub.settlePackage plan.operationId (hub.packagePreviewEdit plan)

def packageConfirmEdit (operationId previewId : String) (nowMs : Int) :
    HubResult (LedgerEdit PackageInstallReleaseOperation) := do
  let existing ← hub.packageOperation operationId
  rejectIf (existing.preview.previewId ≠ previewId) "package_preview_mismatch"
    "execute request does not bind the immutable package preview"
  if existing.lifecycle ≠ .proposed then return .unchanged existing
  else do
    rejectIf (nowMs > existing.preview.expiresAtMs) "package_preview_expired"
      "immutable package preview expired before confirmation"
    hub.requirePackageTargetsCurrent existing nowMs existing.targets
    let operation ← hub.expectedPackageOperation operationId
    return .rewritten (operation.confirmed nowMs)

def confirmPackageInstallRelease (operationId previewId : String) (nowMs : Int) :
    HubResult PackageInstallReleaseOperation × FleetHub :=
  hub.settlePackage operationId (hub.packageConfirmEdit operationId previewId nowMs)

def packagePrepareEdit (operationId deviceId ownerActionRequestId : String) (nowMs : Int) :
    HubResult (LedgerEdit PackageInstallReleaseOperation) := do
  let existing ← hub.packageOperation operationId
  rejectIf (nowMs > existing.preview.expiresAtMs) "package_preview_expired"
    "package updater dispatch cannot begin after preview expiry"
  hub.requirePackageTargetCurrent existing deviceId nowMs
  let operation ← hub.expectedPackageOperation operationId
  let target ← packageTarget operation deviceId "target is not in operation"
  rejectIf (target.lifecycle ≠ .accepted ∨ target.stage ≠ .approved) "package_dispatch_state_invalid"
    "only a confirmed package target can prepare an owner invocation"
  let invocation := operation.invocationFor target ownerActionRequestId
  return .rewritten (operation.rewriteTarget deviceId (·.prepared invocation nowMs)).rederived

def preparePackageInstallReleaseInvocation (operationId deviceId ownerActionRequestId : String)
    (nowMs : Int) : HubResult PackageInstallReleaseOperation × FleetHub :=
  hub.settlePackage operationId
    (hub.packagePrepareEdit operationId deviceId ownerActionRequestId nowMs)

/-- Some active operation already consumed the claim's identifier or its request's. -/
def replaysConsumedClaim (claim : PackageUpdaterClaim) : Bool :=
  BTreeMap.anyEntry hub.packageOperations fun _ operation =>
    operation.targets.any fun target =>
      target.consumedOwnerClaimIdentities.any fun existing =>
        existing.claimId == claim.claimId || existing.requestId == claim.requestId

def packageOfferEdit (claim : PackageUpdaterClaim) (nowMs : Int) :
    HubResult (LedgerEdit PackageInstallReleaseOperation) := do
  rejectIf (¬ Valid claim ∨ nowMs < claim.claimedAtMs ∨ nowMs ≥ claim.expiresAtMs)
    "package_owner_claim_invalid" "owner claim is invalid or outside its bounded lifetime"
  rejectIf (hub.replaysConsumedClaim claim) "package_owner_claim_replay"
    "owner claim or request identifier was already consumed"
  let operation ← orRefuse hub.packageOperations[claim.invocation.operationId]?
    "package_operation_not_found" "operation not found"
  rejectIf (operation.activeClaims nowMs ≥ operation.maxParallelism) "package_owner_scheduler_saturated"
    "bounded package delivery scheduler has no free claim slot"
  let target ← packageTarget operation claim.invocation.deviceId "target not found"
  rejectIf (target.lifecycle ≠ .accepted ∨ target.stage ≠ .dispatchReady ∨
      target.invocation ≠ some claim.invocation ∨ target.ownerClaim.isSome)
    "package_owner_claim_state_invalid"
    "only one unclaimed dispatch-ready invocation can be offered"
  rejectIf (target.consumedOwnerClaimIdentities.length ≥ maxConsumedPackageOwnerClaims)
    "package_owner_replay_authority_exhausted"
    "bounded durable replay authority is exhausted for this target"
  return .rewritten (operation.rewriteTarget claim.invocation.deviceId (·.offered claim nowMs))

def offerPackageUpdaterClaim (claim : PackageUpdaterClaim) (nowMs : Int) :
    HubResult PackageInstallReleaseOperation × FleetHub :=
  hub.settlePackage claim.invocation.operationId (hub.packageOfferEdit claim nowMs)

/-- The loop of `expire_package_updater_claims` over the operations not yet visited. -/
def expireClaimsLoop (nowMs : Int) (expired : Nat)
    (stored : BTreeMap String PackageInstallReleaseOperation) :
    List (String × PackageInstallReleaseOperation) →
      HubResult Nat × BTreeMap String PackageInstallReleaseOperation
  | [] => (.ok expired, stored)
  | (operationId, operation) :: rest =>
    let edited := operation.claimsExpired nowMs
    let stored := stored.insert operationId edited
    match validatePackageOperation edited with
    | .error fault => (.error fault, stored)
    | .ok _ => expireClaimsLoop nowMs (expired + operation.expiredClaimCount nowMs) stored rest

def expirePackageUpdaterClaims (nowMs : Int) : HubResult Nat × FleetHub :=
  let (expired, stored) :=
    expireClaimsLoop nowMs 0 hub.packageOperations hub.packageOperations.toList
  (expired, { hub with packageOperations := stored })

def packageInvocation (target : PackageInstallTargetLedger) : HubResult PackageUpdaterInvocation :=
  orRefuse target.invocation "package_invocation_missing" "target has no dispatched updater invocation"

def packageAcknowledgementEdit (acknowledgement : PackageUpdaterInvocationAcknowledgement)
    (nowMs : Int) : HubResult (LedgerEdit PackageInstallReleaseOperation) := do
  let operation ← orRefuse hub.packageOperations[acknowledgement.operationId]?
    "package_operation_not_found" "package operation was not found"
  let target ← packageTarget operation acknowledgement.deviceId "target is not in operation"
  let invocation ← packageInvocation target
  rejectIf (¬ Valid acknowledgement ∨ acknowledgement.operationId ≠ invocation.operationId ∨
      acknowledgement.deviceId ≠ invocation.deviceId ∨
      acknowledgement.ownerActionRequestId ≠ invocation.ownerActionRequestId ∨
      acknowledgement.acknowledgedAtMs > nowMs ∨ nowMs > invocation.expiresAtMs)
    "package_acknowledgement_invalid"
    "updater acknowledgement is invalid, stale, or not bound to the invocation"
  rejectIf (target.lifecycle ≠ .accepted ∨ target.stage ≠ .dispatchReady)
    "package_acknowledgement_state_invalid"
    "only a dispatched target accepts one updater acknowledgement"
  return .rewritten (operation.rewriteTarget acknowledgement.deviceId
    (·.acknowledged acknowledgement nowMs)).rederived

def admitAuthenticatedPackageUpdaterAcknowledgement
    (acknowledgement : PackageUpdaterInvocationAcknowledgement) (nowMs : Int) :
    HubResult PackageInstallReleaseOperation × FleetHub :=
  hub.settlePackage acknowledgement.operationId (hub.packageAcknowledgementEdit acknowledgement nowMs)

def packageReceiptEdit (receipt : PackageUpdaterEffectiveReceipt) (nowMs : Int) :
    HubResult (LedgerEdit PackageInstallReleaseOperation) := do
  let operation ← orRefuse hub.packageOperations[receipt.operationId]?
    "package_operation_not_found" "package operation was not found"
  let target ← packageTarget operation receipt.deviceId "target is not in operation"
  let invocation ← packageInvocation target
  rejectIf (target.lifecycle ∉ [.dispatched, .running, .cancellationRequested])
    "package_receipt_state_invalid" "only an in-flight package target accepts an effective receipt"
  rejectIf (nowMs > invocation.expiresAtMs ∨ receipt.validateFor invocation ≠ [])
    "package_effective_receipt_invalid"
    "owner receipt does not prove the exact installed package version"
  return .rewritten (operation.rewriteTarget receipt.deviceId (·.received receipt nowMs)).rederived

def admitAuthenticatedPackageUpdaterReceipt (receipt : PackageUpdaterEffectiveReceipt) (nowMs : Int) :
    HubResult PackageInstallReleaseOperation × FleetHub :=
  hub.settlePackage receipt.operationId (hub.packageReceiptEdit receipt nowMs)

/-- The retained acknowledgement was accepted, names the report's request and does not postdate it. -/
def acknowledgesProgress (progress : PackageUpdaterProgress)
    (acknowledgement : PackageUpdaterInvocationAcknowledgement) : Prop :=
  acknowledgement.accepted = true ∧ acknowledgement.operationId = progress.operationId ∧
    acknowledgement.deviceId = progress.deviceId ∧
    acknowledgement.ownerActionRequestId = progress.ownerActionRequestId ∧
    acknowledgement.acknowledgedAtMs ≤ progress.observedAtMs

instance (progress : PackageUpdaterProgress) (acknowledgement : PackageUpdaterInvocationAcknowledgement) :
    Decidable (acknowledgesProgress progress acknowledgement) :=
  inferInstanceAs (Decidable (_ ∧ _))

def packageProgressEdit (progress : PackageUpdaterProgress) (nowMs : Int) :
    HubResult (LedgerEdit PackageInstallReleaseOperation) := do
  let operation ← orRefuse hub.packageOperations[progress.operationId]?
    "package_operation_not_found" "package operation was not found or is archived"
  let target ← packageTarget operation progress.deviceId "target is not in operation"
  let invocation ← packageInvocation target
  rejectIf (progress.validateFor invocation ≠ [] ∨ progress.observedAtMs > nowMs ∨
      ¬ ∃ acknowledgement ∈ target.invocationAcknowledgement,
        acknowledgesProgress progress acknowledgement)
    "package_progress_invalid"
    "owner progress is stale, future-dated, or not bound to an accepted acknowledgement"
  if target.ownerProgress = some progress then return .unchanged operation
  else do
    rejectIf ((∃ prior ∈ target.ownerProgress, prior.observedAtMs ≥ progress.observedAtMs) ∨
        ¬ packageProgressTransitionAllowed target.stage progress.stage)
      "package_progress_transition_invalid"
      "owner progress must advance monotonically from the retained package stage"
    return .rewritten (operation.rewriteTarget progress.deviceId (·.progressed progress nowMs)).rederived

def admitAuthenticatedPackageUpdaterProgress (progress : PackageUpdaterProgress) (nowMs : Int) :
    HubResult PackageInstallReleaseOperation × FleetHub :=
  hub.settlePackage progress.operationId (hub.packageProgressEdit progress nowMs)

variable [OperationDigest]

def archiveRecord (operation : PackageInstallReleaseOperation) (nowMs : Int) :
    PackageInstallReleaseArchive where
  schema := packageOperationArchiveSchema
  operationId := operation.operationId
  operationSha256 := operation.operationSha256
  archivedAtMs := nowMs
  progress := operation.progress .archived (some nowMs)
  operation := operation

/-- The archive record the Hub already keeps or is about to keep for the request. -/
def packageArchiveEdit (request : PackageOperationArchiveRequest) (nowMs : Int) :
    HubResult (LedgerEdit PackageInstallReleaseArchive) := do
  rejectIf (¬ Valid request ∨ nowMs < 0) "package_archive_request_invalid"
    "package archive request is invalid"
  match hub.packageOperationArchives[request.operationId]? with
  | some existing =>
    rejectIf (existing.operationSha256 ≠ request.expectedOperationSha256)
      "package_archive_operation_changed"
      "archived package operation does not match the expected SHA-256"
    return .unchanged existing
  | none =>
    let operation ← orRefuse hub.packageOperations[request.operationId]? "package_operation_not_found"
      "package operation was not found"
    rejectIf (¬ operation.isTerminal) "package_operation_not_terminal"
      "only an operation with every target terminal can be archived"
    rejectIf (operation.operationSha256 ≠ request.expectedOperationSha256)
      "package_archive_operation_changed" "package operation changed after the archive proposal"
    rejectIf (hub.packageOperationArchives.size ≥ maxArchivedPackageOperations)
      "package_archive_limit_reached" "Fleet Hub retains at most 10000 archived package operations"
    rejectIf (nowMs < operation.latestTransitionMs) "package_archive_time_invalid"
      "archive time cannot precede the terminal operation"
    rejectIf (¬ Valid (archiveRecord operation nowMs)) "package_archive_invalid"
      "constructed package archive failed contract validation"
    return .rewritten (archiveRecord operation nowMs)

def archivePackageOperation (request : PackageOperationArchiveRequest) (nowMs : Int) :
    HubResult PackageInstallReleaseArchive × FleetHub :=
  match hub.packageArchiveEdit request nowMs with
  | .error fault => (.error fault, hub)
  | .ok (.unchanged archive) => (.ok archive, hub)
  | .ok (.rewritten archive) =>
    (.ok archive,
      { hub with
        packageOperations := hub.packageOperations.erase request.operationId
        packageOperationArchives :=
          hub.packageOperationArchives.insert request.operationId archive })

end FleetHub

end RustyFleet

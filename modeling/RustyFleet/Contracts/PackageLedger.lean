import RustyFleet.Contracts.Packages

namespace RustyFleet

/-- The acknowledgement is valid, accepted, and bound to the invocation. -/
def PackageUpdaterInvocationAcknowledgement.accepts
    (acknowledgement : PackageUpdaterInvocationAcknowledgement) (invocation : PackageUpdaterInvocation) :
    Prop :=
  Valid acknowledgement ∧ acknowledgement.accepted = true ∧
    acknowledgement.operationId = invocation.operationId ∧
    acknowledgement.deviceId = invocation.deviceId ∧
    acknowledgement.ownerActionRequestId = invocation.ownerActionRequestId

instance (acknowledgement : PackageUpdaterInvocationAcknowledgement) (invocation : PackageUpdaterInvocation) :
    Decidable (acknowledgement.accepts invocation) :=
  inferInstanceAs (Decidable (_ ∧ _))

namespace PackageInstallTargetLedger

def consumesClaim (target : PackageInstallTargetLedger) (claim : PackageUpdaterClaim) : Prop :=
  ⟨claim.claimId, claim.requestId⟩ ∈ target.consumedOwnerClaimIdentities

instance (target : PackageInstallTargetLedger) (claim : PackageUpdaterClaim) :
    Decidable (target.consumesClaim claim) :=
  inferInstanceAs (Decidable (_ ∈ _))

/-- No two consumed identities share a claim id or a request id. -/
def distinctIdentities (identities : List ConsumedPackageUpdaterClaimIdentity) : Prop :=
  identities.Pairwise fun prior identity =>
    prior.claimId ≠ identity.claimId ∧ prior.requestId ≠ identity.requestId

instance (identities : List ConsumedPackageUpdaterClaimIdentity) :
    Decidable (distinctIdentities identities) :=
  inferInstanceAs (Decidable (List.Pairwise _ _))

def consumedIdentitiesValid (target : PackageInstallTargetLedger) : Prop :=
  target.consumedOwnerClaimIdentities.length ≤ maxConsumedPackageOwnerClaims ∧
    (∀ identity ∈ target.consumedOwnerClaimIdentities,
      isPortableId identity.claimId 256 = true ∧ isPortableId identity.requestId 256 = true) ∧
    distinctIdentities target.consumedOwnerClaimIdentities

instance (target : PackageInstallTargetLedger) : Decidable target.consumedIdentitiesValid :=
  inferInstanceAs (Decidable (_ ∧ _))

def hasOwnerEvidence (target : PackageInstallTargetLedger) : Prop :=
  target.invocation.isSome ∨ target.ownerClaim.isSome ∨ target.invocationAcknowledgement.isSome ∨
    target.ownerProgress.isSome ∨ target.effectiveReceipt.isSome

instance (target : PackageInstallTargetLedger) : Decidable target.hasOwnerEvidence :=
  inferInstanceAs (Decidable (_ ∨ _))

def ineligibleViolations (path : String) (target : PackageInstallTargetLedger) : List ContractViolation :=
  violationIf (target.lifecycle ≠ .rejected ∨ target.stage ≠ .preflightRejected ∨ target.hasOwnerEvidence)
    "ineligible_target_dispatched" path
    "ineligible target must remain rejected without owner evidence"

def claimEvidenceViolations (path : String) (target : PackageInstallTargetLedger) :
    List ContractViolation :=
  violationIf (target.priorOwnerClaims.length > 16 ∨
      ∃ claim ∈ target.priorOwnerClaims, ¬ Valid claim ∨ target.invocation ≠ some claim.invocation)
    "invalid_prior_owner_claims" (path ++ ".prior_owner_claims")
    "prior claim evidence must be bounded and bind the exact immutable invocation" ++
  violationIf (¬ target.consumedIdentitiesValid ∨
      (∃ claim ∈ target.priorOwnerClaims, ¬ target.consumesClaim claim) ∨
      ∃ claim ∈ target.ownerClaim, ¬ target.consumesClaim claim)
    "invalid_consumed_owner_claim_identities" (path ++ ".consumed_owner_claim_identities")
    "durable replay authority must retain every unique consumed claim and request identity"

def proposedViolations (path : String) (target : PackageInstallTargetLedger) : List ContractViolation :=
  violationIf (target.stage ≠ .previewReady ∨ target.hasOwnerEvidence)
    "invalid_pre_dispatch_state" path "pre-dispatch target cannot contain owner evidence"

def acceptedStageValid (target : PackageInstallTargetLedger) : Bool :=
  match target.stage with
  | .approved => target.invocation.isNone
  | .dispatchReady => target.invocation.isSome
  | _ => false

def cancellationViolations (path : String) (target : PackageInstallTargetLedger) :
    List ContractViolation :=
  violationIf (target.stage ≠ .cancellationRequested ∨ target.invocation = none ∨
      target.effectiveReceipt.isSome ∨
      ¬ ∃ progress ∈ target.ownerProgress, ∃ invocation ∈ target.invocation,
        progress.validateFor invocation = [] ∧ progress.stage = .cancellationRequested)
    "invalid_cancellation_state" path
    "cancellation requires a prepared invocation and no application proof"

def cancelledViolations (path : String) (target : PackageInstallTargetLedger) : List ContractViolation :=
  violationIf (target.stage ≠ .cancelled ∨ target.invocation = none ∨ target.effectiveReceipt.isSome ∨
      ¬ ∃ progress ∈ target.ownerProgress, ∃ invocation ∈ target.invocation,
        progress.validateFor invocation = [] ∧ progress.stage = .cancelled)
    "invalid_cancelled_state" path
    "cancelled package work retains its invocation and no application proof"

def appliedViolations (path : String) (target : PackageInstallTargetLedger) : List ContractViolation :=
  violationIf (target.stage ≠ .applied)
    "invalid_applied_stage" (path ++ ".stage") "applied lifecycle requires the applied package stage" ++
  match target.invocation, target.effectiveReceipt with
  | some invocation, some receipt =>
    violationIf (receipt.validateFor invocation ≠ [])
      "applied_without_effective_receipt" (path ++ ".effective_receipt")
      "applied target requires an effective installed-version receipt" ++
    violationIf (∃ progress ∈ target.ownerProgress, progress.validateFor invocation ≠ [])
      "invalid_retained_owner_progress" (path ++ ".owner_progress")
      "applied target may retain only progress bound to the exact invocation"
  | _, _ =>
    [⟨"applied_without_effective_receipt", path ++ ".effective_receipt",
      "applied target requires invocation and installed-version receipt"⟩]

def terminalFailureViolations (path : String) (target : PackageInstallTargetLedger) :
    List ContractViolation :=
  let expectedStage : PackageInstallStage := if target.lifecycle = .expired then .expired else .failed
  violationIf (target.stage ≠ expectedStage ∨ target.invocation = none ∨ target.effectiveReceipt.isSome)
    "invalid_terminal_failure" path
    "failed or expired target retains an invocation and no effective receipt" ++
  violationIf (∃ invocation ∈ target.invocation, ∃ progress ∈ target.ownerProgress,
      progress.validateFor invocation ≠ [] ∨ progressStageToInstallStage progress.stage ≠ target.stage)
    "terminal_owner_progress_mismatch" (path ++ ".owner_progress")
    "terminal owner progress must bind the exact invocation and terminal stage"

end PackageInstallTargetLedger

namespace PackageInstallReleaseOperation

/-- The invocation binds the exact frozen operation and target. -/
def freezes (operation : PackageInstallReleaseOperation) (target : PackageInstallTargetLedger)
    (invocation : PackageUpdaterInvocation) : Prop :=
  invocation.operationId = operation.operationId ∧ invocation.previewId = operation.preview.previewId ∧
    invocation.deviceId = target.deviceId ∧ invocation.identityRevision = target.identityRevision ∧
    invocation.release = operation.preview.release ∧
    invocation.expectedPackageName = operation.preview.expectedPackageName ∧
    invocation.expectedRolloutRing = operation.preview.expectedRolloutRing

instance (operation : PackageInstallReleaseOperation) (target : PackageInstallTargetLedger)
    (invocation : PackageUpdaterInvocation) : Decidable (operation.freezes target invocation) :=
  inferInstanceAs (Decidable (_ ∧ _))

variable (operation : PackageInstallReleaseOperation)

def acceptedViolations (path : String) (target : PackageInstallTargetLedger) : List ContractViolation :=
  violationIf (¬ target.acceptedStageValid ∨ target.invocationAcknowledgement.isSome ∨
      target.ownerProgress.isSome ∨ target.effectiveReceipt.isSome)
    "invalid_accepted_state" path
    "accepted target must be approved or hold one not-yet-delivered invocation" ++
  violationIf (∃ claim ∈ target.ownerClaim, ¬ Valid claim ∨ target.invocation ≠ some claim.invocation)
    "owner_claim_binding_mismatch" (path ++ ".owner_claim")
    "owner claim must bind the exact immutable invocation" ++
  violationIf (∃ invocation ∈ target.invocation,
      ¬ Valid invocation ∨ ¬ operation.freezes target invocation)
    "invocation_binding_mismatch" (path ++ ".invocation")
    "prepared owner invocation must bind the exact frozen operation"

def dispatchedEvidenceViolations (path : String) (target : PackageInstallTargetLedger)
    (invocation : PackageUpdaterInvocation) : List ContractViolation :=
  violationIf (¬ Valid invocation ∨ ¬ operation.freezes target invocation ∨
      target.effectiveReceipt.isSome ∨ target.ownerProgress.isSome)
    "invocation_binding_mismatch" (path ++ ".invocation")
    "owner invocation must bind the exact frozen operation" ++
  violationIf (¬ ∃ acknowledgement ∈ target.invocationAcknowledgement, acknowledgement.accepts invocation)
    "dispatched_without_owner_acknowledgement" (path ++ ".invocation_acknowledgement")
    "dispatched lifecycle requires a bound accepted owner acknowledgement"

def dispatchedViolations (path : String) (target : PackageInstallTargetLedger) : List ContractViolation :=
  violationIf (target.stage ≠ .ownerAcknowledged)
    "invalid_inflight_stage" (path ++ ".stage")
    "dispatched package work requires an authenticated owner acknowledgement" ++
  match target.invocation with
  | none => [⟨"missing_invocation", path ++ ".invocation",
      "dispatched target requires the exact owner invocation"⟩]
  | some invocation => operation.dispatchedEvidenceViolations path target invocation

def runningEvidenceViolations (path : String) (target : PackageInstallTargetLedger)
    (invocation : PackageUpdaterInvocation) : List ContractViolation :=
  violationIf (¬ Valid invocation ∨ ¬ operation.freezes target invocation ∨
      target.effectiveReceipt.isSome ∨
      (¬ ∃ progress ∈ target.ownerProgress, progress.validateFor invocation = [] ∧
        progressStageToInstallStage progress.stage = target.stage) ∨
      ¬ ∃ acknowledgement ∈ target.invocationAcknowledgement, acknowledgement.accepts invocation)
    "running_owner_evidence_mismatch" path
    "running package work requires exact invocation and authenticated owner acknowledgement evidence"

def runningViolations (path : String) (target : PackageInstallTargetLedger) : List ContractViolation :=
  violationIf (target.stage ∉ [.staged, .awaitingWearer, .cancellationRequested, .recoveryRequired])
    "invalid_running_stage" (path ++ ".stage")
    "running package work requires a later authenticated owner stage" ++
  match target.invocation with
  | none => [⟨"missing_invocation", path ++ ".invocation",
      "running target requires the exact owner invocation"⟩]
  | some invocation => operation.runningEvidenceViolations path target invocation

def lifecycleViolations (path : String) (target : PackageInstallTargetLedger) : List ContractViolation :=
  match target.lifecycle with
  | .proposed => target.proposedViolations path
  | .accepted => operation.acceptedViolations path target
  | .dispatched => operation.dispatchedViolations path target
  | .running => operation.runningViolations path target
  | .applied => target.appliedViolations path
  | .failed | .expired => target.terminalFailureViolations path
  | .rejected => [⟨"eligible_target_rejected", path ++ ".lifecycle",
      "eligible target cannot use preflight rejection"⟩]
  | .cancellationRequested => target.cancellationViolations path
  | .cancelled => target.cancelledViolations path
  | .cleanupPending | .cleaned => [⟨"unsupported_lifecycle", path ++ ".lifecycle",
      "package install v1 has no separate cleanup lifecycle"⟩]

/-- The frozen preflights by device. -/
def previews : BTreeMap String PackageInstallTargetPreflight :=
  .ofList (operation.preview.targets.map fun target => (target.deviceId, target)) compare

def targetViolations (seen : List String) (index : Nat) (target : PackageInstallTargetLedger) :
    List ContractViolation :=
  let path := "targets[" ++ toString index ++ "]"
  violationIf (target.deviceId ∈ seen ∨ operation.previews[target.deviceId]? ≠ some target.preflight ∨
      target.identityRevision ≠ target.preflight.identityRevision ∨
      target.lastTransitionMs < operation.createdAtMs ∨ ¬ isPortableId target.reasonCode 256 ∨
      target.message.isEmpty)
    "invalid_target_ledger" path
    "target ledger must preserve one frozen preview target and bounded state" ++
  if target.preflight.eligible then
    target.claimEvidenceViolations path ++ operation.lifecycleViolations path target
  else target.ineligibleViolations path

/-- One pass over the targets, remembering the device ids already seen. -/
def targetsViolations (seen : List String) (index : Nat) :
    List PackageInstallTargetLedger → List ContractViolation
  | [] => []
  | target :: rest =>
    operation.targetViolations seen index target ++
      targetsViolations (target.deviceId :: seen) (index + 1) rest

instance : ValidateContract PackageInstallReleaseOperation where
  violations operation :=
    violationIf (operation.schema ≠ "rusty.fleet.package_install_release_operation.v1" ∨
        ¬ isPortableId operation.operationId 256 ∨
        operation.actionId ≠ packagesInstallReleaseActionId ∨ operation.createdAtMs < 0 ∨
        ¬ (1 ≤ operation.maxParallelism ∧ operation.maxParallelism ≤ 64) ∨ operation.cleanupRequired)
      "invalid_operation_header" "operation"
      "package operation identity, action, time, parallelism, or cleanup flag is invalid" ++
    (violations operation.preview).map (·.within "preview.") ++
    violationIf (operation.preview.operationId ≠ operation.operationId ∨
        operation.preview.actionId ≠ operation.actionId ∨
        operation.preview.createdAtMs ≠ operation.createdAtMs ∨
        operation.targets.length ≠ operation.preview.targets.length)
      "preview_binding_mismatch" "preview" "operation must retain its exact preview and target set" ++
    operation.targetsViolations [] 0 operation.targets ++
    violationIf (operation.lifecycle ≠ operation.derivedLifecycle)
      "operation_lifecycle_mismatch" "lifecycle"
      "operation lifecycle must be derived from target ledgers" ++
    violationIf (operation.occupiedDeliverySlots > operation.maxParallelism)
      "operation_parallelism_exceeded" "targets"
      "active owner claims and in-flight targets exceed the frozen parallelism"

end PackageInstallReleaseOperation

end RustyFleet

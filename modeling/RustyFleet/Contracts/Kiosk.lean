import RustyFleet.Contracts.Preflight

namespace RustyFleet

def kioskShowControlsActionId := "kiosk.show-controls"
def kioskDirectOperatorSchema := "rusty.kiosk.direct_operator.v1"
def kioskDirectOperatorRevision := "8954228f9ae67c5995a72569e3c9cdd3758f85c0"
def kioskDirectOperatorCapabilityId := "rusty-kiosk.direct-operator"
def kioskDirectOperatorOwner := "rusty-kiosk"
def kioskShowControlsCommand := "show-controls"
def kioskCliResultSchema := "rusty.kiosk.cli_result.v1"
def operationPreviewRequestSchema := "rusty.fleet.operation_preview_request.v1"
def operationExecuteRequestSchema := "rusty.fleet.operation_execute_request.v1"

structure OperationPreviewRequest where
  schema : String
  actionId : String
  targets : BTreeMap String Nat
deriving DecidableEq

instance : ValidateContract OperationPreviewRequest where
  violations request :=
    violationIf (request.schema ≠ operationPreviewRequestSchema)
      "wrong_schema" "schema" "expected rusty.fleet.operation_preview_request.v1" ++
    violationIf (request.actionId ≠ kioskShowControlsActionId)
      "wrong_action" "action_id" "expected kiosk.show-controls" ++
    violationIf (request.targets.size = 0 ∨ request.targets.size > 10000)
      "invalid_target_count" "targets" "operation previews require 1 through 10000 targets" ++
    request.targets.toList.flatMap fun (deviceId, identityRevision) =>
      violationIf (deviceId.isEmpty ∨ deviceId.utf8ByteSize > 256)
        "invalid_device_id" "targets" "target device IDs contain 1 through 256 bytes" ++
      violationIf (identityRevision = 0)
        "invalid_identity_revision" "targets" "target identity revisions must be greater than zero"

structure OperationExecuteRequest where
  schema : String
  operationId : String
  previewId : String
deriving DecidableEq

instance : ValidateContract OperationExecuteRequest where
  violations request :=
    violationIf (request.schema ≠ operationExecuteRequestSchema)
      "wrong_schema" "schema" "expected rusty.fleet.operation_execute_request.v1" ++
    [("operation_id", request.operationId), ("preview_id", request.previewId)].flatMap fun (path, value) =>
      violationIf (value.isEmpty ∨ value.utf8ByteSize > 256)
        "invalid_identifier" path "operation and preview IDs contain 1 through 256 bytes"

structure KioskOwnerContractBinding where
  ownerRepoId : String
  ownerContractSchema : String
  ownerContractRevision : String
  capabilityId : String
  requestAuth : String
  responseAuth : String
  invokeMethod : String
  invokeTarget : String
  resultMethod : String
  resultTarget : String
  resultRequestIdParameter : String
  port : Nat
  maxClockSkewSeconds : Nat
  command : String
  commandValue : Option String
  ownerResultSchema : String
deriving DecidableEq

def KioskOwnerContractBinding.showControlsV1 : KioskOwnerContractBinding where
  ownerRepoId := kioskDirectOperatorOwner
  ownerContractSchema := kioskDirectOperatorSchema
  ownerContractRevision := kioskDirectOperatorRevision
  capabilityId := kioskDirectOperatorCapabilityId
  requestAuth := "hmac-sha256-v1"
  responseAuth := "hmac-sha256-response-v1"
  invokeMethod := "POST"
  invokeTarget := "/v1/kiosk/invoke"
  resultMethod := "GET"
  resultTarget := "/v1/kiosk/result"
  resultRequestIdParameter := "request_id"
  port := 39873
  maxClockSkewSeconds := 90
  command := kioskShowControlsCommand
  commandValue := none
  ownerResultSchema := kioskCliResultSchema

instance : ValidateContract KioskOwnerContractBinding where
  violations binding :=
    let expected := KioskOwnerContractBinding.showControlsV1
    [("owner_repo_id", binding.ownerRepoId, expected.ownerRepoId),
      ("owner_contract_schema", binding.ownerContractSchema, expected.ownerContractSchema),
      ("owner_contract_revision", binding.ownerContractRevision, expected.ownerContractRevision),
      ("capability_id", binding.capabilityId, expected.capabilityId),
      ("request_auth", binding.requestAuth, expected.requestAuth),
      ("response_auth", binding.responseAuth, expected.responseAuth),
      ("invoke_method", binding.invokeMethod, expected.invokeMethod),
      ("invoke_target", binding.invokeTarget, expected.invokeTarget),
      ("result_method", binding.resultMethod, expected.resultMethod),
      ("result_target", binding.resultTarget, expected.resultTarget),
      ("result_request_id_parameter", binding.resultRequestIdParameter,
        expected.resultRequestIdParameter),
      ("command", binding.command, expected.command),
      ("owner_result_schema", binding.ownerResultSchema, expected.ownerResultSchema)].flatMap
      (fun (path, actual, required) =>
        violationIf (actual ≠ required) "owner_contract_mismatch" path
          "Kiosk owner contract binding differs from the pinned show-controls surface") ++
    violationIf binding.commandValue.isSome
      "owner_contract_mismatch" "command_value" "Kiosk show-controls accepts no command value" ++
    violationIf (binding.port ≠ expected.port ∨ binding.maxClockSkewSeconds ≠ expected.maxClockSkewSeconds)
      "owner_contract_mismatch" "port"
      "Kiosk owner port and request-expiry window differ from direct operator v1"

abbrev KioskShowControlsTargetPreflight := TargetPreflight

/-- Unlike its siblings, the Kiosk contract names each revision and requires a reason text. -/
def kioskPreflightViolations (preflight : KioskShowControlsTargetPreflight) : List ContractViolation :=
  requireNonempty preflight.deviceId "device_id" ++
  requireNonempty preflight.reasonCode "reason_code" ++
  requireNonempty preflight.message "message" ++
  violationIf (preflight.identityRevision = 0)
    "invalid_identity_revision" "identity_revision" "identity revision must be greater than zero" ++
  violationIf (preflight.capabilityEvidenceRevision = 0)
    "invalid_capability_revision" "capability_evidence_revision"
    "capability evidence revision must be greater than zero" ++
  violationIf (preflight.capabilityId ≠ kioskDirectOperatorCapabilityId ∨
      preflight.capabilityOwner ≠ kioskDirectOperatorOwner)
    "wrong_capability_owner" "capability_id"
    "show-controls preflight must use the Kiosk-owned direct-operator capability" ++
  violationIf (preflight.freshUntilMs < preflight.observedAtMs ∨
      preflight.evaluatedAtMs < preflight.observedAtMs)
    "invalid_preflight_window" "evaluated_at_ms"
    "preflight evaluation must follow observation and use a coherent freshness window" ++
  violationIf (preflight.resultMismatch "unavailable")
    "preflight_result_mismatch" "eligible"
    "preflight eligibility and reason must match the exact capability facts"

structure KioskShowControlsPreview where
  schema : String
  previewId : String
  operationId : String
  actionId : String
  createdAtMs : Int
  expiresAtMs : Int
  fleetRevision : Nat
  ownerContract : KioskOwnerContractBinding
  targets : List KioskShowControlsTargetPreflight
deriving DecidableEq

def kioskPreflightsViolations (createdAtMs expiresAtMs : Int) (last : Option String) (index : Nat) :
    List KioskShowControlsTargetPreflight → List ContractViolation
  | [] => []
  | target :: rest =>
    let path := "targets[" ++ toString index ++ "]"
    (kioskPreflightViolations target).map (·.within (path ++ ".")) ++
    violationIf (target.evaluatedAtMs < createdAtMs ∨ target.evaluatedAtMs > expiresAtMs)
      "preflight_outside_preview" (path ++ ".evaluated_at_ms")
      "preflight evaluation must occur inside the immutable preview window" ++
    violationIf (last.any fun previous => decide (target.deviceId ≤ previous))
      "noncanonical_targets" (path ++ ".device_id")
      "preview targets must be unique and sorted by device_id" ++
    kioskPreflightsViolations createdAtMs expiresAtMs (some target.deviceId) (index + 1) rest

instance : ValidateContract KioskShowControlsPreview where
  violations preview :=
    violationIf (preview.schema ≠ "rusty.fleet.kiosk_show_controls_preview.v1")
      "wrong_schema" "schema" "expected rusty.fleet.kiosk_show_controls_preview.v1" ++
    requireNonempty preview.previewId "preview_id" ++
    requireNonempty preview.operationId "operation_id" ++
    violationIf (preview.actionId ≠ kioskShowControlsActionId)
      "wrong_action" "action_id" "expected kiosk.show-controls" ++
    violationIf (preview.expiresAtMs ≤ preview.createdAtMs)
      "invalid_expiry" "expires_at_ms" "preview expiry must follow creation" ++
    violationIf (preview.fleetRevision = 0)
      "invalid_revision" "fleet_revision" "Fleet revision must be greater than zero" ++
    violationIf (preview.targets.length = 0 ∨ preview.targets.length > 10000)
      "invalid_target_count" "targets" "show-controls previews require 1 through 10000 targets" ++
    violations preview.ownerContract ++
    kioskPreflightsViolations preview.createdAtMs preview.expiresAtMs none 0 preview.targets

inductive KioskRetryDisposition
  | notEligible | newOwnerRequestRequired
deriving DecidableEq, Repr

inductive KioskCancelDisposition
  | cancelableBeforeDispatch | cancellationRequestedBeforeDispatch | cancelledBeforeDispatch
  | notCancelableAfterDispatch | terminal
deriving DecidableEq, Repr

def isOwnerRequestId (value : String) : Bool :=
  8 ≤ value.utf8ByteSize && value.utf8ByteSize ≤ 64 &&
    value.toList.all fun byte => asciiAlphanumeric byte || byte == '_' || byte == '-'

def isLowerHexSha256 (value : String) : Bool :=
  value.utf8ByteSize == 64 && value.toList.all isLowerHex

structure KioskEffectiveReceipt where
  schema : String
  receiptId : String
  operationId : String
  deviceId : String
  identityRevision : Nat
  ownerContract : KioskOwnerContractBinding
  ownerActionRequestId : String
  ownerResultTransportRequestId : String
  ownerCommand : String
  responseStatus : Nat
  responseContentSha256 : String
  responseSignature : String
  responseAuthVerified : Bool
  ownerResultSchema : String
  ownerAccepted : Bool
  ownerCompleted : Bool
  ownerRecordedAtMs : Int
  controlsOpen : Bool
  wrappedAtMs : Int
deriving DecidableEq

instance : ValidateContract KioskEffectiveReceipt where
  violations receipt :=
    violationIf (receipt.schema ≠ "rusty.fleet.kiosk_effective_receipt.v1")
      "wrong_schema" "schema" "expected rusty.fleet.kiosk_effective_receipt.v1" ++
    requireNonempty receipt.receiptId "receipt_id" ++
    requireNonempty receipt.operationId "operation_id" ++
    requireNonempty receipt.deviceId "device_id" ++
    violationIf (receipt.identityRevision = 0)
      "invalid_identity_revision" "identity_revision" "identity revision must be greater than zero" ++
    violations receipt.ownerContract ++
    violationIf (¬ isOwnerRequestId receipt.ownerActionRequestId ∨
        ¬ isOwnerRequestId receipt.ownerResultTransportRequestId)
      "invalid_owner_request_id" "owner_action_request_id"
      "Kiosk action and signed result-transport request IDs contain 8 through 64 ASCII letters, digits, underscores, or hyphens" ++
    violationIf (receipt.ownerActionRequestId = receipt.ownerResultTransportRequestId)
      "owner_request_id_reused" "owner_result_transport_request_id"
      "the stable owner action request ID and signed transport-envelope request ID must be distinct" ++
    violationIf (receipt.responseStatus ≠ 200 ∨ ¬ isLowerHexSha256 receipt.responseContentSha256 ∨
        ¬ isLowerHexSha256 receipt.responseSignature ∨ ¬ receipt.responseAuthVerified)
      "unverified_owner_response" "response_auth_verified"
      "effective Kiosk receipts require a verified signed HTTP 200 response and exact lowercase SHA-256 values" ++
    violationIf (receipt.ownerResultSchema ≠ kioskCliResultSchema ∨
        receipt.ownerCommand ≠ kioskShowControlsCommand ∨ ¬ receipt.ownerAccepted ∨
        ¬ receipt.ownerCompleted ∨ ¬ receipt.controlsOpen)
      "ineffective_owner_receipt" "owner_command"
      "effective Kiosk receipts require matching accepted, completed show-controls readback with controls_open=true" ++
    violationIf (receipt.wrappedAtMs < receipt.ownerRecordedAtMs)
      "invalid_receipt_time" "wrapped_at_ms" "Fleet wrapping time must not precede the owner receipt"

structure KioskShowControlsTargetLedger where
  deviceId : String
  identityRevision : Nat
  preflight : KioskShowControlsTargetPreflight
  lifecycle : CommandLifecycle
  dispatchedAtMs : Option Int
  ownerDeadlineAtMs : Option Int
  attemptCount : Nat
  ownerRequestIds : List String
  ownerRequestId : Option String
  effectiveReceipt : Option KioskEffectiveReceipt
  retryDisposition : KioskRetryDisposition
  cancelDisposition : KioskCancelDisposition
  reasonCode : String
  message : String
  lastTransitionMs : Int
deriving DecidableEq

namespace KioskShowControlsTargetLedger

variable (target : KioskShowControlsTargetLedger)

/-- The target never reached the owner. -/
def undispatched : Prop :=
  target.attemptCount = 0 ∧ target.dispatchedAtMs = none ∧ target.ownerDeadlineAtMs = none ∧
    target.ownerRequestId = none ∧ target.effectiveReceipt = none ∧
    target.retryDisposition = .notEligible

instance : Decidable target.undispatched := inferInstanceAs (Decidable (_ ∧ _))

/-- The target was sent to the owner at least once and keeps that attempt's times and request. -/
def dispatched : Prop :=
  target.attemptCount ≠ 0 ∧ target.dispatchedAtMs.isSome ∧ target.ownerDeadlineAtMs.isSome ∧
    target.ownerRequestId.isSome

instance : Decidable target.dispatched := inferInstanceAs (Decidable (_ ∧ _))

def validOwnerDeadline (previewExpiresAtMs : Int) : Bool :=
  match target.dispatchedAtMs, target.ownerDeadlineAtMs with
  | none, none => true
  | some dispatched, some deadline => dispatched < deadline && deadline ≤ previewExpiresAtMs
  | _, _ => false

def lifecycleViolations (maxAttempts : Nat) : List ContractViolation :=
  match target.lifecycle with
  | .proposed | .accepted =>
    violationIf (¬ (target.undispatched ∧ target.cancelDisposition = .cancelableBeforeDispatch))
      "invalid_pre_dispatch_state" "lifecycle"
      "eligible pre-dispatch targets are cancelable and have no owner request or receipt"
  | .cancellationRequested =>
    violationIf (¬ (target.undispatched ∧
        target.cancelDisposition = .cancellationRequestedBeforeDispatch))
      "unsafe_cancellation" "cancel_disposition"
      "show-controls cancellation may be requested only before dispatch"
  | .cancelled =>
    violationIf (¬ (target.undispatched ∧ target.cancelDisposition = .cancelledBeforeDispatch))
      "unsafe_cancellation" "cancel_disposition"
      "cancelled show-controls targets must prove no owner dispatch occurred"
  | .dispatched | .running =>
    violationIf (¬ (target.dispatched ∧ target.effectiveReceipt = none ∧
        target.retryDisposition = .notEligible ∧
        target.cancelDisposition = .notCancelableAfterDispatch))
      "invalid_inflight_state" "lifecycle"
      "dispatched show-controls cannot be cancelled or retried while owner readback is pending"
  | .applied =>
    violationIf (¬ (target.dispatched ∧ target.effectiveReceipt.isSome ∧
        target.retryDisposition = .notEligible ∧ target.cancelDisposition = .terminal ∧
        target.reasonCode = "owner_effective_receipt"))
      "applied_without_effective_receipt" "effective_receipt"
      "applied show-controls requires one matching effective Kiosk owner receipt"
  | .failed | .expired =>
    violationIf (¬ (target.dispatched ∧ target.effectiveReceipt = none ∧
        target.retryDisposition =
          (if target.attemptCount < maxAttempts then .newOwnerRequestRequired else .notEligible) ∧
        target.cancelDisposition = .terminal))
      "unsafe_retry" "retry_disposition"
      "failed or expired targets may retry only below the attempt limit and always require a new owner request ID"
  | .rejected =>
    [⟨"eligible_target_rejected", "lifecycle", "eligible targets cannot use the ineligible rejection state"⟩]
  | .cleanupPending | .cleaned => []

def receiptViolations (operationId : String) (receipt : KioskEffectiveReceipt) : List ContractViolation :=
  (violations receipt).map (·.within "effective_receipt.") ++
  violationIf (receipt.operationId ≠ operationId ∨ receipt.deviceId ≠ target.deviceId ∨
      receipt.identityRevision ≠ target.identityRevision ∨
      target.ownerRequestId ≠ some receipt.ownerActionRequestId)
    "effective_receipt_binding_mismatch" "effective_receipt"
    "effective owner receipt must bind the exact operation, target identity, and current owner request"

def ineligibleViolations : List ContractViolation :=
  violationIf (¬ (target.lifecycle = .rejected ∧ target.undispatched ∧
      target.cancelDisposition = .terminal))
    "ineligible_target_dispatched" "lifecycle"
    "an ineligible target must remain rejected without dispatch, retry, cancellation, or receipt"

def validateForOperation (operationId : String) (maxAttempts : Nat)
    (previewCreatedAtMs previewExpiresAtMs : Int) : List ContractViolation :=
  requireNonempty target.deviceId "device_id" ++
  requireNonempty target.reasonCode "reason_code" ++
  requireNonempty target.message "message" ++
  kioskPreflightViolations target.preflight ++
  violationIf (target.deviceId ≠ target.preflight.deviceId ∨
      target.identityRevision ≠ target.preflight.identityRevision)
    "ledger_preflight_mismatch" "preflight" "target ledger identity must match its frozen preflight" ++
  violationIf (target.attemptCount > maxAttempts)
    "attempt_limit_exceeded" "attempt_count" "target attempt count exceeds the operation maximum" ++
  violationIf (target.dispatchedAtMs.any fun timestamp =>
      timestamp < previewCreatedAtMs || timestamp > previewExpiresAtMs ||
        timestamp > target.lastTransitionMs)
    "dispatch_outside_preview" "dispatched_at_ms"
    "owner dispatch must occur inside the immutable preview window and before the latest transition" ++
  violationIf (¬ target.validOwnerDeadline previewExpiresAtMs)
    "invalid_owner_deadline" "owner_deadline_at_ms"
    "every owner dispatch retains one absolute deadline after dispatch and no later than preview expiry" ++
  violationIf (target.ownerRequestIds.length ≠ target.attemptCount ∨
      target.ownerRequestIds.length > maxAttempts)
    "attempt_history_mismatch" "owner_request_ids"
    "attempt history must contain exactly one owner request ID per attempt" ++
  violationIf (¬ target.ownerRequestIds.Nodup ∨ target.ownerRequestIds.any (!isOwnerRequestId ·))
    "owner_request_reused" "owner_request_ids"
    "every retry must use one new valid Kiosk owner request ID" ++
  violationIf (target.ownerRequestId.any (!isOwnerRequestId ·))
    "invalid_owner_request_id" "owner_request_id"
    "owner request ID does not satisfy the Kiosk v1 contract" ++
  violationIf (target.ownerRequestId ≠ target.ownerRequestIds.getLast?)
    "current_attempt_mismatch" "owner_request_id"
    "current owner request ID must equal the final request in attempt history" ++
  violationIf (target.lifecycle = .cleanupPending ∨ target.lifecycle = .cleaned)
    "cleanup_forbidden" "lifecycle" "show-controls has no temporary effect and never enters cleanup" ++
  if target.preflight.eligible then
    target.lifecycleViolations maxAttempts ++
      (target.effectiveReceipt.map (target.receiptViolations operationId)).getD []
  else target.ineligibleViolations

end KioskShowControlsTargetLedger

structure KioskShowControlsOperation where
  schema : String
  operationId : String
  actionId : String
  createdAtMs : Int
  preview : KioskShowControlsPreview
  lifecycle : CommandLifecycle
  maxParallelism : Nat
  maxAttemptsPerTarget : Nat
  cleanupRequired : Bool
  targets : List KioskShowControlsTargetLedger
deriving DecidableEq

namespace KioskShowControlsOperation

variable (operation : KioskShowControlsOperation)

def derivedLifecycle : CommandLifecycle :=
  let eligible := operation.targets.filter (·.preflight.eligible)
  if eligible.isEmpty then .rejected
  else if eligible.any fun target => target.lifecycle == .dispatched || target.lifecycle == .running then
    .running
  else if eligible.any (·.lifecycle == .cancellationRequested) then .cancellationRequested
  else if eligible.any (·.lifecycle == .proposed) then .proposed
  else if eligible.any (·.lifecycle == .accepted) then .accepted
  else if eligible.all (·.lifecycle == .applied) then .applied
  else if eligible.all (·.lifecycle == .cancelled) then .cancelled
  else if eligible.all (·.lifecycle == .expired) then .expired
  else .failed

def previewTargets : BTreeMap String KioskShowControlsTargetPreflight :=
  .ofList (operation.preview.targets.map fun target => (target.deviceId, target)) compare

/-- One pass over the targets, remembering the device id of the one before. -/
def targetsViolations (last : Option String) (index : Nat) :
    List KioskShowControlsTargetLedger → List ContractViolation
  | [] => []
  | target :: rest =>
    let path := "targets[" ++ toString index ++ "]"
    (target.validateForOperation operation.operationId operation.maxAttemptsPerTarget
      operation.preview.createdAtMs operation.preview.expiresAtMs).map (·.within (path ++ ".")) ++
    violationIf (operation.previewTargets[target.deviceId]? ≠ some target.preflight)
      "preview_target_mismatch" (path ++ ".preflight")
      "target ledger must preserve its complete immutable preview preflight" ++
    violationIf (last.any fun previous => decide (target.deviceId ≤ previous))
      "noncanonical_targets" (path ++ ".device_id")
      "operation targets must remain unique and sorted by device_id" ++
    targetsViolations (some target.deviceId) (index + 1) rest

def inflight : Nat :=
  operation.targets.countP fun target => target.lifecycle == .dispatched || target.lifecycle == .running

instance : ValidateContract KioskShowControlsOperation where
  violations operation :=
    violationIf (operation.schema ≠ "rusty.fleet.kiosk_show_controls_operation.v1")
      "wrong_schema" "schema" "expected rusty.fleet.kiosk_show_controls_operation.v1" ++
    requireNonempty operation.operationId "operation_id" ++
    violationIf (operation.actionId ≠ kioskShowControlsActionId)
      "wrong_action" "action_id" "expected kiosk.show-controls" ++
    violationIf operation.cleanupRequired
      "cleanup_forbidden" "cleanup_required"
      "show-controls creates no temporary effect and requires no cleanup" ++
    violationIf (¬ (1 ≤ operation.maxParallelism ∧ operation.maxParallelism ≤ 64))
      "invalid_parallelism" "max_parallelism"
      "show-controls dispatch parallelism must be between 1 and 64" ++
    violationIf (¬ (1 ≤ operation.maxAttemptsPerTarget ∧ operation.maxAttemptsPerTarget ≤ 8))
      "invalid_attempt_limit" "max_attempts_per_target"
      "show-controls permits 1 through 8 explicitly bounded attempts per target" ++
    violationIf (operation.lifecycle = .cleanupPending ∨ operation.lifecycle = .cleaned)
      "cleanup_forbidden" "lifecycle" "show-controls operation lifecycle never enters cleanup" ++
    (violations operation.preview).map (·.within "preview.") ++
    violationIf (operation.preview.operationId ≠ operation.operationId ∨
        operation.preview.actionId ≠ operation.actionId ∨
        operation.preview.createdAtMs ≠ operation.createdAtMs)
      "preview_binding_mismatch" "preview"
      "operation must retain the exact preview identity, action, and creation time" ++
    violationIf (operation.targets.length ≠ operation.preview.targets.length)
      "preview_target_mismatch" "targets"
      "ledger must retain exactly one target for every frozen preview target" ++
    operation.targetsViolations none 0 operation.targets ++
    violationIf (operation.lifecycle ≠ operation.derivedLifecycle)
      "operation_lifecycle_mismatch" "lifecycle"
      "operation lifecycle must be derived from the frozen eligible target ledgers" ++
    violationIf (operation.inflight > operation.maxParallelism)
      "operation_parallelism_exceeded" "targets"
      "in-flight target count must not exceed the frozen operation parallelism"

end KioskShowControlsOperation

end RustyFleet

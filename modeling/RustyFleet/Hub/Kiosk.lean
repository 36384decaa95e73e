import RustyFleet.Hub.Preflights
import RustyFleet.Support.Lists

namespace RustyFleet

structure KioskShowControlsPreviewPlan where
  operationId : String
  previewId : String
  request : OperationPreviewRequest
  createdAtMs : Int
  expiresAtMs : Int
  maxParallelism : Nat
  maxAttemptsPerTarget : Nat

def kioskPreviewMaxLifetimeMs : Int := 90000

def kioskEvidence : EvidenceProfile where
  capabilityId := kioskDirectOperatorCapabilityId
  owner := kioskDirectOperatorOwner
  unavailable := "unavailable"
  wrongOwnerMessage := "Kiosk capability evidence has the wrong owner"
  absentMessage := "No Kiosk direct-operator capability evidence is present"

def kioskTargetTexts : RequestedTargetTexts where
  notFoundCode := "kiosk_target_not_found"
  notFound := fun deviceId => "unknown Kiosk operation target " ++ deviceId
  mismatchCode := "kiosk_target_identity_mismatch"
  mismatch := fun deviceId requested current =>
    "target " ++ deviceId ++ " identity revision changed from requested " ++ toString requested ++
      " to " ++ toString current

def contractError (subject : String) (failures : List ContractViolation) : String :=
  subject ++ " failed contract validation: " ++ failureSummary failures

def validateKioskOperation (operation : KioskShowControlsOperation) : HubResult Unit :=
  rejectIf (¬ Valid operation) "kiosk_operation_invalid"
    (contractError "Kiosk show-controls operation" (violations operation))

namespace KioskShowControlsTargetLedger

def proposed (createdAtMs : Int) (preflight : KioskShowControlsTargetPreflight) :
    KioskShowControlsTargetLedger where
  deviceId := preflight.deviceId
  identityRevision := preflight.identityRevision
  preflight := preflight
  lifecycle := if preflight.eligible then .proposed else .rejected
  dispatchedAtMs := none
  ownerDeadlineAtMs := none
  attemptCount := 0
  ownerRequestIds := []
  ownerRequestId := none
  effectiveReceipt := none
  retryDisposition := .notEligible
  cancelDisposition := if preflight.eligible then .cancelableBeforeDispatch else .terminal
  reasonCode := if preflight.eligible then "preview_ready" else "preflight_excluded"
  message :=
    if preflight.eligible then "Target is ready for explicit confirmation"
    else "Target was excluded by the frozen preflight"
  lastTransitionMs := createdAtMs

variable (target : KioskShowControlsTargetLedger)

def confirmed (nowMs : Int) : KioskShowControlsTargetLedger :=
  if target.preflight.eligible then
    { target with
      lifecycle := .accepted
      reasonCode := "operator_confirmed"
      message := "Exact preview confirmed for dispatch"
      lastTransitionMs := nowMs }
  else target

def dispatchStarted (ownerRequestId : String) (ownerDeadlineAtMs : Int) (maxAttempts : Nat)
    (nowMs : Int) : KioskShowControlsTargetLedger :=
  let attemptCount := min (target.attemptCount + 1) 255
  { target with
    attemptCount := attemptCount
    ownerRequestIds := target.ownerRequestIds ++ [ownerRequestId]
    ownerRequestId := some ownerRequestId
    dispatchedAtMs := some nowMs
    ownerDeadlineAtMs := some ownerDeadlineAtMs
    effectiveReceipt := none
    lifecycle := .dispatched
    retryDisposition := .notEligible
    cancelDisposition := .notCancelableAfterDispatch
    reasonCode := "owner_dispatch_started"
    message := "Kiosk owner attempt " ++ toString attemptCount ++ " of " ++ toString maxAttempts ++
      " was dispatched"
    lastTransitionMs := nowMs }

def transitioned (lifecycle : CommandLifecycle) (reasonCode message : String) (nowMs : Int) :
    KioskShowControlsTargetLedger :=
  { target with
    lifecycle := lifecycle
    reasonCode := reasonCode
    message := message
    lastTransitionMs := nowMs }

def received (receipt : KioskEffectiveReceipt) (nowMs : Int) : KioskShowControlsTargetLedger :=
  { target with
    effectiveReceipt := some receipt
    lifecycle := .applied
    retryDisposition := .notEligible
    cancelDisposition := .terminal
    reasonCode := "owner_effective_receipt"
    message := "Kiosk signed result confirms accepted, completed, controls-open state"
    lastTransitionMs := nowMs }

def attemptFinished (lifecycle : CommandLifecycle) (maxAttempts : Nat) (reasonCode message : String)
    (nowMs : Int) : KioskShowControlsTargetLedger :=
  { target with
    lifecycle := lifecycle
    retryDisposition :=
      if target.attemptCount < maxAttempts then .newOwnerRequestRequired else .notEligible
    cancelDisposition := .terminal
    reasonCode := reasonCode
    message := message
    lastTransitionMs := nowMs }

def cancellationRequested (nowMs : Int) : KioskShowControlsTargetLedger :=
  { target with
    lifecycle := .cancellationRequested
    cancelDisposition := .cancellationRequestedBeforeDispatch
    reasonCode := "cancellation_requested"
    message := "Cancellation requested before owner dispatch"
    lastTransitionMs := nowMs }

def cancellationCompleted (nowMs : Int) : KioskShowControlsTargetLedger :=
  { target with
    lifecycle := .cancelled
    cancelDisposition := .cancelledBeforeDispatch
    reasonCode := "cancelled_before_dispatch"
    message := "Cancelled before any owner request was sent"
    lastTransitionMs := nowMs }

end KioskShowControlsTargetLedger

namespace KioskShowControlsOperation

variable (operation : KioskShowControlsOperation)

def rederived : KioskShowControlsOperation := { operation with lifecycle := operation.derivedLifecycle }

def rewriteTarget (deviceId : String)
    (rewrite : KioskShowControlsTargetLedger → KioskShowControlsTargetLedger) :
    KioskShowControlsOperation :=
  rederived
    { operation with
      targets := Support.modifyFirst (·.deviceId == deviceId) rewrite operation.targets }

def confirmed (nowMs : Int) : KioskShowControlsOperation :=
  rederived { operation with targets := operation.targets.map (·.confirmed nowMs) }

def target (deviceId : String) : HubResult KioskShowControlsTargetLedger :=
  orRefuse (operation.targets.find? (·.deviceId == deviceId)) "kiosk_operation_target_not_found"
    ("device " ++ deviceId ++ " is not in operation " ++ operation.operationId)

def requirePreview (previewId : String) : HubResult Unit :=
  rejectIf (operation.preview.previewId ≠ previewId) "kiosk_preview_mismatch"
    "execute request does not bind the operation's immutable preview"

def requireMonotonicTime (nowMs : Int) : HubResult Unit :=
  rejectIf (nowMs < operation.createdAtMs ∨ ∃ target ∈ operation.targets, nowMs < target.lastTransitionMs)
    "kiosk_operation_time_regression" "Kiosk operation transition time must not regress"

end KioskShowControlsOperation

namespace KioskShowControlsPreviewPlan

variable (plan : KioskShowControlsPreviewPlan)

def validatePreviewPlan : HubResult Unit := do
  rejectIf (trimmedEmpty plan.operationId ∨ trimmedEmpty plan.previewId ∨
      plan.operationId.utf8ByteSize > 256 ∨ plan.previewId.utf8ByteSize > 256)
    "kiosk_preview_id_invalid" "operation and preview IDs contain 1 through 256 bytes"
  rejectIf (¬ Valid plan.request) "kiosk_preview_request_invalid"
    (contractError "Kiosk operation preview request" (violations plan.request))
  rejectIf (plan.createdAtMs < 0 ∨ plan.expiresAtMs ≤ plan.createdAtMs ∨
      saturateI64 (plan.expiresAtMs - plan.createdAtMs) > kioskPreviewMaxLifetimeMs)
    "kiosk_preview_window_invalid"
    "Kiosk preview lifetime must be positive and no longer than 90 seconds"
  rejectIf (¬ (1 ≤ plan.maxParallelism ∧ plan.maxParallelism ≤ 64)) "kiosk_parallelism_invalid"
    "Kiosk operation parallelism must be between 1 and 64"
  rejectIf (¬ (1 ≤ plan.maxAttemptsPerTarget ∧ plan.maxAttemptsPerTarget ≤ 8))
    "kiosk_attempt_limit_invalid" "Kiosk operation attempts per target must be between 1 and 8"

def matchesOperation (operation : KioskShowControlsOperation) : Prop :=
  plan.operationId = operation.operationId ∧ plan.previewId = operation.preview.previewId ∧
    plan.createdAtMs = operation.createdAtMs ∧ plan.expiresAtMs = operation.preview.expiresAtMs ∧
    plan.maxParallelism = operation.maxParallelism ∧
    plan.maxAttemptsPerTarget = operation.maxAttemptsPerTarget ∧
    plan.request.actionId = operation.actionId ∧
    plan.request.targets =
      .ofList (operation.preview.targets.map fun target => (target.deviceId, target.identityRevision)) compare

instance (operation : KioskShowControlsOperation) : Decidable (plan.matchesOperation operation) :=
  inferInstanceAs (Decidable (_ ∧ _))

def frozenPreview (fleetRevision : Nat) (preflights : List KioskShowControlsTargetPreflight) :
    KioskShowControlsPreview where
  schema := "rusty.fleet.kiosk_show_controls_preview.v1"
  previewId := plan.previewId
  operationId := plan.operationId
  actionId := kioskShowControlsActionId
  createdAtMs := plan.createdAtMs
  expiresAtMs := plan.expiresAtMs
  fleetRevision := fleetRevision
  ownerContract := .showControlsV1
  targets := preflights

def proposedOperation (fleetRevision : Nat) (preflights : List KioskShowControlsTargetPreflight) :
    KioskShowControlsOperation :=
  KioskShowControlsOperation.rederived
    { schema := "rusty.fleet.kiosk_show_controls_operation.v1"
      operationId := plan.operationId
      actionId := kioskShowControlsActionId
      createdAtMs := plan.createdAtMs
      preview := plan.frozenPreview fleetRevision preflights
      lifecycle := .proposed
      maxParallelism := plan.maxParallelism
      maxAttemptsPerTarget := plan.maxAttemptsPerTarget
      cleanupRequired := false
      targets := preflights.map (.proposed plan.createdAtMs) }

end KioskShowControlsPreviewPlan

namespace FleetHub

variable (hub : FleetHub)

def kioskPreflight (record : DeviceRecord) (evaluatedAtMs : Int) : KioskShowControlsTargetPreflight :=
  frozenPreflight kioskEvidence hub.policy record evaluatedAtMs

def kioskOperation (operationId : String) : HubResult KioskShowControlsOperation :=
  orRefuse hub.kioskOperations[operationId]? "kiosk_operation_not_found"
    ("unknown Kiosk operation " ++ operationId)

def requireKioskTargetCurrent (target : KioskShowControlsTargetLedger) (nowMs : Int) : HubResult Unit := do
  let record ← orRefuse hub.devices[target.deviceId]? "kiosk_target_not_found"
    ("Kiosk target " ++ target.deviceId ++ " is no longer in the Fleet directory")
  rejectIf (record.observation.identity.identityRevision ≠ target.identityRevision)
    "kiosk_target_identity_changed" ("Kiosk target " ++ target.deviceId ++ " changed identity revision")
  rejectIf (¬ sameFrozenFacts kioskEvidence.unavailable target.preflight
      (hub.kioskPreflight record nowMs))
    "kiosk_target_changed_since_preview"
    ("Kiosk target " ++ target.deviceId ++ " capability or freshness facts changed since preview")

def requireFrozenTargetsCurrent (nowMs : Int) : List KioskShowControlsTargetLedger → HubResult Unit
  | [] => .ok ()
  | target :: rest => do
    hub.requireKioskTargetCurrent target nowMs
    requireFrozenTargetsCurrent nowMs rest

/-- Every Kiosk mutator but the preview: the rewritten clone is validated before it is stored. -/
def settleKiosk (operationId : String) (edit : HubResult (LedgerEdit KioskShowControlsOperation)) :
    HubResult KioskShowControlsOperation × FleetHub :=
  match edit with
  | .error fault => (.error fault, hub)
  | .ok (.unchanged operation) => (.ok operation, hub)
  | .ok (.rewritten updated) =>
    match validateKioskOperation updated with
    | .error fault => (.error fault, hub)
    | .ok _ =>
      (.ok updated, { hub with kioskOperations := hub.kioskOperations.insert operationId updated })

def kioskPreviewEdit (plan : KioskShowControlsPreviewPlan) :
    HubResult (LedgerEdit KioskShowControlsOperation) := do
  plan.validatePreviewPlan
  match hub.kioskOperations[plan.operationId]? with
  | some existing =>
    rejectIf (¬ plan.matchesOperation existing) "kiosk_operation_id_conflict"
      "operation ID already names a different immutable preview"
    return .unchanged existing
  | none =>
    let preflights ← hub.requestedPreflights kioskTargetTexts
      (fun _ record => .ok (hub.kioskPreflight record plan.createdAtMs)) plan.request.targets.toList
    let operation := plan.proposedOperation hub.resultRevision preflights
    validateKioskOperation operation
    rejectIf (hub.kioskOperations.size ≥ maxKioskOperations) "kiosk_operation_limit_reached"
      "Fleet Hub retains at most 1000 Kiosk operations"
    return .rewritten operation

def previewKioskShowControls (plan : KioskShowControlsPreviewPlan) :
    HubResult KioskShowControlsOperation × FleetHub :=
  hub.settleKiosk plan.operationId (hub.kioskPreviewEdit plan)

def kioskConfirmEdit (operationId previewId : String) (nowMs : Int) :
    HubResult (LedgerEdit KioskShowControlsOperation) := do
  let operation ← hub.kioskOperation operationId
  operation.requirePreview previewId
  operation.requireMonotonicTime nowMs
  if operation.lifecycle ≠ .proposed then return .unchanged operation
  else do
    rejectIf (nowMs > operation.preview.expiresAtMs) "kiosk_preview_expired"
      "the immutable Kiosk preview expired before confirmation"
    hub.requireFrozenTargetsCurrent nowMs operation.targets
    return .rewritten (operation.confirmed nowMs)

def confirmKioskShowControls (operationId previewId : String) (nowMs : Int) :
    HubResult KioskShowControlsOperation × FleetHub :=
  hub.settleKiosk operationId (hub.kioskConfirmEdit operationId previewId nowMs)

def confirmKioskShowControlsRequest (request : OperationExecuteRequest) (nowMs : Int) :
    HubResult KioskShowControlsOperation × FleetHub :=
  if Valid request then hub.confirmKioskShowControls request.operationId request.previewId nowMs
  else
    (refuse "kiosk_execute_request_invalid"
      (contractError "Kiosk operation execute request" (violations request)), hub)

/-- The refusals of `dispatch_kiosk_show_controls` for a target that may start a new attempt. -/
def kioskDispatchChecks (operation : KioskShowControlsOperation) (target : KioskShowControlsTargetLedger)
    (ownerRequestId : String) (nowMs : Int) : HubResult Unit := do
  rejectIf (nowMs > operation.preview.expiresAtMs) "kiosk_preview_expired"
    "Kiosk owner dispatch cannot begin after preview expiry"
  rejectIf (target.lifecycle ∉ [.accepted, .failed, .expired]) "kiosk_dispatch_state_invalid"
    ("target " ++ target.deviceId ++ " is not eligible for a new owner attempt")
  rejectIf (target.attemptCount ≥ operation.maxAttemptsPerTarget) "kiosk_attempt_limit_reached"
    ("target " ++ target.deviceId ++ " reached its bounded owner attempt limit")
  rejectIf (ownerRequestId ∈ target.ownerRequestIds) "kiosk_owner_request_reused"
    "a retry must use a new Kiosk owner action request ID"
  rejectIf (¬ isOwnerRequestId ownerRequestId) "kiosk_owner_request_invalid"
    "Kiosk owner action request IDs contain 8 through 64 ASCII letters, digits, underscores, or hyphens"
  rejectIf (operation.inflight ≥ operation.maxParallelism) "kiosk_parallelism_limit_reached"
    "the operation already has its maximum number of owner attempts in flight"
  hub.requireKioskTargetCurrent target nowMs

def kioskDispatchEdit (operationId deviceId ownerRequestId : String) (nowMs : Int) :
    HubResult (LedgerEdit KioskShowControlsOperation) := do
  let operation ← hub.kioskOperation operationId
  operation.requireMonotonicTime nowMs
  let target ← operation.target deviceId
  if target.lifecycle ∈ [.dispatched, .running, .applied] ∧ target.ownerRequestId = some ownerRequestId then
    return .unchanged operation
  else do
    hub.kioskDispatchChecks operation target ownerRequestId nowMs
    return .rewritten (operation.rewriteTarget deviceId (·.dispatchStarted ownerRequestId
      operation.preview.expiresAtMs operation.maxAttemptsPerTarget nowMs))

def dispatchKioskShowControls (operationId deviceId ownerRequestId : String) (nowMs : Int) :
    HubResult KioskShowControlsOperation × FleetHub :=
  hub.settleKiosk operationId (hub.kioskDispatchEdit operationId deviceId ownerRequestId nowMs)

def kioskInflightEdit (operationId deviceId : String) (nowMs : Int) (lifecycle : CommandLifecycle)
    (reasonCode message : String) : HubResult (LedgerEdit KioskShowControlsOperation) := do
  let operation ← hub.kioskOperation operationId
  operation.requireMonotonicTime nowMs
  let target ← operation.target deviceId
  if target.lifecycle = lifecycle then return .unchanged operation
  else do
    rejectIf (target.lifecycle ≠ .dispatched) "kiosk_running_state_invalid"
      "only a dispatched Kiosk target can become running"
    return .rewritten (operation.rewriteTarget deviceId
      (·.transitioned lifecycle reasonCode message nowMs))

def transitionInflight (operationId deviceId : String) (nowMs : Int) (lifecycle : CommandLifecycle)
    (reasonCode message : String) : HubResult KioskShowControlsOperation × FleetHub :=
  hub.settleKiosk operationId
    (hub.kioskInflightEdit operationId deviceId nowMs lifecycle reasonCode message)

def markKioskShowControlsRunning (operationId deviceId : String) (nowMs : Int) :
    HubResult KioskShowControlsOperation × FleetHub :=
  hub.transitionInflight operationId deviceId nowMs .running "owner_result_pending"
    "Kiosk accepted the request; signed effective readback is pending"

def kioskReceiptEdit (receipt : KioskEffectiveReceipt) (nowMs : Int) :
    HubResult (LedgerEdit KioskShowControlsOperation) := do
  let operation ← hub.kioskOperation receipt.operationId
  operation.requireMonotonicTime nowMs
  let target ← operation.target receipt.deviceId
  if target.lifecycle = .applied ∧ target.effectiveReceipt = some receipt then
    return .unchanged operation
  else do
    rejectIf (target.lifecycle ∉ [.dispatched, .running]) "kiosk_receipt_state_invalid"
      "effective Kiosk receipt arrived for a target without an owner attempt in flight"
    rejectIf (¬ Valid receipt) "kiosk_receipt_invalid"
      (contractError "effective Kiosk receipt" (violations receipt))
    rejectIf (receipt.deviceId ≠ target.deviceId ∨ receipt.identityRevision ≠ target.identityRevision ∨
        receipt.ownerActionRequestId ≠ target.ownerRequestId.getD "")
      "kiosk_receipt_binding_mismatch"
      "effective Kiosk receipt does not bind the exact frozen target and owner attempt"
    return .rewritten (operation.rewriteTarget receipt.deviceId (·.received receipt nowMs))

def applyKioskShowControlsReceipt (receipt : KioskEffectiveReceipt) (nowMs : Int) :
    HubResult KioskShowControlsOperation × FleetHub :=
  hub.settleKiosk receipt.operationId (hub.kioskReceiptEdit receipt nowMs)

def kioskFinishEdit (operationId deviceId reasonCode message : String) (nowMs : Int)
    (lifecycle : CommandLifecycle) : HubResult (LedgerEdit KioskShowControlsOperation) := do
  rejectIf (trimmedEmpty reasonCode ∨ trimmedEmpty message) "kiosk_terminal_reason_invalid"
    "failed or expired Kiosk attempts require a reason and message"
  let operation ← hub.kioskOperation operationId
  operation.requireMonotonicTime nowMs
  let target ← operation.target deviceId
  if target.lifecycle = lifecycle ∧ target.reasonCode = reasonCode ∧ target.message = message then
    return .unchanged operation
  else do
    rejectIf (target.lifecycle ∉ [.dispatched, .running]) "kiosk_terminal_state_invalid"
      "only an in-flight Kiosk owner attempt can fail or expire"
    return .rewritten (operation.rewriteTarget deviceId (·.attemptFinished lifecycle
      operation.maxAttemptsPerTarget reasonCode message nowMs))

def finishOwnerAttempt (operationId deviceId reasonCode message : String) (nowMs : Int)
    (lifecycle : CommandLifecycle) : HubResult KioskShowControlsOperation × FleetHub :=
  hub.settleKiosk operationId
    (hub.kioskFinishEdit operationId deviceId reasonCode message nowMs lifecycle)

def failKioskShowControls (operationId deviceId reasonCode message : String) (nowMs : Int) :
    HubResult KioskShowControlsOperation × FleetHub :=
  hub.finishOwnerAttempt operationId deviceId reasonCode message nowMs .failed

def expireKioskShowControls (operationId deviceId reasonCode message : String) (nowMs : Int) :
    HubResult KioskShowControlsOperation × FleetHub :=
  hub.finishOwnerAttempt operationId deviceId reasonCode message nowMs .expired

def kioskCancellationRequestEdit (operationId deviceId : String) (nowMs : Int) :
    HubResult (LedgerEdit KioskShowControlsOperation) := do
  let operation ← hub.kioskOperation operationId
  operation.requireMonotonicTime nowMs
  let target ← operation.target deviceId
  if target.lifecycle ∈ [.cancellationRequested, .cancelled] then return .unchanged operation
  else do
    rejectIf (target.lifecycle ≠ .accepted) "kiosk_target_not_cancelable"
      "confirmed show-controls can be cancelled only before owner dispatch"
    return .rewritten (operation.rewriteTarget deviceId (·.cancellationRequested nowMs))

def requestKioskShowControlsCancellation (operationId deviceId : String) (nowMs : Int) :
    HubResult KioskShowControlsOperation × FleetHub :=
  hub.settleKiosk operationId (hub.kioskCancellationRequestEdit operationId deviceId nowMs)

def kioskCancellationCompleteEdit (operationId deviceId : String) (nowMs : Int) :
    HubResult (LedgerEdit KioskShowControlsOperation) := do
  let operation ← hub.kioskOperation operationId
  operation.requireMonotonicTime nowMs
  let target ← operation.target deviceId
  if target.lifecycle = .cancelled then return .unchanged operation
  else do
    rejectIf (target.lifecycle ≠ .cancellationRequested) "kiosk_cancellation_state_invalid"
      "target has no pre-dispatch cancellation request to complete"
    return .rewritten (operation.rewriteTarget deviceId (·.cancellationCompleted nowMs))

def completeKioskShowControlsCancellation (operationId deviceId : String) (nowMs : Int) :
    HubResult KioskShowControlsOperation × FleetHub :=
  hub.settleKiosk operationId (hub.kioskCancellationCompleteEdit operationId deviceId nowMs)

end FleetHub

end RustyFleet

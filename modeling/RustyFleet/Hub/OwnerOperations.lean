import RustyFleet.Hub.Preflights
import RustyFleet.Support.Lists

namespace RustyFleet

structure OwnerPreviewPlan (Action Policy Generation : Type) where
  operationId : String
  previewId : String
  watchdogGeneration : Generation
  request : OwnerPreviewRequest Action Policy
  createdAtMs : Int
  expiresAtMs : Int
  providerReadyDevices : BTreeSet String

def ownerPreviewMaxLifetimeMs : Int := 15 * 60 * 1000

/-- What the Hub's Quest awake and Quest Wi-Fi ADB ledgers do differently around one contract family. -/
structure OwnerHub (Action Policy Generation Binding Receipt Evidence : Type) where
  family : OwnerFamily Action Policy Generation Binding Receipt Evidence
  stem : String
  subject : String
  conflictMessage : String
  prepareStateMessage : String
  invocationMissingMessage : String
  operationInvalidCode : String
  maxOperations : Nat
  generationPresent : Generation → Bool
  preparedGeneration : Action → (preview : Generation) → (expectedDevice : Option String) →
    HubResult Generation
  invocationExpiry : Action → Int → Int
  receiptOverflows : Receipt → Bool
  receiptEffective : Receipt → Bool
  initialEvidence : Evidence
  evidenceAfterReceipt : Evidence → Evidence

namespace OwnerHub

variable {Action Policy Generation Binding Receipt Evidence : Type}
  [DecidableEq Action] [DecidableEq Policy] [DecidableEq Binding] [ValidateContract Receipt]
  (owner : OwnerHub Action Policy Generation Binding Receipt Evidence)

abbrev Operation (_ : OwnerHub Action Policy Generation Binding Receipt Evidence) :=
  OwnerOperation Action Policy Generation Binding Receipt Evidence

abbrev Target (_ : OwnerHub Action Policy Generation Binding Receipt Evidence) :=
  OwnerTargetLedger Action Policy Generation Receipt Evidence

abbrev Stored (_ : OwnerHub Action Policy Generation Binding Receipt Evidence) :=
  BTreeMap String (OwnerOperation Action Policy Generation Binding Receipt Evidence)

def code (suffix : String) : String := owner.stem ++ "_" ++ suffix

def targetTexts : RequestedTargetTexts where
  notFoundCode := owner.code "target_not_found"
  notFound := fun deviceId => "unknown " ++ owner.family.noun ++ " target " ++ deviceId
  mismatchCode := owner.code "target_identity_mismatch"
  mismatch := fun deviceId _ _ =>
    "target " ++ deviceId ++ " identity revision differs from the request"

/-- The facts without capability evidence: the local provider vouches for the device, or nothing is known. -/
def providerPreflight (record : DeviceRecord) (evaluatedAtMs : Int) (providerReady : Bool) :
    TargetPreflight where
  deviceId := record.observation.identity.deviceId
  identityRevision := record.observation.identity.identityRevision
  capabilityId := owner.family.preflight.capabilityId
  capabilityEvidenceRevision := if providerReady then record.acceptedRevision else 0
  capabilityOwner := if providerReady then owner.family.preflight.owner else ""
  support := if providerReady then .supported else .unknown
  enablement := if providerReady then .enabled else .unknown
  authorization := if providerReady then .authorized else .unknown
  reachability := if providerReady then .reachable else .unknown
  freshness := if providerReady then .current else .unknown
  observedAtMs := evaluatedAtMs
  freshUntilMs := if providerReady then evaluatedAtMs + 60000 else evaluatedAtMs
  evaluatedAtMs := evaluatedAtMs
  eligible := false
  reasonCode := ""
  message := ""

def evidencePreflight (record : DeviceRecord) (evaluatedAtMs : Int) (capability : CapabilityState) :
    TargetPreflight where
  deviceId := record.observation.identity.deviceId
  identityRevision := record.observation.identity.identityRevision
  capabilityId := owner.family.preflight.capabilityId
  capabilityEvidenceRevision := capability.evidenceRevision
  capabilityOwner := capability.owner
  support := capability.support
  enablement := capability.enablement
  authorization := capability.authorization
  reachability := capability.reachability
  freshness := capability.freshness
  observedAtMs := capability.observedAtMs
  freshUntilMs := capability.freshUntilMs
  evaluatedAtMs := evaluatedAtMs
  eligible := false
  reasonCode := ""
  message := ""

def verdict (preflight : TargetPreflight) : TargetPreflight :=
  let unavailable := owner.family.preflight.unavailable
  let judged := preflight.judged unavailable
  { judged with
    message :=
      if judged.eligible then
        "File Manager " ++ owner.family.noun ++ " provider is current and ready"
      else owner.family.noun ++ " target is not eligible: " ++ judged.reasonCode }

/-- `awake_preflight` and `wifi_adb_preflight` -/
def preflight (record : DeviceRecord) (evaluatedAtMs : Int) (providerReady : Bool) :
    HubResult TargetPreflight :=
  match record.observation.capabilities.get owner.family.preflight.capabilityId with
  | some capability => .ok (owner.verdict (owner.evidencePreflight record evaluatedAtMs capability))
  | none => do
    panicIf (providerReady ∧ evaluatedAtMs + 60000 > i64Max) "attempt to add with overflow"
    return owner.verdict (owner.providerPreflight record evaluatedAtMs providerReady)

def deriveLifecycle (operation : owner.Operation) : CommandLifecycle :=
  let eligible := operation.targets.filter (·.preflight.eligible)
  if eligible.isEmpty then .rejected
  else if eligible.any (·.lifecycle == .failed) then .failed
  else if eligible.all (·.lifecycle == .applied) then .applied
  else if eligible.any fun target => target.lifecycle == .dispatched || target.lifecycle == .running then
    .running
  else if operation.confirmedAtMs.isSome then .accepted
  else .proposed

def validateOperation (operation : owner.Operation) : HubResult Unit :=
  rejectIf (owner.family.operationViolations operation ≠ []) owner.operationInvalidCode
    ("; ".intercalate ((owner.family.operationViolations operation).map fun failure =>
      failure.path ++ ":" ++ failure.code))

def proposedTarget (createdAtMs : Int) (preflight : TargetPreflight) : owner.Target where
  deviceId := preflight.deviceId
  identityRevision := preflight.identityRevision
  preflight := preflight
  lifecycle := if preflight.eligible then .proposed else .rejected
  invocation := none
  receipt := none
  evidence := owner.initialEvidence
  failureCode := none
  updatedAtMs := createdAtMs

def proposedOperation (plan : OwnerPreviewPlan Action Policy Generation) (fleetRevision : Nat)
    (preflights : List TargetPreflight) : owner.Operation where
  schema := owner.family.operationSchema
  operationId := plan.operationId
  actionId := owner.family.actionId
  lifecycle := .proposed
  preview :=
    { schema := owner.family.previewSchema
      previewId := plan.previewId
      operationId := plan.operationId
      actionId := owner.family.actionId
      action := plan.request.action
      createdAtMs := plan.createdAtMs
      expiresAtMs := plan.expiresAtMs
      fleetRevision := fleetRevision
      policy := plan.request.policy
      watchdogGeneration := plan.watchdogGeneration
      owner := owner.family.binding
      targets := preflights }
  confirmedAtMs := none
  targets := preflights.map (owner.proposedTarget plan.createdAtMs)
  updatedAtMs := plan.createdAtMs

def confirmed (operation : owner.Operation) (nowMs : Int) : owner.Operation :=
  let updated : owner.Operation :=
    { operation with
      confirmedAtMs := some nowMs
      updatedAtMs := nowMs
      targets := operation.targets.map fun target =>
        if target.preflight.eligible then { target with lifecycle := .accepted, updatedAtMs := nowMs }
        else target }
  { updated with lifecycle := owner.deriveLifecycle updated }

/-- One target and the operation's own time change together. -/
def rewriteTarget (operation : owner.Operation) (deviceId : String) (nowMs : Int)
    (rewrite : owner.Target → owner.Target) : owner.Operation :=
  { operation with
    targets := Support.modifyFirst (·.deviceId == deviceId) rewrite operation.targets
    updatedAtMs := nowMs }

def rederived (operation : owner.Operation) : owner.Operation :=
  { operation with lifecycle := owner.deriveLifecycle operation }

def operation (operations : owner.Stored) (operationId : String) : HubResult owner.Operation :=
  orRefuse operations[operationId]? (owner.code "operation_not_found") "operation not found"

def target (operation : owner.Operation) (deviceId : String) : HubResult owner.Target :=
  orRefuse (operation.targets.find? (·.deviceId == deviceId)) (owner.code "target_not_found")
    "target is not in operation"

/-- The edit is stored where it was made and validated there. -/
def settle (operations : owner.Stored) (operationId : String)
    (edit : HubResult (LedgerEdit owner.Operation)) : HubResult owner.Operation × owner.Stored :=
  match edit with
  | .error fault => (.error fault, operations)
  | .ok (.unchanged operation) => (.ok operation, operations)
  | .ok (.rewritten operation) =>
    ((owner.validateOperation operation).map fun _ => operation, operations.insert operationId operation)

variable (hub : FleetHub) (operations : owner.Stored)

def previewEdit (plan : OwnerPreviewPlan Action Policy Generation) :
    HubResult (LedgerEdit owner.Operation) := do
  rejectIf (owner.family.requestViolations plan.request ≠ [] ∨ plan.createdAtMs < 0 ∨
      plan.expiresAtMs ≤ plan.createdAtMs ∨
      plan.expiresAtMs - plan.createdAtMs > ownerPreviewMaxLifetimeMs ∨
      plan.operationId.isEmpty ∨ plan.previewId.isEmpty ∨
      ¬ owner.generationPresent plan.watchdogGeneration)
    (owner.code "preview_plan_invalid")
    (owner.family.noun ++ " preview plan is invalid or exceeds its bounded lifetime")
  match operations[plan.operationId]? with
  | some existing =>
    rejectIf (existing.preview.previewId ≠ plan.previewId ∨
        existing.preview.action ≠ plan.request.action ∨ existing.preview.policy ≠ plan.request.policy)
      (owner.code "operation_id_conflict") owner.conflictMessage
    return .unchanged existing
  | none =>
    let preflights ← hub.requestedPreflights owner.targetTexts
      (fun deviceId record => owner.preflight record plan.createdAtMs
        (plan.providerReadyDevices.contains deviceId)) plan.request.targets.toList
    let operation := owner.proposedOperation plan hub.resultRevision preflights
    owner.validateOperation operation
    rejectIf (operations.size ≥ owner.maxOperations) (owner.code "operation_limit_reached")
      ("Fleet Hub retains at most " ++ toString owner.maxOperations ++ " " ++ owner.family.noun ++
        " operations")
    return .rewritten operation

def requireTargetCurrent (operation : owner.Operation) (deviceId : String) (nowMs : Int) :
    HubResult Unit := do
  let target ← owner.target operation deviceId
  let record ← orRefuse hub.devices[deviceId]? (owner.code "target_not_found")
    "target is no longer enrolled"
  rejectIf (record.observation.identity.identityRevision ≠ target.identityRevision)
    (owner.code "target_identity_changed") "target identity changed after preview"
  rejectIf (record.observation.receivedTimeMs > nowMs ∨ record.observation.sourceTimeMs > nowMs)
    (owner.code "capability_changed")
    (owner.subject ++ "target observation is not current at confirmation")

def requireTargetsCurrent (operation : owner.Operation) (nowMs : Int) :
    List owner.Target → HubResult Unit
  | [] => .ok ()
  | target :: rest => do
    if target.preflight.eligible then owner.requireTargetCurrent hub operation target.deviceId nowMs
    requireTargetsCurrent operation nowMs rest

def confirmEdit (operationId previewId : String) (nowMs : Int) :
    HubResult (LedgerEdit owner.Operation) := do
  let existing ← owner.operation operations operationId
  rejectIf (existing.preview.previewId ≠ previewId) (owner.code "preview_conflict")
    ("execute request does not bind the immutable " ++ owner.family.noun ++ " preview")
  if existing.lifecycle ≠ .proposed then return .unchanged existing
  else do
    rejectIf (nowMs > existing.preview.expiresAtMs) (owner.code "preview_expired")
      (owner.family.noun ++ " preview expired before confirmation")
    owner.requireTargetsCurrent hub existing nowMs existing.targets
    return .rewritten (owner.confirmed existing nowMs)

def prepareEdit (operationId deviceId requestId : String) (expectedDeviceGeneration : Option String)
    (nowMs : Int) : HubResult (LedgerEdit owner.Operation) := do
  let existing ← owner.operation operations operationId
  rejectIf (nowMs > existing.preview.expiresAtMs) (owner.code "preview_expired")
    (owner.family.noun ++ " dispatch cannot begin after preview expiry")
  owner.requireTargetCurrent hub existing deviceId nowMs
  let target ← owner.target existing deviceId
  rejectIf (target.lifecycle ≠ .accepted) (owner.code "dispatch_state_invalid") owner.prepareStateMessage
  let watchdogGeneration ← owner.preparedGeneration existing.preview.action
    existing.preview.watchdogGeneration expectedDeviceGeneration
  let invocation : OwnerInvocation Action Policy Generation :=
    { schema := owner.family.invocationSchema
      requestId := requestId
      operationId := existing.operationId
      previewId := existing.preview.previewId
      deviceId := target.deviceId
      identityRevision := target.identityRevision
      action := existing.preview.action
      policy := existing.preview.policy
      watchdogGeneration := watchdogGeneration
      issuedAtMs := nowMs
      expiresAtMs := owner.invocationExpiry existing.preview.action existing.preview.expiresAtMs }
  return .rewritten (owner.rewriteTarget existing deviceId nowMs fun target =>
    { target with invocation := some invocation, updatedAtMs := nowMs })

def dispatchedEdit (operationId deviceId : String) (nowMs : Int) :
    HubResult (LedgerEdit owner.Operation) := do
  let operation ← owner.operation operations operationId
  let target ← owner.target operation deviceId
  rejectIf (target.lifecycle ≠ .accepted ∨ target.invocation.isNone)
    (owner.code "dispatch_state_invalid") (owner.subject ++ "target has no accepted exact invocation")
  return .rewritten (owner.rederived (owner.rewriteTarget operation deviceId nowMs fun target =>
    { target with lifecycle := .dispatched, updatedAtMs := nowMs }))

/-- The receipt names the invocation's request and falls into its validity window. -/
def receiptMatches (invocation : OwnerInvocation Action Policy Generation) (receipt : Receipt) : Prop :=
  let header := owner.family.receiptHeader receipt
  header.requestId = invocation.requestId ∧ header.previewId = invocation.previewId ∧
    header.identityRevision = invocation.identityRevision ∧ header.action = invocation.action ∧
    owner.family.receiptGenerationBound invocation.watchdogGeneration receipt = true ∧
    owner.family.receiptPolicyBound invocation.policy receipt = true ∧
    invocation.issuedAtMs ≤ header.observedAtMs ∧ header.observedAtMs ≤ invocation.expiresAtMs

instance (invocation : OwnerInvocation Action Policy Generation) (receipt : Receipt) :
    Decidable (owner.receiptMatches invocation receipt) :=
  inferInstanceAs (Decidable (_ ∧ _))

def receiptEdit (receipt : Receipt) (nowMs : Int) : HubResult (LedgerEdit owner.Operation) := do
  let header := owner.family.receiptHeader receipt
  panicIf (owner.receiptOverflows receipt) "attempt to add with overflow"
  rejectIf (¬ Valid receipt) (owner.code "receipt_invalid")
    (owner.family.noun ++ " owner receipt is invalid or future-dated")
  panicIf (nowMs + 30000 > i64Max) "attempt to add with overflow"
  rejectIf (header.observedAtMs > nowMs + 30000) (owner.code "receipt_invalid")
    (owner.family.noun ++ " owner receipt is invalid or future-dated")
  let operation ← owner.operation operations header.operationId
  let target ← owner.target operation header.deviceId
  let invocation ← orRefuse target.invocation (owner.code "invocation_missing")
    owner.invocationMissingMessage
  rejectIf (¬ owner.receiptMatches invocation receipt) (owner.code "receipt_binding_mismatch")
    (owner.subject ++ "receipt does not bind the exact owner invocation")
  rejectIf (target.lifecycle ∉ [.dispatched, .running, .applied]) (owner.code "receipt_state_invalid")
    (owner.subject ++ "receipt is not admissible in the target lifecycle")
  return .rewritten (owner.rederived (owner.rewriteTarget operation header.deviceId nowMs fun target =>
    { target with
      lifecycle := if owner.receiptEffective receipt then .applied else .running
      receipt := some receipt
      evidence := owner.evidenceAfterReceipt target.evidence
      failureCode := none
      updatedAtMs := nowMs }))

def failEdit (operationId deviceId code : String) (nowMs : Int) :
    HubResult (LedgerEdit owner.Operation) := do
  let operation ← owner.operation operations operationId
  let _ ← owner.target operation deviceId
  rejectIf (code.isEmpty ∨ code.utf8ByteSize > 256) (owner.code "failure_code_invalid")
    (owner.subject ++ "failure code must be bounded")
  return .rewritten (owner.rederived (owner.rewriteTarget operation deviceId nowMs fun target =>
    { target with lifecycle := .failed, failureCode := some code, updatedAtMs := nowMs }))

end OwnerHub

end RustyFleet

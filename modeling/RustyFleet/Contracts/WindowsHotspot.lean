import RustyFleet.Contracts.Preflight

namespace RustyFleet

def windowsHotspotActionId := "host.windows-mobile-hotspot"
def windowsHotspotResourceId := "windows.mobile-hotspot"
def windowsHotspotOwner := "rusty-hostess"
def windowsHotspotProviderRequestSchema := "rusty.hostess.windows_hotspot.provider_request.v1"
def windowsHotspotProviderReceiptSchema := "rusty.hostess.windows_hotspot.provider_receipt.v1"
def windowsHotspotPreviewRequestSchema := "rusty.fleet.windows_hotspot_preview_request.v1"
def windowsHotspotOperationSchema := "rusty.fleet.windows_hotspot_operation.v1"
def windowsHotspotLeaseSchema := "rusty.fleet.host_resource_lease.v1"

inductive WindowsHotspotAction
  | status | start | ensure | stop
deriving DecidableEq, Repr

inductive WindowsHotspotOwnership
  | none | fleet | external
deriving DecidableEq, Repr

inductive WindowsHotspotResult
  | verified | failed | rejected | unavailable
deriving DecidableEq, Repr

structure WindowsHotspotPreviewRequest where
  schema : String
  actionId : String
  action : WindowsHotspotAction
deriving DecidableEq

instance : ValidateContract WindowsHotspotPreviewRequest where
  violations request :=
    violationIf (request.schema ≠ windowsHotspotPreviewRequestSchema)
      "wrong_schema" "schema" "unsupported schema" ++
    violationIf (request.actionId ≠ windowsHotspotActionId)
      "wrong_action_id" "action_id" "unsupported action"

structure WindowsHotspotPreflight where
  providerReady : Bool
  leaseAvailable : Bool
  active : Bool
  ownership : WindowsHotspotOwnership
  ownershipGeneration : Option String
  eligible : Bool
  reasonCode : String
  message : String
deriving DecidableEq

structure WindowsHotspotPreview where
  schema : String
  previewId : String
  operationId : String
  actionId : String
  resourceId : String
  ownerId : String
  action : WindowsHotspotAction
  createdAtMs : Int
  expiresAtMs : Int
  fleetRevision : Nat
  preflight : WindowsHotspotPreflight
deriving DecidableEq

structure WindowsHotspotLease where
  schema : String
  leaseId : String
  resourceId : String
  holderOperationId : String
  generation : String
  issuedAtMs : Int
  expiresAtMs : Int
deriving DecidableEq

structure WindowsHotspotProviderRequest where
  schema : String
  requestId : String
  operationId : String
  action : WindowsHotspotAction
  expiresAtUtc : String
  timeoutMs : Nat
  ownershipGeneration : Option String
deriving DecidableEq

def generationBindingViolations (request : WindowsHotspotProviderRequest) : List ContractViolation :=
  match request.action with
  | .stop =>
    violationIf (request.ownershipGeneration.all (·.isEmpty))
      "generation_binding_invalid" "ownership_generation"
      "stop requires the exact Hostess ownership generation"
  | .status | .start =>
    violationIf request.ownershipGeneration.isSome
      "generation_binding_invalid" "ownership_generation"
      "status and start cannot supply an ownership generation"
  | .ensure => []

instance : ValidateContract WindowsHotspotProviderRequest where
  violations request :=
    violationIf (request.schema ≠ windowsHotspotProviderRequestSchema)
      "wrong_schema" "schema" "unsupported schema" ++
    [(request.requestId, "request_id"), (request.operationId, "operation_id"),
      (request.expiresAtUtc, "expires_at_utc")].flatMap (fun (value, path) =>
        requireNonempty value path ++
        violationIf (value.utf8ByteSize > 128) "identifier_too_long" path
          "Hostess provider identifiers are bounded to 128 bytes") ++
    violationIf (request.expiresAtUtc.toList.getLast? ≠ some 'Z' ∨
        ¬ (100 ≤ request.timeoutMs ∧ request.timeoutMs ≤ 120000))
      "invalid_deadline" "expires_at_utc" "provider deadline must be UTC and timeout must be bounded" ++
    generationBindingViolations request

structure WindowsHotspotProviderReceipt where
  schema : String
  requestId : String
  operationId : String
  action : WindowsHotspotAction
  outcome : WindowsHotspotResult
  reason : String
  observedAtUtc : String
  capabilityAvailable : Bool
  capability : String
  operationalState : String
  clientCount : Nat
  maxClientCount : Nat
  band : String
  sourceConnectivity : String
  ownershipGeneration : Option String
deriving DecidableEq

def containsText (text part : String) : Bool := text.toList.tails.any (part.toList.isPrefixOf ·)

instance : ValidateContract WindowsHotspotProviderReceipt where
  violations receipt :=
    violationIf (receipt.schema ≠ windowsHotspotProviderReceiptSchema)
      "wrong_schema" "schema" "unsupported schema" ++
    [(receipt.requestId, "request_id"), (receipt.operationId, "operation_id"),
      (receipt.reason, "reason"), (receipt.observedAtUtc, "observed_at_utc"),
      (receipt.capability, "capability"), (receipt.operationalState, "operational_state"),
      (receipt.band, "band"), (receipt.sourceConnectivity, "source_connectivity")].flatMap
      (fun (value, path) => requireNonempty value path) ++
    violationIf (receipt.requestId.utf8ByteSize > 128 ∨ receipt.operationId.utf8ByteSize > 128)
      "identifier_too_long" "request_id" "Hostess provider identifiers are bounded to 128 bytes" ++
    violationIf (receipt.observedAtUtc.toList.getLast? ≠ some 'Z' ∧
        ¬ containsText receipt.observedAtUtc "+00:00")
      "invalid_timestamp" "observed_at_utc" "provider receipt timestamp must be UTC" ++
    violationIf (receipt.clientCount > receipt.maxClientCount ∧ receipt.maxClientCount ≠ 0)
      "invalid_client_count" "client_count" "client count cannot exceed the reported maximum" ++
    violationIf (receipt.ownershipGeneration.any (·.isEmpty))
      "generation_invalid" "ownership_generation" "ownership generation must not be empty"

structure WindowsHotspotOperation where
  schema : String
  operationId : String
  actionId : String
  lifecycle : CommandLifecycle
  preview : WindowsHotspotPreview
  confirmedAtMs : Option Int
  lease : Option WindowsHotspotLease
  invocation : Option WindowsHotspotProviderRequest
  receipt : Option WindowsHotspotProviderReceipt
  failureCode : Option String
  updatedAtMs : Int
deriving DecidableEq

/-- The operation holds or is about to use the one host resource. -/
def WindowsHotspotOperation.isActive (operation : WindowsHotspotOperation) : Bool :=
  operation.lifecycle == .accepted || operation.lifecycle == .dispatched ||
    operation.lifecycle == .running

def hotspotLeaseBound (operation : WindowsHotspotOperation) (lease : WindowsHotspotLease) : Prop :=
  lease.schema = windowsHotspotLeaseSchema ∧ lease.resourceId = windowsHotspotResourceId ∧
    lease.holderOperationId = operation.operationId ∧ lease.leaseId.isEmpty = false ∧
    lease.generation.isEmpty = false ∧ lease.issuedAtMs < lease.expiresAtMs ∧
    lease.expiresAtMs = operation.preview.expiresAtMs

instance (operation : WindowsHotspotOperation) (lease : WindowsHotspotLease) :
    Decidable (hotspotLeaseBound operation lease) :=
  inferInstanceAs (Decidable (_ ∧ _))

def hotspotInvocationViolations (operation : WindowsHotspotOperation)
    (invocation : WindowsHotspotProviderRequest) : List ContractViolation :=
  violations invocation ++
  violationIf (invocation.operationId ≠ operation.operationId ∨
      invocation.action ≠ operation.preview.action)
    "invocation_binding_mismatch" "invocation" "invocation does not bind operation and action"

def hotspotReceiptViolations (operation : WindowsHotspotOperation)
    (receipt : WindowsHotspotProviderReceipt) : List ContractViolation :=
  violations receipt ++
  violationIf (receipt.operationId ≠ operation.operationId ∨ receipt.action ≠ operation.preview.action ∨
      operation.invocation.map (·.requestId) ≠ some receipt.requestId)
    "receipt_binding_mismatch" "receipt" "receipt does not bind the exact invocation"

instance : ValidateContract WindowsHotspotOperation where
  violations operation :=
    violationIf (operation.schema ≠ windowsHotspotOperationSchema)
      "wrong_schema" "schema" "unsupported schema" ++
    violationIf (operation.actionId ≠ windowsHotspotActionId ∨
        operation.operationId ≠ operation.preview.operationId ∨
        operation.actionId ≠ operation.preview.actionId ∨
        operation.preview.resourceId ≠ windowsHotspotResourceId ∨
        operation.preview.ownerId ≠ windowsHotspotOwner)
      "operation_binding_mismatch" "operation_id"
      "operation does not bind its exact immutable preview" ++
    violationIf (operation.preview.expiresAtMs ≤ operation.preview.createdAtMs)
      "invalid_expiry" "preview.expires_at_ms" "preview expiry must follow creation" ++
    violationIf (operation.preview.schema ≠ "rusty.fleet.windows_hotspot_preview.v1" ∨
        operation.preview.actionId ≠ windowsHotspotActionId ∨
        operation.preview.resourceId ≠ windowsHotspotResourceId ∨
        operation.preview.ownerId ≠ windowsHotspotOwner ∨ operation.preview.fleetRevision = 0)
      "preview_invalid" "preview" "preview authority and revision are invalid" ++
    violationIf (∃ lease ∈ operation.lease, ¬ hotspotLeaseBound operation lease)
      "lease_binding_mismatch" "lease"
      "host lease does not bind the operation, resource, generation, and preview expiry" ++
    (operation.invocation.map (hotspotInvocationViolations operation)).getD [] ++
    (operation.receipt.map (hotspotReceiptViolations operation)).getD [] ++
    violationIf ((operation.lifecycle = .accepted ∨ operation.lifecycle = .dispatched) ∧
        operation.confirmedAtMs = none)
      "confirmation_missing" "confirmed_at_ms"
      "accepted and dispatched operations require explicit confirmation" ++
    violationIf (operation.lifecycle = .dispatched ∧ operation.invocation = none)
      "invocation_missing" "invocation" "dispatched operation requires an exact provider invocation"

end RustyFleet

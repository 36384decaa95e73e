import RustyFleet.Contracts.Preflight

namespace RustyFleet

def isOwnerPortableByte (c : Char) : Bool := asciiAlphanumeric c || c == '.' || c == '_' || c == '-'

def isOwnerPortableId (value : String) (maximum : Nat) : Bool :=
  1 ≤ value.utf8ByteSize && value.utf8ByteSize ≤ maximum && value.toList.all isOwnerPortableByte

def isLowerSha256 (value : String) : Bool := value.utf8ByteSize == 64 && value.toList.all isLowerHex

structure OwnerPreviewRequest (Action Policy : Type) where
  schema : String
  actionId : String
  action : Action
  policy : Policy
  targets : BTreeMap String Nat

structure OwnerPreview (Action Policy Generation Binding : Type) where
  schema : String
  previewId : String
  operationId : String
  actionId : String
  action : Action
  createdAtMs : Int
  expiresAtMs : Int
  fleetRevision : Nat
  policy : Policy
  watchdogGeneration : Generation
  owner : Binding
  targets : List TargetPreflight
deriving DecidableEq

structure OwnerInvocation (Action Policy Generation : Type) where
  schema : String
  requestId : String
  operationId : String
  previewId : String
  deviceId : String
  identityRevision : Nat
  action : Action
  policy : Policy
  watchdogGeneration : Generation
  issuedAtMs : Int
  expiresAtMs : Int
deriving DecidableEq

structure OwnerTargetLedger (Action Policy Generation Receipt Evidence : Type) where
  deviceId : String
  identityRevision : Nat
  preflight : TargetPreflight
  lifecycle : CommandLifecycle
  invocation : Option (OwnerInvocation Action Policy Generation)
  receipt : Option Receipt
  evidence : Evidence
  failureCode : Option String
  updatedAtMs : Int
deriving DecidableEq

structure OwnerOperation (Action Policy Generation Binding Receipt Evidence : Type) where
  schema : String
  operationId : String
  actionId : String
  lifecycle : CommandLifecycle
  preview : OwnerPreview Action Policy Generation Binding
  confirmedAtMs : Option Int
  targets : List (OwnerTargetLedger Action Policy Generation Receipt Evidence)
  updatedAtMs : Int
deriving DecidableEq

/-- The fields of an owner receipt that every family binds to its invocation. -/
structure ReceiptHeader (Action : Type) where
  requestId : String
  operationId : String
  previewId : String
  deviceId : String
  identityRevision : Nat
  action : Action
  observedAtMs : Int

/-- What distinguishes the Quest awake and the Quest Wi-Fi ADB contracts from each other. -/
structure OwnerFamily (Action Policy Generation Binding Receipt Evidence : Type) where
  requestSchema : String
  previewSchema : String
  invocationSchema : String
  operationSchema : String
  actionId : String
  wrongActionMessage : String
  wrongSchemaMessage : String
  preflight : PreflightProfile
  binding : Binding
  bindingMessage : String
  noun : String
  requestCountMessage : String
  requestTargetMessage : String
  previewHeaderMessage : String
  previewCountMessage : String
  previewDuplicateMessage : String
  invocationHeaderMessage : String
  operationHeaderMessage : String
  unknownTargetMessage : String
  appliedMessage : String
  policyViolations : Policy → List ContractViolation
  /-- The generation as a portable identifier with its field path, where the family has one. -/
  generationIdentifiers : Generation → List (String × String)
  generationBound : Action → (preview invocation : Generation) → Bool
  receiptHeader : Receipt → ReceiptHeader Action
  receiptPolicyBound : Policy → Receipt → Bool
  receiptGenerationBound : Generation → Receipt → Bool
  receiptProvesApplied : Receipt → Bool
  evidenceViolations : (operationId deviceId : String) → (identityRevision : Nat) → Option Receipt →
    Evidence → List ContractViolation

namespace OwnerFamily

variable {Action Policy Generation Binding Receipt Evidence : Type}
  [DecidableEq Action] [DecidableEq Policy] [DecidableEq Binding] [ValidateContract Receipt]
  (family : OwnerFamily Action Policy Generation Binding Receipt Evidence)

def requestTargetsViolations (targets : BTreeMap String Nat) : List ContractViolation :=
  violationIf (targets.size = 0 ∨ targets.size > 10000)
    "invalid_target_count" "targets" family.requestCountMessage ++
  targets.toList.flatMap fun (deviceId, revision) =>
    violationIf (¬ isOwnerPortableId deviceId 256 ∨ revision = 0)
      "invalid_target" "targets" family.requestTargetMessage

def requestViolations (request : OwnerPreviewRequest Action Policy) : List ContractViolation :=
  violationIf (request.schema ≠ family.requestSchema)
    "wrong_schema" "schema" family.wrongSchemaMessage ++
  violationIf (request.actionId ≠ family.actionId)
    "wrong_action" "action_id" family.wrongActionMessage ++
  family.policyViolations request.policy ++
  family.requestTargetsViolations request.targets

/-- The loop over the preview targets, remembering the devices already inserted. -/
def previewTargetsViolations (createdAtMs : Int) (devices : List String) :
    List TargetPreflight → List ContractViolation
  | [] => []
  | target :: rest =>
    violationIf (target.deviceId ∈ devices)
      "duplicate_target" "targets" family.previewDuplicateMessage ++
    family.preflight.violations target ++
    violationIf (target.evaluatedAtMs ≠ createdAtMs)
      "preflight_time_mismatch" "targets.evaluated_at_ms"
      "target preflight must bind the preview time" ++
    previewTargetsViolations createdAtMs (target.deviceId :: devices) rest

def previewViolations (preview : OwnerPreview Action Policy Generation Binding) : List ContractViolation :=
  violationIf (preview.schema ≠ family.previewSchema ∨ ¬ isOwnerPortableId preview.previewId 256 ∨
      ¬ isOwnerPortableId preview.operationId 256 ∨
      (∃ field ∈ family.generationIdentifiers preview.watchdogGeneration, ¬ isOwnerPortableId field.2 256) ∨
      preview.actionId ≠ family.actionId ∨ preview.createdAtMs < 0 ∨
      preview.expiresAtMs ≤ preview.createdAtMs ∨ preview.fleetRevision = 0)
    "invalid_preview_header" "preview" family.previewHeaderMessage ++
  family.policyViolations preview.policy ++
  violationIf (preview.owner ≠ family.binding)
    "owner_contract_mismatch" "owner" family.bindingMessage ++
  violationIf (preview.targets.length = 0 ∨ preview.targets.length > 10000)
    "invalid_target_count" "targets" family.previewCountMessage ++
  family.previewTargetsViolations preview.createdAtMs [] preview.targets

def invocationViolations (invocation : OwnerInvocation Action Policy Generation) : List ContractViolation :=
  violationIf (invocation.schema ≠ family.invocationSchema ∨ invocation.identityRevision = 0 ∨
      invocation.issuedAtMs < 0 ∨ invocation.expiresAtMs ≤ invocation.issuedAtMs)
    "invalid_invocation_header" "invocation" family.invocationHeaderMessage ++
  ([("request_id", invocation.requestId), ("operation_id", invocation.operationId),
    ("preview_id", invocation.previewId), ("device_id", invocation.deviceId)] ++
      family.generationIdentifiers invocation.watchdogGeneration).flatMap (fun (path, value) =>
    violationIf (¬ isOwnerPortableId value 256) "invalid_identifier" path
      "invocation identifiers must be bounded and portable") ++
  family.policyViolations invocation.policy

variable (operation : OwnerOperation Action Policy Generation Binding Receipt Evidence)

def invocationBound (target : OwnerTargetLedger Action Policy Generation Receipt Evidence)
    (invocation : OwnerInvocation Action Policy Generation) : Prop :=
  family.invocationViolations invocation = [] ∧ invocation.operationId = operation.operationId ∧
    invocation.previewId = operation.preview.previewId ∧ invocation.deviceId = target.deviceId ∧
    invocation.identityRevision = target.identityRevision ∧
    invocation.action = operation.preview.action ∧
    family.generationBound operation.preview.action operation.preview.watchdogGeneration
      invocation.watchdogGeneration = true ∧ invocation.policy = operation.preview.policy

def receiptBound (target : OwnerTargetLedger Action Policy Generation Receipt Evidence) (receipt : Receipt) : Prop :=
  let header := family.receiptHeader receipt
  Valid receipt ∧ header.operationId = operation.operationId ∧
    header.previewId = operation.preview.previewId ∧ header.deviceId = target.deviceId ∧
    header.identityRevision = target.identityRevision ∧ header.action = operation.preview.action ∧
    family.receiptPolicyBound operation.preview.policy receipt = true ∧
    ∃ invocation ∈ target.invocation, invocation.requestId = header.requestId ∧
      family.receiptGenerationBound invocation.watchdogGeneration receipt = true

instance (target : OwnerTargetLedger Action Policy Generation Receipt Evidence)
    (invocation : OwnerInvocation Action Policy Generation) :
    Decidable (family.invocationBound operation target invocation) :=
  inferInstanceAs (Decidable (_ ∧ _))

instance (target : OwnerTargetLedger Action Policy Generation Receipt Evidence) (receipt : Receipt) :
    Decidable (family.receiptBound operation target receipt) :=
  inferInstanceAs (Decidable (_ ∧ _))

def targetViolations (target : OwnerTargetLedger Action Policy Generation Receipt Evidence) :
    List ContractViolation :=
  match operation.preview.targets.find? (·.deviceId = target.deviceId) with
  | none => [⟨"unknown_target", "targets", family.unknownTargetMessage⟩]
  | some preflight =>
    violationIf (target.identityRevision ≠ preflight.identityRevision ∨ target.preflight ≠ preflight ∨
        target.updatedAtMs < operation.preview.createdAtMs)
      "target_binding_mismatch" "targets" "operation target differs from the frozen preview" ++
    violationIf (∃ invocation ∈ target.invocation, ¬ family.invocationBound operation target invocation)
      "invocation_binding_mismatch" "targets.invocation"
      "owner invocation differs from the frozen operation" ++
    violationIf (∃ receipt ∈ target.receipt, ¬ family.receiptBound operation target receipt)
      "receipt_binding_mismatch" "targets.receipt" "owner receipt differs from the exact invocation" ++
    violationIf (target.lifecycle = .applied ∧
        ¬ ∃ receipt ∈ target.receipt, family.receiptProvesApplied receipt = true)
      "applied_without_effective_receipt" "targets.lifecycle" family.appliedMessage ++
    family.evidenceViolations operation.operationId target.deviceId target.identityRevision
      target.receipt target.evidence

def operationViolations : List ContractViolation :=
  violationIf (operation.schema ≠ family.operationSchema ∨
      operation.operationId ≠ operation.preview.operationId ∨ operation.actionId ≠ family.actionId ∨
      operation.updatedAtMs < operation.preview.createdAtMs)
    "invalid_operation_header" "operation" family.operationHeaderMessage ++
  family.previewViolations operation.preview ++
  violationIf (operation.targets.length ≠ operation.preview.targets.length)
    "target_count_mismatch" "targets" "operation ledger must retain every preview target" ++
  operation.targets.flatMap fun target => family.targetViolations operation target

end OwnerFamily

end RustyFleet

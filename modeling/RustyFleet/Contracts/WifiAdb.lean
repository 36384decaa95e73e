import RustyFleet.Contracts.OwnerOperation
import RustyFleet.Contracts.Text

namespace RustyFleet

def questWifiAdbCapabilityId := "questionable-file-manager.quest-wifi-adb-provider"
def questWifiAdbOwner := "questionable-file-manager"
def questWifiAdbReceiptSchema := "questionable.file_manager.quest_wifi_adb_receipt.v1"

inductive QuestWifiAdbAction
  | status | requestWirelessAdb | enableRequestAfterBoot | disableRequestAfterBoot | disableWirelessAdb
  | enableClassicTcpipFromUsb
deriving DecidableEq, Repr

inductive QuestWifiAdbRouteMode
  | none | modernTls | classicTcpip
deriving DecidableEq, Repr

inductive QuestWifiAdbWearerApproval
  | notApplicable | pending | accepted | rejected | unknown
deriving DecidableEq, Repr

structure QuestWifiAdbOwnerBinding where
  ownerRepoId : String
  capabilityId : String
  providerContract : String
  receiptSchema : String
  transport : String
  privateTargetResolution : String
deriving DecidableEq

def QuestWifiAdbOwnerBinding.fileManagerV1 : QuestWifiAdbOwnerBinding where
  ownerRepoId := questWifiAdbOwner
  capabilityId := questWifiAdbCapabilityId
  providerContract := "questionable.file_manager.fleet_connectivity_provider.v1"
  receiptSchema := questWifiAdbReceiptSchema
  transport := "pinned_local_subprocess"
  privateTargetResolution := "provider_owned_credential_profile"

structure QuestWifiAdbOwnerReceipt where
  schema : String
  requestId : String
  operationId : String
  previewId : String
  deviceId : String
  identityRevision : Nat
  action : QuestWifiAdbAction
  routeMode : QuestWifiAdbRouteMode
  requestDelivered : Bool
  kioskSettingApplied : Bool
  requestAfterBootEnabled : Option Bool
  wearerApproval : QuestWifiAdbWearerApproval
  listenerDiscovered : Bool
  effectApplied : Bool
  outcome : String
  evidenceSha256 : String
  observedAtMs : Int
deriving DecidableEq

def QuestWifiAdbOwnerReceipt.derivedEffectApplied (receipt : QuestWifiAdbOwnerReceipt) : Bool :=
  match receipt.action with
  | .status => receipt.requestDelivered
  | .requestWirelessAdb =>
    receipt.requestDelivered && receipt.kioskSettingApplied &&
      (receipt.wearerApproval == .pending || receipt.wearerApproval == .accepted)
  | .enableRequestAfterBoot =>
    receipt.requestDelivered && receipt.kioskSettingApplied && receipt.requestAfterBootEnabled == some true
  | .disableRequestAfterBoot =>
    receipt.requestDelivered && receipt.kioskSettingApplied && receipt.requestAfterBootEnabled == some false
  | .disableWirelessAdb => receipt.requestDelivered && receipt.kioskSettingApplied
  | .enableClassicTcpipFromUsb =>
    receipt.requestDelivered && !receipt.kioskSettingApplied && receipt.routeMode == .classicTcpip &&
      receipt.listenerDiscovered

/-- Classic USB tcpip facts and modern Kiosk facts exclude each other. -/
def wifiAdbRouteViolations (receipt : QuestWifiAdbOwnerReceipt) : List ContractViolation :=
  if receipt.action = .enableClassicTcpipFromUsb then
    violationIf (receipt.routeMode ≠ .classicTcpip ∨ receipt.kioskSettingApplied ∨
        receipt.requestAfterBootEnabled.isSome ∨ receipt.wearerApproval ≠ .notApplicable)
      "classic_route_conflated" "route_mode"
      "classic USB tcpip must remain independent of Kiosk and modern TLS facts"
  else
    violationIf (receipt.routeMode = .classicTcpip)
      "modern_route_conflated" "route_mode"
      "modern Kiosk request actions cannot claim the classic USB tcpip route"

instance : ValidateContract QuestWifiAdbOwnerReceipt where
  violations receipt :=
    violationIf (receipt.schema ≠ questWifiAdbReceiptSchema ∨ receipt.identityRevision = 0 ∨
        receipt.observedAtMs < 0)
      "invalid_receipt_header" "receipt" "Quest Wi-Fi ADB receipt header is invalid" ++
    [("request_id", receipt.requestId), ("operation_id", receipt.operationId),
      ("preview_id", receipt.previewId), ("device_id", receipt.deviceId)].flatMap (fun (path, value) =>
        violationIf (¬ isOwnerPortableId value 256) "invalid_identifier" path
          "receipt identifiers must be bounded and portable") ++
    violationIf (¬ isLowerSha256 receipt.evidenceSha256 ∨ receipt.outcome.isEmpty ∨
        receipt.outcome.utf8ByteSize > 256)
      "invalid_receipt_evidence" "receipt"
      "receipt outcome and evidence digest must be bounded and valid" ++
    wifiAdbRouteViolations receipt ++
    violationIf (receipt.action = .requestWirelessAdb ∧ receipt.routeMode ≠ .modernTls)
      "request_route_invalid" "route_mode" "wireless debugging requests use the modern TLS route" ++
    violationIf (receipt.wearerApproval = .accepted)
      "wearer_approval_not_observable" "wearer_approval"
      "File Manager and Kiosk setting readback cannot assert wearer acceptance" ++
    violationIf (receipt.effectApplied ≠ receipt.derivedEffectApplied)
      "effect_summary_mismatch" "effect_applied"
      "effect summary contradicts the independent action facts"

structure QuestWifiAdbTermuxProof where
  schema : String
  proofId : String
  ownerId : String
  deviceId : String
  identityRevision : Nat
  sourceEpoch : String
  sourceRevision : Nat
  evidenceRevision : Nat
  routeMode : QuestWifiAdbRouteMode
  discoveryMode : String
  listenerDiscovered : Bool
  shellIdentity : Option String
  available : Bool
  evidenceSha256 : String
  observedAtMs : Int
  freshUntilMs : Int
deriving DecidableEq

def termuxAdbShellIdentity := "uid=2000(shell)"

instance : ValidateContract QuestWifiAdbTermuxProof where
  violations proof :=
    violationIf (proof.schema ≠ "rusty.fleet.quest_wifi_adb_termux_proof.v1" ∨
        proof.ownerId ≠ "quest-termux-lab" ∨ proof.identityRevision = 0 ∨ proof.sourceRevision = 0 ∨
        proof.evidenceRevision = 0 ∨ proof.observedAtMs < 0 ∨ proof.freshUntilMs ≤ proof.observedAtMs ∨
        proof.freshUntilMs - proof.observedAtMs > 60000 ∨ ¬ isLowerSha256 proof.evidenceSha256 ∨
        ¬ isOwnerPortableId proof.sourceEpoch 256 ∨ proof.routeMode ≠ .modernTls ∨
        proof.discoveryMode ∉ ["tls_nsd", "tls_mdns"] ∨
        proof.available ≠
          (proof.listenerDiscovered && proof.shellIdentity == some termuxAdbShellIdentity) ∨
        (¬ proof.available ∧ (proof.listenerDiscovered ∨ proof.shellIdentity.isSome)))
      "invalid_termux_proof" "proof"
      "proof must bind a discovered route and exact uid=2000(shell) identity" ++
    [("proof_id", proof.proofId), ("device_id", proof.deviceId)].flatMap fun (path, value) =>
      violationIf (¬ isOwnerPortableId value 256) "invalid_identifier" path
        "proof identifiers must be bounded and portable"

structure QuestWifiAdbTermuxAdmission where
  schema : String
  checkinId : String
  operationId : String
  deviceId : String
  identityRevision : Nat
  sourceEpoch : String
  sourceRevision : Nat
  evidenceRevision : Nat
  proofId : String
  receiptRequestId : String
  receiptEvidenceSha256 : String
  keyId : String
  keyGeneration : Nat
  publicKeySha256 : String
  claimsJcsSha256 : String
  signingMessageSha256 : String
  signatureSha256 : String
  fleetAcceptedRevision : Nat
  enrollmentAuthorityRevision : Nat
  manifoldAuthorityRevision : Nat
  signatureVerified : Bool
  canonicalClaimsVerified : Bool
  enrollmentActive : Bool
  acceptedAtMs : Int
  expiresAtMs : Int
  lineageSha256 : String
deriving DecidableEq

/-- What the lineage digest covers: every field but the schema, the flags and the digest itself. -/
def QuestWifiAdbTermuxAdmission.lineageBytes (admission : QuestWifiAdbTermuxAdmission) : Bytes :=
  separatedBytes "rusty.fleet.quest-wifi-adb.termux-admission-lineage.v1"
    [admission.checkinId, admission.operationId, admission.deviceId, admission.sourceEpoch, admission.proofId,
      admission.receiptRequestId, admission.receiptEvidenceSha256, admission.keyId, admission.publicKeySha256,
      admission.claimsJcsSha256, admission.signingMessageSha256, admission.signatureSha256] ++
    [admission.identityRevision, admission.sourceRevision, admission.evidenceRevision, admission.keyGeneration,
      admission.fleetAcceptedRevision, admission.enrollmentAuthorityRevision,
      admission.manifoldAuthorityRevision].flatMap u64LeBytes ++
    i64LeBytes admission.acceptedAtMs ++ i64LeBytes admission.expiresAtMs

variable [Sha256Hex]

def QuestWifiAdbTermuxAdmission.expectedLineageSha256 (admission : QuestWifiAdbTermuxAdmission) : String :=
  sha256Hex admission.lineageBytes

instance : ValidateContract QuestWifiAdbTermuxAdmission where
  violations admission :=
    violationIf (admission.schema ≠ "rusty.fleet.quest_wifi_adb_termux_admission.v1" ∨
        admission.identityRevision = 0 ∨ admission.sourceRevision = 0 ∨ admission.evidenceRevision = 0 ∨
        admission.keyGeneration = 0 ∨ admission.fleetAcceptedRevision = 0 ∨
        admission.enrollmentAuthorityRevision = 0 ∨ admission.manifoldAuthorityRevision = 0 ∨
        ¬ admission.signatureVerified ∨ ¬ admission.canonicalClaimsVerified ∨
        ¬ admission.enrollmentActive ∨ admission.acceptedAtMs < 0 ∨
        admission.expiresAtMs ≤ admission.acceptedAtMs ∨
        admission.expiresAtMs - admission.acceptedAtMs > 300000 ∨
        admission.lineageSha256 ≠ admission.expectedLineageSha256)
      "invalid_termux_admission" "termux_admission"
      "Fleet admission must retain exact signed, enrolled, canonical lineage" ++
    [("checkin_id", admission.checkinId), ("operation_id", admission.operationId),
      ("device_id", admission.deviceId), ("source_epoch", admission.sourceEpoch),
      ("proof_id", admission.proofId), ("receipt_request_id", admission.receiptRequestId),
      ("key_id", admission.keyId)].flatMap (fun (path, value) =>
        violationIf (¬ isOwnerPortableId value 256) "invalid_identifier" path
          "admission identifiers must be bounded and portable") ++
    [("receipt_evidence_sha256", admission.receiptEvidenceSha256),
      ("public_key_sha256", admission.publicKeySha256),
      ("claims_jcs_sha256", admission.claimsJcsSha256),
      ("signing_message_sha256", admission.signingMessageSha256),
      ("signature_sha256", admission.signatureSha256),
      ("lineage_sha256", admission.lineageSha256)].flatMap fun (path, value) =>
        violationIf (¬ isLowerSha256 value) "invalid_sha256" path
          "admission digests must be lowercase SHA-256"

/-- What a Wi-Fi ADB target keeps beside the family's fields. -/
structure QuestWifiAdbTermuxEvidence where
  termuxProof : Option QuestWifiAdbTermuxProof
  termuxAdmission : Option QuestWifiAdbTermuxAdmission
  termuxUsable : Bool
deriving DecidableEq

def termuxProofBound (deviceId : String) (identityRevision : Nat)
    (receipt : Option QuestWifiAdbOwnerReceipt) (proof : QuestWifiAdbTermuxProof) : Prop :=
  Valid proof ∧ proof.deviceId = deviceId ∧ proof.identityRevision = identityRevision ∧
    receipt.map (·.routeMode) = some proof.routeMode

instance (deviceId : String) (identityRevision : Nat) (receipt : Option QuestWifiAdbOwnerReceipt)
    (proof : QuestWifiAdbTermuxProof) :
    Decidable (termuxProofBound deviceId identityRevision receipt proof) :=
  inferInstanceAs (Decidable (_ ∧ _))

def termuxAdmissionBound (operationId deviceId : String) (identityRevision : Nat)
    (retainedReceipt : Option QuestWifiAdbOwnerReceipt) (retainedProof : Option QuestWifiAdbTermuxProof)
    (admission : QuestWifiAdbTermuxAdmission) : Prop :=
  Valid admission ∧ admission.operationId = operationId ∧ admission.deviceId = deviceId ∧
    admission.identityRevision = identityRevision ∧
    (∃ proof ∈ retainedProof, admission.proofId = proof.proofId ∧ admission.sourceEpoch = proof.sourceEpoch ∧
      admission.sourceRevision = proof.sourceRevision ∧
      admission.evidenceRevision = proof.evidenceRevision) ∧
    ∃ receipt ∈ retainedReceipt, admission.receiptRequestId = receipt.requestId ∧
      admission.receiptEvidenceSha256 = receipt.evidenceSha256

instance (operationId deviceId : String) (identityRevision : Nat)
    (retainedReceipt : Option QuestWifiAdbOwnerReceipt) (retainedProof : Option QuestWifiAdbTermuxProof)
    (admission : QuestWifiAdbTermuxAdmission) :
    Decidable (termuxAdmissionBound operationId deviceId identityRevision retainedReceipt retainedProof
      admission) :=
  inferInstanceAs (Decidable (_ ∧ _))

def termuxEvidenceViolations (operationId deviceId : String) (identityRevision : Nat)
    (receipt : Option QuestWifiAdbOwnerReceipt) (evidence : QuestWifiAdbTermuxEvidence) :
    List ContractViolation :=
  violationIf (∃ proof ∈ evidence.termuxProof, ¬ termuxProofBound deviceId identityRevision receipt proof)
    "termux_proof_binding_mismatch" "targets.termux_proof"
    "Termux proof differs from the exact operation and provider route" ++
  violationIf (∃ admission ∈ evidence.termuxAdmission,
      ¬ termuxAdmissionBound operationId deviceId identityRevision receipt evidence.termuxProof admission)
    "termux_admission_binding_mismatch" "targets.termux_admission"
    "Fleet admission differs from the exact operation, owner receipt, or proof" ++
  violationIf (evidence.termuxUsable ∧
      (¬ evidence.termuxProof.any (·.available) ∨ evidence.termuxAdmission = none))
    "termux_usable_without_proof" "targets.termux_usable"
    "only an admitted exact uid=2000(shell) proof makes Termux usable"

abbrev QuestWifiAdbOperation :=
  OwnerOperation QuestWifiAdbAction Unit Unit QuestWifiAdbOwnerBinding QuestWifiAdbOwnerReceipt
    QuestWifiAdbTermuxEvidence

def questWifiAdbFamily :
    OwnerFamily QuestWifiAdbAction Unit Unit QuestWifiAdbOwnerBinding QuestWifiAdbOwnerReceipt
      QuestWifiAdbTermuxEvidence where
  requestSchema := "rusty.fleet.quest_wifi_adb_preview_request.v1"
  previewSchema := "rusty.fleet.quest_wifi_adb_preview.v1"
  invocationSchema := "rusty.fleet.quest_wifi_adb_owner_invocation.v1"
  operationSchema := "rusty.fleet.quest_wifi_adb_operation.v1"
  actionId := "quest.wifi-adb-control"
  wrongActionMessage := "expected quest.wifi-adb-control"
  wrongSchemaMessage := "expected rusty.fleet.quest_wifi_adb_preview_request.v1"
  preflight :=
    { capabilityId := questWifiAdbCapabilityId
      owner := questWifiAdbOwner
      unavailable := "provider_unavailable"
      revisionMessage := "identity and capability revisions must be positive"
      ownerMessage := "Quest Wi-Fi ADB preflight must use File Manager capability evidence" }
  binding := .fileManagerV1
  bindingMessage := "Quest Wi-Fi ADB owner differs from the pinned File Manager provider"
  noun := "Quest Wi-Fi ADB"
  requestCountMessage := "request must contain 1 through 10,000 exact targets"
  requestTargetMessage := "target IDs must be bounded portable identifiers with positive revisions"
  previewHeaderMessage := "Quest Wi-Fi ADB preview identity, time, or revision is invalid"
  previewCountMessage := "preview must contain 1 through 10,000 targets"
  previewDuplicateMessage := "preview targets must be unique"
  invocationHeaderMessage := "Quest Wi-Fi ADB invocation header is invalid"
  operationHeaderMessage := "Quest Wi-Fi ADB operation identity, action, or time is invalid"
  unknownTargetMessage := "ledger target is absent from the immutable preview"
  appliedMessage := "an applied target requires its exact effective owner receipt"
  policyViolations := fun _ => []
  generationIdentifiers := fun _ => []
  generationBound := fun _ _ _ => true
  receiptHeader := fun receipt =>
    { requestId := receipt.requestId, operationId := receipt.operationId, previewId := receipt.previewId,
      deviceId := receipt.deviceId, identityRevision := receipt.identityRevision,
      action := receipt.action, observedAtMs := receipt.observedAtMs }
  receiptPolicyBound := fun _ _ => true
  receiptGenerationBound := fun _ _ => true
  receiptProvesApplied := fun receipt => receipt.effectApplied
  evidenceViolations := termuxEvidenceViolations

instance : ValidateContract QuestWifiAdbOperation where
  violations := questWifiAdbFamily.operationViolations

end RustyFleet

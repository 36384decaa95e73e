import RustyFleet.Adapter.State

namespace RustyFleet

open ManifoldEnvironment

def termuxCapabilityId := "capability.quest-termux-loopback-adb-shell"
def termuxProofOwner := "quest-termux-lab"
def termuxProofSchema := "rusty.fleet.quest_wifi_adb_termux_proof.v1"
def termuxAdmissionSchema := "rusty.fleet.quest_wifi_adb_termux_admission.v1"

/-- `max_by_key`: the last of the elements with the greatest key. -/
def maxByKey {α β : Type} [LinearOrder β] (key : α → β) (values : List α) : Option α :=
  values.reverse.argmax key

theorem maxByKey_mem {α β : Type} [LinearOrder β] {key : α → β} {values : List α} {value : α}
    (selected : maxByKey key values = some value) : value ∈ values :=
  List.mem_reverse.mp (List.argmax_mem selected)

structure QuestWifiAdbProofOperationBinding where
  operationId : String
  receiptRequestId : String
  receiptEvidenceSha256 : String
  receiptUpdatedAtMs : Int
deriving DecidableEq

/-- The receipt of a target that took effect on the modern TLS route. -/
def effectiveModernTls (receipt : Option QuestWifiAdbOwnerReceipt) : Prop :=
  ∃ applied ∈ receipt, applied.effectApplied = true ∧ applied.routeMode = .modernTls

instance (receipt : Option QuestWifiAdbOwnerReceipt) : Decidable (effectiveModernTls receipt) :=
  inferInstanceAs (Decidable (∃ _ ∈ _, _))

abbrev QuestWifiAdbTarget :=
  OwnerTargetLedger QuestWifiAdbAction Unit Unit QuestWifiAdbOwnerReceipt QuestWifiAdbTermuxEvidence

namespace FleetHub

variable (hub : FleetHub)

def questWifiAdbOperations : List QuestWifiAdbOperation := BTreeMap.storedValues hub.wifiAdbOperations

/-- When the device was last disabled on the modern route, as the binding reads it. -/
def newestDisableMs (deviceId : String) (identityRevision : Nat) : Option Int :=
  ((((hub.questWifiAdbOperations.filter (·.preview.action = .disableWirelessAdb)).flatMap (·.targets)).filter
    fun target => target.deviceId = deviceId ∧ target.identityRevision = identityRevision ∧
      effectiveModernTls target.receipt).map (·.updatedAtMs)).max?

/-- One target a device proof may be bound to. -/
def bindingCandidate (deviceId : String) (identityRevision : Nat) (admittedAtMs : Int)
    (operation : QuestWifiAdbOperation) (target : QuestWifiAdbTarget) :
    Option QuestWifiAdbProofOperationBinding :=
  target.receipt.bind fun receipt =>
    if target.deviceId = deviceId ∧ target.identityRevision = identityRevision ∧
        receipt.effectApplied ∧ receipt.routeMode = .modernTls ∧ target.updatedAtMs < admittedAtMs ∧
        (hub.newestDisableMs deviceId identityRevision).all (· < target.updatedAtMs) then
      some
        { operationId := operation.operationId
          receiptRequestId := receipt.requestId
          receiptEvidenceSha256 := receipt.evidenceSha256
          receiptUpdatedAtMs := target.updatedAtMs }
    else none

def bindingCandidates (deviceId : String) (identityRevision : Nat) (admittedAtMs : Int) :
    List QuestWifiAdbProofOperationBinding :=
  (hub.questWifiAdbOperations.filter (·.preview.action = .requestWirelessAdb)).flatMap fun operation =>
    operation.targets.filterMap (hub.bindingCandidate deviceId identityRevision admittedAtMs operation)

/-- Newest receipt first, then by operation identifier. -/
def bindingBefore (left right : QuestWifiAdbProofOperationBinding) : Bool :=
  right.receiptUpdatedAtMs < left.receiptUpdatedAtMs ||
    (left.receiptUpdatedAtMs == right.receiptUpdatedAtMs && (compare left.operationId right.operationId).isLE)

def bindTermuxProofToExactOwnerReceipt (deviceId : String) (identityRevision : Nat)
    (admittedAtMs : Int) : Option QuestWifiAdbProofOperationBinding :=
  match (hub.bindingCandidates deviceId identityRevision admittedAtMs).mergeSort bindingBefore with
  | [] => none
  | [selected] => some selected
  | selected :: other :: _ =>
    if other.receiptUpdatedAtMs = selected.receiptUpdatedAtMs then none else some selected

end FleetHub

section Capability

variable [CheckInCodec] [ManifoldEnvironment]

/-- The capability claims a current, authorised and reachable loopback shell within the check-in. -/
def CapabilityState.provesLoopbackShell (capability : CapabilityState) (claims : FleetCheckInClaims) : Prop :=
  capability.capabilityId = termuxCapabilityId ∧ capability.owner = termuxProofOwner ∧
    capability.reason = "loopback_tls_shell_uid_2000" ∧ capability.support = .supported ∧
    capability.enablement = .enabled ∧ capability.authorization = .authorized ∧
    capability.reachability = .reachable ∧ capability.freshness = .current ∧
    capability.evidenceRevision ≠ 0 ∧ 0 ≤ capability.observedAtMs ∧
    capability.observedAtMs ≤ claims.issuedAtMs ∧
    capability.observedAtMs ≤ claims.observation.sourceTimeMs ∧
    claims.issuedAtMs < capability.freshUntilMs ∧
    claims.observation.sourceTimeMs < capability.freshUntilMs ∧
    capability.freshUntilMs ≤ claims.expiresAtMs ∧
    i64Min ≤ capability.freshUntilMs - capability.observedAtMs ∧
    capability.freshUntilMs - capability.observedAtMs ≠ 0 ∧
    capability.freshUntilMs - capability.observedAtMs ≤ 60000

instance (capability : CapabilityState) (claims : FleetCheckInClaims) :
    Decidable (capability.provesLoopbackShell claims) :=
  inferInstanceAs (Decidable (_ ∧ _))

def LoopbackAdbCapabilityExtensions.describeLoopbackShell (extensions : LoopbackAdbCapabilityExtensions) :
    Prop :=
  extensions.proofSchema = "rusty.quest.loopback_adb_proof.v1" ∧ extensions.state = "available" ∧
    extensions.routeMode = "modern_tls" ∧ extensions.discoveryMode ∈ ["tls_nsd", "tls_mdns"] ∧
    extensions.listenerDiscovered = true ∧ extensions.shellUid = "2000" ∧
    isLowerSha256 extensions.ownerEvidenceSha256 = true

instance (extensions : LoopbackAdbCapabilityExtensions) : Decidable extensions.describeLoopbackShell :=
  inferInstanceAs (Decidable (_ ∧ _))

def termuxProofId (claimsDigest : String) : String :=
  "termux-proof-" ++ String.ofList (claimsDigest.toList.take 32)

/-- The proof a check-in signs for, if it carries the capability; `none` where the evidence is inconsistent. -/
def signedTermuxProofFromCapability (signed : SignedFleetCheckIn) (proposal : ManifoldPeerStatusProposal) :
    Option (Option QuestWifiAdbTermuxProof) :=
  let observation := signed.claims.observation
  match observation.capabilities.get termuxCapabilityId with
  | none => if termuxCapabilityId ∈ proposal.status.capabilityIds then none else some none
  | some capability =>
    if termuxCapabilityId ∉ proposal.status.capabilityIds ∨ ¬ capability.provesLoopbackShell signed.claims then
      none
    else do
      let extensions ← capabilityExtensions capability.extensions
      guard extensions.describeLoopbackShell
      let signingBytes ← signed.claims.signingBytes
      some (some
        { schema := termuxProofSchema
          proofId := termuxProofId (sha256Hex signingBytes)
          ownerId := termuxProofOwner
          deviceId := observation.identity.deviceId
          identityRevision := observation.identity.identityRevision
          sourceEpoch := observation.sourceEpoch
          sourceRevision := observation.sourceRevision
          evidenceRevision := capability.evidenceRevision
          routeMode := .modernTls
          discoveryMode := extensions.discoveryMode
          listenerDiscovered := true
          shellIdentity := some termuxAdbShellIdentity
          available := true
          evidenceSha256 := extensions.ownerEvidenceSha256
          observedAtMs := capability.observedAtMs
          freshUntilMs := capability.freshUntilMs })

end Capability

/-- The checks of a signed proof against its check-in and the proofs already admitted. -/
def validSignedTermuxProof (signed : SignedFleetCheckIn) (proof : QuestWifiAdbTermuxProof) (nowMs : Int)
    (existing : BTreeMap String AdmittedQuestWifiAdbTermuxProof) : Prop :=
  let observation := signed.claims.observation
  proof.schema = termuxProofSchema ∧ Valid proof ∧ proof.deviceId = observation.identity.deviceId ∧
    proof.identityRevision = observation.identity.identityRevision ∧
    proof.sourceEpoch = observation.sourceEpoch ∧ proof.observedAtMs ≤ signed.claims.issuedAtMs ∧
    proof.observedAtMs ≤ observation.sourceTimeMs ∧ signed.claims.issuedAtMs < proof.freshUntilMs ∧
    observation.sourceTimeMs < proof.freshUntilMs ∧ proof.freshUntilMs ≤ signed.claims.expiresAtMs ∧
    proof.observedAtMs ≤ nowMs ∧ existing[proof.proofId]? = none ∧
    proof.sourceRevision = observation.sourceRevision ∧
    ∀ candidate ∈ BTreeMap.storedValues existing,
      ¬ (candidate.proof.deviceId = proof.deviceId ∧ candidate.proof.sourceEpoch = proof.sourceEpoch ∧
        proof.sourceRevision ≤ candidate.proof.sourceRevision)

instance (signed : SignedFleetCheckIn) (proof : QuestWifiAdbTermuxProof) (nowMs : Int)
    (existing : BTreeMap String AdmittedQuestWifiAdbTermuxProof) :
    Decidable (validSignedTermuxProof signed proof nowMs existing) :=
  inferInstanceAs (Decidable (_ ∧ _))

def HubFault.text : HubFault → String
  | .hubError error => error.code ++ ": " ++ error.message
  | .panicked text => text

/-- `map_err` of a Hub error into its text. -/
def hubText {α : Type} (result : HubResult α) : Except String α :=
  result.mapError HubFault.text

namespace FleetManifoldAdapter

variable (adapter : FleetManifoldAdapter) (hub : FleetHub)

/-- The admission binds the target's receipt as the ledger holds it now. -/
def admissionBindsReceipt (operationId : String) (target : QuestWifiAdbTarget)
    (admission : AdmittedQuestWifiAdbTermuxAdmission) : Prop :=
  admission.boundOperationId = operationId ∧
    ∃ receipt ∈ target.receipt, admission.boundReceiptRequestId = receipt.requestId ∧
      admission.boundReceiptEvidenceSha256 = receipt.evidenceSha256 ∧
      admission.boundReceiptUpdatedAtMs = target.updatedAtMs

instance (operationId : String) (target : QuestWifiAdbTarget)
    (admission : AdmittedQuestWifiAdbTermuxAdmission) :
    Decidable (admissionBindsReceipt operationId target admission) :=
  inferInstanceAs (Decidable (_ ∧ _))

/-- The filter of `quest_wifi_adb_operation`: the proof is this target's and the device has not moved on. -/
def projectsProof (operationId : String) (target : QuestWifiAdbTarget) (currentEpoch : String)
    (admitted : AdmittedQuestWifiAdbTermuxProof) : Prop :=
  admitted.proof.deviceId = target.deviceId ∧ admitted.proof.identityRevision = target.identityRevision ∧
    (∃ admission ∈ admitted.admission, admission.consumptionState = .boundToExactOwnerReceipt ∧
      admissionBindsReceipt operationId target admission) ∧
    admitted.proof.sourceEpoch = currentEpoch ∧
    ∃ lineage ∈ hub.deviceSourceLineage target.deviceId,
      admitted.proof.sourceRevision = lineage.2.1 ∧ admitted.proof.identityRevision = lineage.2.2

instance (operationId : String) (target : QuestWifiAdbTarget) (currentEpoch : String)
    (admitted : AdmittedQuestWifiAdbTermuxProof) :
    Decidable (projectsProof hub operationId target currentEpoch admitted) :=
  inferInstanceAs (Decidable (_ ∧ _))

def receiptMatches (operationId : String) (target : QuestWifiAdbTarget)
    (admitted : AdmittedQuestWifiAdbTermuxProof) : Prop :=
  effectiveModernTls target.receipt ∧
    (∃ admission ∈ admitted.admission, admissionBindsReceipt operationId target admission) ∧
    target.updatedAtMs < admitted.acceptedAtMs

instance (operationId : String) (target : QuestWifiAdbTarget)
    (admitted : AdmittedQuestWifiAdbTermuxProof) :
    Decidable (receiptMatches operationId target admitted) :=
  inferInstanceAs (Decidable (_ ∧ _))

/-- Some effective disable of the device was applied no earlier than the proof was admitted. -/
def disabledAfterProof (deviceId : String) (acceptedAtMs : Int) : Prop :=
  ∃ candidate ∈ hub.questWifiAdbOperations, candidate.preview.action = .disableWirelessAdb ∧
    ∃ target ∈ candidate.targets, target.deviceId = deviceId ∧
      ∃ receipt ∈ target.receipt, receipt.effectApplied = true ∧ acceptedAtMs ≤ target.updatedAtMs

instance (deviceId : String) (acceptedAtMs : Int) : Decidable (disabledAfterProof hub deviceId acceptedAtMs) :=
  inferInstanceAs (Decidable (∃ _ ∈ _, _))

variable [Sha256Hex]

def projectedAdmission (target : QuestWifiAdbTarget) (admitted : AdmittedQuestWifiAdbTermuxProof)
    (base : AdmittedQuestWifiAdbTermuxAdmission) : QuestWifiAdbTermuxAdmission :=
  let admission : QuestWifiAdbTermuxAdmission :=
    { schema := termuxAdmissionSchema
      checkinId := admitted.checkinId
      operationId := base.boundOperationId
      deviceId := target.deviceId
      identityRevision := target.identityRevision
      sourceEpoch := admitted.proof.sourceEpoch
      sourceRevision := admitted.proof.sourceRevision
      evidenceRevision := admitted.proof.evidenceRevision
      proofId := admitted.proof.proofId
      receiptRequestId := base.boundReceiptRequestId
      receiptEvidenceSha256 := base.boundReceiptEvidenceSha256
      keyId := base.keyId
      keyGeneration := base.keyGeneration
      publicKeySha256 := base.publicKeySha256
      claimsJcsSha256 := base.claimsJcsSha256
      signingMessageSha256 := base.signingMessageSha256
      signatureSha256 := base.signatureSha256
      fleetAcceptedRevision := base.fleetAcceptedRevision
      enrollmentAuthorityRevision := base.enrollmentAuthorityRevision
      manifoldAuthorityRevision := base.manifoldAuthorityRevision
      signatureVerified := true
      canonicalClaimsVerified := true
      enrollmentActive := true
      acceptedAtMs := admitted.acceptedAtMs
      expiresAtMs := admitted.checkinExpiresAtMs
      lineageSha256 := "" }
  { admission with lineageSha256 := admission.expectedLineageSha256 }

/-- The admission a target shows: its proof's if the target has a receipt, else what the ledger holds. -/
def shownAdmission (target : QuestWifiAdbTarget) (admitted : AdmittedQuestWifiAdbTermuxProof) :
    Option QuestWifiAdbTermuxAdmission :=
  match admitted.admission, target.receipt with
  | some base, some _ => some (projectedAdmission target admitted base)
  | _, _ => target.evidence.termuxAdmission

/-- One target of the projection under its selected proof. -/
def projectedTarget (operation : QuestWifiAdbOperation) (nowMs : Int) (target : QuestWifiAdbTarget)
    (admitted : AdmittedQuestWifiAdbTermuxProof) : QuestWifiAdbTarget :=
  let termuxAdmission := shownAdmission target admitted
  { target with
    evidence :=
      { termuxProof := some admitted.proof
        termuxAdmission := termuxAdmission
        termuxUsable := admitted.proof.available && termuxAdmission.isSome &&
          decide (nowMs < admitted.proof.freshUntilMs) &&
          decide (receiptMatches operation.operationId target admitted) &&
          decide (operation.preview.action ≠ .disableWirelessAdb) &&
          !decide (disabledAfterProof hub target.deviceId admitted.acceptedAtMs) }
    updatedAtMs := max target.updatedAtMs admitted.acceptedAtMs }

/-- The proof a target is projected with. -/
def selectedProof (operationId : String) (target : QuestWifiAdbTarget) (currentEpoch : String) :
    Option AdmittedQuestWifiAdbTermuxProof :=
  maxByKey (fun admitted => toLex (admitted.proof.sourceRevision, admitted.proof.observedAtMs))
    ((BTreeMap.storedValues adapter.termuxProofs).filter (projectsProof hub operationId target currentEpoch))

/-- The loop over the targets: the projected ones so far and the operation's own time. -/
def projectTargets (operation : QuestWifiAdbOperation) (nowMs : Int) :
    List QuestWifiAdbTarget → Int → Except String (List QuestWifiAdbTarget × Int)
  | [], updatedAtMs => .ok ([], updatedAtMs)
  | target :: rest, updatedAtMs => do
    let current ← hubText (hub.inspect target.deviceId nowMs)
    match selectedProof adapter hub operation.operationId target current.row.sourceEpoch with
    | none =>
      let (targets, last) ← projectTargets operation nowMs rest updatedAtMs
      return (target :: targets, last)
    | some admitted =>
      let (targets, last) ← projectTargets operation nowMs rest (max updatedAtMs admitted.acceptedAtMs)
      return (projectedTarget hub operation nowMs target admitted :: targets, last)

def questWifiAdbOperation (operationId : String) (nowMs : Int) : Except String QuestWifiAdbOperation := do
  let operation ← hubText (questWifiAdbHub.operation hub.wifiAdbOperations operationId)
  let (targets, updatedAtMs) ←
    projectTargets adapter hub operation nowMs operation.targets operation.updatedAtMs
  let projected : QuestWifiAdbOperation := { operation with targets := targets, updatedAtMs := updatedAtMs }
  match validate projected with
  | .ok _ => return projected
  | .error failures =>
    .error ("admitted Termux proof projection is invalid: " ++
      "; ".intercalate (failures.map fun failure => failure.path ++ ":" ++ failure.code))

/-- Every operation of the Hub, each projected as its own lookup projects it. -/
def questWifiAdbOperations (nowMs : Int) : Except String (List QuestWifiAdbOperation) :=
  hub.questWifiAdbOperations.mapM fun operation => adapter.questWifiAdbOperation hub operation.operationId nowMs

end FleetManifoldAdapter

end RustyFleet

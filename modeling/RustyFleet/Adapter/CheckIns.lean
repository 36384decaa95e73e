import RustyFleet.Adapter.TermuxProofs

namespace RustyFleet

open ManifoldEnvironment

def checkInReceiptSchema := "rusty.fleet.checkin_receipt.v1"

def rejectedCheckIn (checkinId : String) (reason : CheckInRejectionReason) : CheckInReceipt where
  schema := checkInReceiptSchema
  checkinId := checkinId
  accepted := false
  rejectionReason := some reason
  manifoldDecision := none
  manifoldApplication := none
  fleetDecision := none

/-- `u64::try_from` of a signed time. -/
def unsigned (value : Int) : Option Nat := if value < 0 then none else some value.toNat

def stripPrefix (start value : String) : Option String :=
  if start.toList.isPrefixOf value.toList then some (String.ofList (value.toList.drop start.length))
  else none

abbrev Admission := Except CheckInRejectionReason

abbrev rejectUnless (holds : Prop) [Decidable holds] (reason : CheckInRejectionReason) : Admission Unit :=
  errorIf (¬ holds) reason

/-- What a check-in has shown before either authority sees it. -/
structure AuthenticatedCheckIn where
  proposal : ManifoldPeerStatusProposal
  credential : ManifoldPeerCredential
  termuxProof : Option QuestWifiAdbTermuxProof
  publicKeySha256 : String
  canonicalClaims : Bytes
  signingMessage : Bytes
  signatureBytes : Bytes
  trustedKeyFingerprint : String
  caseId : String
  nowUnsigned : Nat

namespace FleetManifoldAdapter

variable (adapter : FleetManifoldAdapter)

def pruneSeenCheckins (nowMs : Int) : FleetManifoldAdapter :=
  { adapter with seenCheckins := adapter.seenCheckins.filter fun _ expiresAtMs => decide (nowMs < expiresAtMs) }

section Authentication

variable [CheckInCodec] [ManifoldEnvironment]

def verifySignature (publicKeyHex : String) (signed : SignedFleetCheckIn) : Bool :=
  match hexDecode publicKeyHex, hexDecode signed.signatureHex, signed.claims.signingBytes with
  | some publicKey, some signature, some message =>
    publicKey.length == 32 && verifyStrict publicKey message signature
  | _, _, _ => false

def authenticate (signed : SignedFleetCheckIn) (nowMs : Int) : Admission AuthenticatedCheckIn := do
  let claims := signed.claims
  let proposal ← orError (proposalFromValue claims.manifoldPeerStatusProposal) .contractInvalid
  rejectUnless (proposal.identity.peerId = claims.observation.identity.deviceId ∧
    proposal.status.peerId = proposal.identity.peerId) .identityMismatch
  let sourceTimeMs ← orError (unsigned claims.observation.sourceTimeMs) .authorityEvidenceMismatch
  let expiresAtMs ← orError (unsigned claims.expiresAtMs) .authorityEvidenceMismatch
  rejectUnless (proposal.status.observedAtMs = sourceTimeMs ∧ proposal.status.expiresAtMs = expiresAtMs)
    .authorityEvidenceMismatch
  let credential ← orError
    (adapter.enrollment.credentials.find? fun candidate =>
      candidate.keyId == signed.keyId && candidate.peerId == proposal.identity.peerId &&
        candidate.status == .active) .unknownOrInactiveKey
  let nowUnsigned ← orError (unsigned nowMs) .staleOrFuture
  rejectUnless (credential.validFromMs ≤ nowUnsigned ∧ nowUnsigned < credential.expiresAtMs)
    .keyOutsideValidity
  rejectUnless (verifySignature credential.publicKeyHex signed = true) .signatureInvalid
  let termuxProof ← orError (signedTermuxProofFromCapability signed proposal) .authorityEvidenceMismatch
  let publicKeySha256 ← orError (stripPrefix "sha256:" credential.publicKeySha256) .contractInvalid
  let canonicalClaims ← orError (CheckInCodec.canonicalClaims claims) .contractInvalid
  let signingMessage ← orError claims.signingBytes .contractInvalid
  let signatureBytes ← orError (hexDecode signed.signatureHex) .contractInvalid
  let trustedKeyFingerprint := "fingerprint." ++ publicKeySha256
  rejectUnless (isDottedId trustedKeyFingerprint = true) .contractInvalid
  let caseId := "case." ++ claims.checkinId
  rejectUnless (isDottedId caseId = true) .contractInvalid
  return {
    proposal := proposal
    credential := credential
    termuxProof := termuxProof
    publicKeySha256 := publicKeySha256
    canonicalClaims := canonicalClaims
    signingMessage := signingMessage
    signatureBytes := signatureBytes
    trustedKeyFingerprint := trustedKeyFingerprint
    caseId := caseId
    nowUnsigned := nowUnsigned }

end Authentication

/-- The freshness condition the ingress adds to what the device signed. -/
def ingressCondition (hub : FleetHub) (signed : SignedFleetCheckIn) (nowMs : Int) : StatusCondition where
  family := .freshness
  state := .current
  reason := "local_authenticated_checkin"
  message := "The local Hub admitted a current signed device check-in."
  sourceTimeMs := signed.claims.observation.sourceTimeMs
  receivedTimeMs := nowMs
  acceptedRevision := saturatingSucc hub.resultRevision
  freshUntilMs := signed.claims.expiresAtMs
  source :=
    { owner := "rusty-manifold"
      adapterId := "fleet.local-ingress"
      authorityRevision := saturatingSucc adapter.acceptedPeers.authorityRevision }
  sensitivity := .operator
  extensions := ∅

def acceptedObservation (hub : FleetHub) (signed : SignedFleetCheckIn) (nowMs : Int) : DeviceObservation :=
  { signed.claims.observation with
    receivedTimeMs := nowMs
    conditions := signed.claims.observation.conditions ++ [adapter.ingressCondition hub signed nowMs] }

/-- The proofs whose check-in and own lifetime have not ended. -/
def unexpiredTermuxProofs (nowMs : Int) : BTreeMap String AdmittedQuestWifiAdbTermuxProof :=
  adapter.termuxProofs.filter fun _ admitted =>
    decide (nowMs < admitted.checkinExpiresAtMs) && decide (nowMs < admitted.proof.freshUntilMs)

def withoutDevice (proofs : BTreeMap String AdmittedQuestWifiAdbTermuxProof) (deviceId : String) :
    BTreeMap String AdmittedQuestWifiAdbTermuxProof :=
  proofs.filter fun _ admitted => decide (admitted.proof.deviceId ≠ deviceId)

def admittedProof [ManifoldEnvironment] (signed : SignedFleetCheckIn) (checkIn : AuthenticatedCheckIn)
    (nowMs : Int) (fleetAcceptedRevision : Nat) (binding : QuestWifiAdbProofOperationBinding)
    (proof : QuestWifiAdbTermuxProof) : AdmittedQuestWifiAdbTermuxProof where
  proof := proof
  checkinId := signed.claims.checkinId
  checkinExpiresAtMs := signed.claims.expiresAtMs
  acceptedAtMs := nowMs
  admission := some
    { keyId := checkIn.credential.keyId
      keyGeneration := checkIn.credential.keyGeneration
      publicKeySha256 := checkIn.publicKeySha256
      claimsJcsSha256 := sha256Hex checkIn.canonicalClaims
      signingMessageSha256 := sha256Hex checkIn.signingMessage
      signatureSha256 := sha256Hex checkIn.signatureBytes
      fleetAcceptedRevision := fleetAcceptedRevision
      enrollmentAuthorityRevision := adapter.enrollment.authorityRevision
      manifoldAuthorityRevision := saturatingSucc adapter.acceptedPeers.authorityRevision
      boundOperationId := binding.operationId
      boundReceiptRequestId := binding.receiptRequestId
      boundReceiptEvidenceSha256 := binding.receiptEvidenceSha256
      boundReceiptUpdatedAtMs := binding.receiptUpdatedAtMs
      consumptionState := .boundToExactOwnerReceipt }

/-- The proofs after the check-in: its own replaces, and its absence removes, the device's earlier ones. -/
def admitTermuxProof [ManifoldEnvironment] (hub : FleetHub) (signed : SignedFleetCheckIn)
    (checkIn : AuthenticatedCheckIn) (nowMs : Int) (fleetAcceptedRevision : Nat) :
    Admission (BTreeMap String AdmittedQuestWifiAdbTermuxProof) :=
  let proofs := adapter.unexpiredTermuxProofs nowMs
  match checkIn.termuxProof with
  | none => .ok (withoutDevice proofs signed.claims.observation.identity.deviceId)
  | some proof => do
    rejectUnless (validSignedTermuxProof signed proof nowMs proofs) .authorityEvidenceMismatch
    let binding ← orError
      (hub.bindTermuxProofToExactOwnerReceipt proof.deviceId proof.identityRevision nowMs)
      .authorityEvidenceMismatch
    let others := withoutDevice proofs proof.deviceId
    rejectUnless (others.size < maxSeenCheckins) .evidenceLimitExceeded
    return others.insert proof.proofId
      (adapter.admittedProof signed checkIn nowMs fleetAcceptedRevision binding proof)

/-- The peer review the adapter asks for, under its own optimistic lock. -/
def reviewCase (checkIn : AuthenticatedCheckIn) : ManifoldPeerReviewCase where
  schemaId := "rusty.manifold.peer.review_case.v1"
  caseId := checkIn.caseId
  currentState := adapter.acceptedPeers
  proposal :=
    { checkIn.proposal with expectedAuthorityRevision := adapter.acceptedPeers.authorityRevision }
  trustedKeyFingerprints := [checkIn.trustedKeyFingerprint]
  nowMs := checkIn.nowUnsigned
  expectedOutcome := .accepted

def boundedPeers (state : ManifoldAcceptedPeerState) : ManifoldAcceptedPeerState :=
  { state with appliedProposalIds := newest maxSeenCheckins state.appliedProposalIds }

theorem withProposalIds_revision (state : ManifoldAcceptedPeerState) (proposalIds : List String) :
    ({ state with appliedProposalIds := proposalIds } : ManifoldAcceptedPeerState).authorityRevision =
      state.authorityRevision := rfl

@[simp] theorem boundedPeers_revision (state : ManifoldAcceptedPeerState) :
    (boundedPeers state).authorityRevision = state.authorityRevision :=
  withProposalIds_revision state _

theorem withProposalIds_peers (state : ManifoldAcceptedPeerState) (proposalIds : List String) :
    ({ state with appliedProposalIds := proposalIds } : ManifoldAcceptedPeerState).peers = state.peers := rfl

@[simp] theorem boundedPeers_peers (state : ManifoldAcceptedPeerState) :
    (boundedPeers state).peers = state.peers :=
  withProposalIds_peers state _

theorem boundedPeers_bounded (state : ManifoldAcceptedPeerState) :
    (boundedPeers state).appliedProposalIds.length ≤ maxSeenCheckins := by
  simp only [boundedPeers, newest_length]
  exact Nat.min_le_left _ _

theorem boundedPeers_nodup {state : ManifoldAcceptedPeerState} (distinct : state.appliedProposalIds.Nodup) :
    (boundedPeers state).appliedProposalIds.Nodup := by
  have fewer := newest_sublist maxSeenCheckins state.appliedProposalIds
  simp only [boundedPeers]
  exact fewer.nodup distinct

def commitCheckIn (signed : SignedFleetCheckIn) (state : ManifoldAcceptedPeerState)
    (termuxProofs : BTreeMap String AdmittedQuestWifiAdbTermuxProof) : FleetManifoldAdapter :=
  { adapter with
    acceptedPeers := boundedPeers state
    termuxProofs := termuxProofs
    seenCheckins := adapter.seenCheckins.insert signed.claims.checkinId signed.claims.expiresAtMs }

/-- How a check-in that reached both authorities ends. -/
inductive CheckInDecision
  | refused (receipt : CheckInReceipt)
  | committed (receipt : CheckInReceipt) (hub : FleetHub) (adapter : FleetManifoldAdapter)

def refuseWith (signed : SignedFleetCheckIn) (reason : CheckInRejectionReason) : CheckInDecision :=
  .refused (rejectedCheckIn signed.claims.checkinId reason)

/-- The Manifold half: review the proposal and commit both authorities, or neither. -/
def reviewPeer [ManifoldEnvironment] (candidateHub : FleetHub) (signed : SignedFleetCheckIn)
    (checkIn : AuthenticatedCheckIn) (fleetDecision : ObservationDecision)
    (termuxProofs : BTreeMap String AdmittedQuestWifiAdbTermuxProof) : CheckInDecision :=
  let (decision, application) := reviewAndApplyPeerProposal (adapter.reviewCase checkIn)
  if application.applied = false then
    .refused
      { schema := checkInReceiptSchema
        checkinId := signed.claims.checkinId
        accepted := false
        rejectionReason := some .manifoldRejected
        manifoldDecision := some decision
        manifoldApplication := some application
        fleetDecision := none }
  else
    match decision.acceptedState with
    | none => refuseWith signed .manifoldRejected
    | some state =>
      if state.authorityRevision ≠ saturatingSucc adapter.acceptedPeers.authorityRevision then
        refuseWith signed .authorityEvidenceMismatch
      else
        .committed
          { schema := checkInReceiptSchema
            checkinId := signed.claims.checkinId
            accepted := true
            rejectionReason := none
            manifoldDecision := some decision
            manifoldApplication := some application
            fleetDecision := some fleetDecision }
          candidateHub (adapter.commitCheckIn signed state termuxProofs)

variable [FleetEnvironment]

/-- The Fleet half: preview the observation on a clone of the Hub, then ask the peer authority. -/
def previewFleet (hub : FleetHub) (signed : SignedFleetCheckIn) (nowMs : Int)
    (checkIn : AuthenticatedCheckIn) : HubResult CheckInDecision :=
  match hub.acceptObservation (adapter.acceptedObservation hub signed nowMs) nowMs with
  | (.error fault, _) => .error fault
  | (.ok (.accepted resultRevision deviceId sourceRevision), candidateHub) =>
    match adapter.admitTermuxProof candidateHub signed checkIn nowMs resultRevision with
    | .error reason => .ok (refuseWith signed reason)
    | .ok termuxProofs =>
      .ok (adapter.reviewPeer candidateHub signed checkIn
        (.accepted resultRevision deviceId sourceRevision) termuxProofs)
  | (.ok fleetDecision, _) =>
    .ok (.refused
      { schema := checkInReceiptSchema
        checkinId := signed.claims.checkinId
        accepted := false
        rejectionReason := some .fleetRejected
        manifoldDecision := none
        manifoldApplication := none
        fleetDecision := some fleetDecision })

/-- Everything after the replay table was pruned. -/
def decideCheckIn (hub : FleetHub) (signed : SignedFleetCheckIn) (nowMs : Int) :
    HubResult CheckInDecision :=
  if adapter.seenCheckins.contains signed.claims.checkinId then .ok (refuseWith signed .replay)
  else if maxSeenCheckins ≤ adapter.seenCheckins.size then .ok (refuseWith signed .evidenceLimitExceeded)
  else
    match adapter.authenticate signed nowMs with
    | .error reason => .ok (refuseWith signed reason)
    | .ok checkIn => adapter.previewFleet hub signed nowMs checkIn

def accept (hub : FleetHub) (signed : SignedFleetCheckIn) (nowMs : Int) :
    HubResult CheckInReceipt × FleetHub × FleetManifoldAdapter :=
  if isInvalid signed then (.ok (rejectedCheckIn signed.claims.checkinId .contractInvalid), hub, adapter)
  else if nowMs < signed.claims.issuedAtMs ∨ signed.claims.expiresAtMs ≤ nowMs then
    (.ok (rejectedCheckIn signed.claims.checkinId .staleOrFuture), hub, adapter)
  else
    let pruned := adapter.pruneSeenCheckins nowMs
    match pruned.decideCheckIn hub signed nowMs with
    | .error fault => (.error fault, hub, pruned)
    | .ok (.refused receipt) => (.ok receipt, hub, pruned)
    | .ok (.committed receipt candidateHub committed) => (.ok receipt, candidateHub, committed)

end FleetManifoldAdapter

end RustyFleet

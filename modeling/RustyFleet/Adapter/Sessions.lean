import RustyFleet.Adapter.CheckIns
import RustyFleet.Contracts.Text

namespace RustyFleet

open ManifoldEnvironment

section Host

variable [ManifoldEnvironment]

/-- The fields a legacy host snapshot schema did not have; `none` for an unknown schema. -/
def removedHostFields (schemaId : String) : Option (List String) :=
  if schemaId = legacyHostSnapshotV1Schema then
    some ["reviewed_sweep_ids", "reviewed_control_lease_adoption_ids",
      "reviewed_derivative_lease_revocation_ids"]
  else if schemaId = legacyHostSnapshotV2Schema then
    some ["reviewed_control_lease_adoption_ids", "reviewed_derivative_lease_revocation_ids"]
  else if schemaId = legacyHostSnapshotV3Schema then some ["reviewed_derivative_lease_revocation_ids"]
  else none

def restartRuntimeHost (snapshot : ManifoldRuntimeHostSnapshot) :
    Except String ManifoldRuntimeHostSnapshot :=
  if snapshot.schemaId = hostSnapshotSchema then
    (hostFromSnapshot snapshot).mapError ("Fleet runtime authority snapshot is invalid: " ++ ·)
  else
    match removedHostFields snapshot.schemaId with
    | none =>
      .error ("Fleet runtime authority snapshot schema is not supported: " ++ snapshot.schemaId)
    | some removed => do
      let (host, migration) ← (hostFromLegacyJson snapshot removed).mapError
        ("Fleet runtime authority snapshot migration failed: " ++ ·)
      errorIf (migration.migrated = false ∨ migration.sourceSchemaId ≠ snapshot.schemaId ∨
          migration.resultingSchemaId ≠ hostSnapshotSchema)
        "Fleet runtime authority snapshot migration evidence is invalid"
      return host

end Host

/-- A stored admission with every field it must carry. -/
def admissionWellFormed (admission : AdmittedQuestWifiAdbTermuxAdmission) : Prop :=
  admission.keyId ≠ "" ∧ admission.keyGeneration ≠ 0 ∧ isLowerSha256 admission.publicKeySha256 = true ∧
    isLowerSha256 admission.claimsJcsSha256 = true ∧ isLowerSha256 admission.signingMessageSha256 = true ∧
    isLowerSha256 admission.signatureSha256 = true ∧ admission.fleetAcceptedRevision ≠ 0 ∧
    admission.enrollmentAuthorityRevision ≠ 0 ∧ admission.manifoldAuthorityRevision ≠ 0 ∧
    admission.boundOperationId ≠ "" ∧ admission.boundReceiptRequestId ≠ "" ∧
    isLowerSha256 admission.boundReceiptEvidenceSha256 = true ∧ 0 ≤ admission.boundReceiptUpdatedAtMs ∧
    admission.consumptionState = .boundToExactOwnerReceipt

instance (admission : AdmittedQuestWifiAdbTermuxAdmission) : Decidable (admissionWellFormed admission) :=
  inferInstanceAs (Decidable (_ ∧ _))

def storedProofWellFormed (proofId : String) (admitted : AdmittedQuestWifiAdbTermuxProof) : Prop :=
  proofId = admitted.proof.proofId ∧ Valid admitted.proof ∧ admitted.checkinId ≠ "" ∧
    admitted.proof.observedAtMs < admitted.checkinExpiresAtMs ∧ 0 ≤ admitted.acceptedAtMs ∧
    ∃ admission ∈ admitted.admission, admissionWellFormed admission

instance (proofId : String) (admitted : AdmittedQuestWifiAdbTermuxProof) :
    Decidable (storedProofWellFormed proofId admitted) :=
  inferInstanceAs (Decidable (_ ∧ _))

/-- A credential that still speaks for an accepted peer under the peer's own key. -/
def credentialMatches (peer : ManifoldAcceptedPeer) (credential : ManifoldPeerCredential) : Bool :=
  credential.peerId == peer.identity.peerId && credential.status == .active &&
    (stripPrefix "sha256:" credential.publicKeySha256).map ("fingerprint." ++ ·) ==
      some peer.identity.keyFingerprint

/-- The first accepted peer without a current credential is refused. -/
def requireEnrolledPeers (credentials : List ManifoldPeerCredential) :
    List ManifoldAcceptedPeer → Except String Unit
  | [] => .ok ()
  | peer :: rest => do
    errorIf (¬ credentials.any (credentialMatches peer))
      ("accepted peer " ++ peer.identity.peerId ++ " is not bound to a current active enrollment")
    requireEnrolledPeers credentials rest

namespace FleetManifoldAdapter

variable [ManifoldEnvironment] (adapter : FleetManifoldAdapter)

/-- The host a session continues with: the snapshot's, restarted, or the adapter's own for a first version. -/
def restoredRuntimeHost (stored : Option ManifoldRuntimeHostSnapshot) :
    Except String ManifoldRuntimeHostSnapshot :=
  match stored with
  | none => .ok adapter.runtimeHost
  | some runtime => do
    errorIf (runtime.authorityRevision = u64Max)
      "Fleet runtime authority cannot recover at the terminal revision"
    restartRuntimeHost
      (if windowsHotspotActionId ∈ runtime.commandIds then runtime
        else { runtime with commandIds := runtime.commandIds ++ [windowsHotspotActionId] })

/-- The proofs a restored session keeps: unexpired ones with an admission. -/
def restorableProofs (proofs : BTreeMap String AdmittedQuestWifiAdbTermuxProof) (nowMs : Int) :
    BTreeMap String AdmittedQuestWifiAdbTermuxProof :=
  proofs.filter fun _ admitted =>
    decide (nowMs < admitted.checkinExpiresAtMs) && decide (nowMs < admitted.proof.freshUntilMs) &&
      admitted.admission.isSome

def restoreSession (snapshot : FleetManifoldAdapterSnapshot) (nowMs : Int) :
    Except String FleetManifoldAdapter := do
  errorIf (snapshot.schema ∉ [fleetManifoldSnapshotV1Schema, fleetManifoldSnapshotV2Schema,
      fleetManifoldSnapshotV3Schema, fleetManifoldSnapshotV4Schema, fleetManifoldSnapshotSchema])
    "Fleet Manifold adapter snapshot schema is not supported"
  errorIf (snapshot.schema ≠ fleetManifoldSnapshotV1Schema ∧ snapshot.runtimeHost = none)
    "Fleet Manifold adapter v2 snapshot omitted runtime authority"
  let termuxProofs := restorableProofs snapshot.termuxProofs nowMs
  errorIf (snapshot.seenCheckins.size > maxSeenCheckins ∨
      snapshot.acceptedPeers.appliedProposalIds.length > maxSeenCheckins ∨
      termuxProofs.size > maxSeenCheckins)
    "Fleet Manifold adapter snapshot exceeds evidence limits"
  errorIf (BTreeMap.anyEntry termuxProofs fun proofId admitted =>
      !decide (storedProofWellFormed proofId admitted))
    "Fleet Manifold adapter snapshot contains invalid Termux proofs"
  errorIf (¬ (snapshot.acceptedPeers.peers.map (·.identity.peerId)).Nodup ∨
      ¬ snapshot.acceptedPeers.appliedProposalIds.Nodup)
    "Fleet Manifold adapter snapshot contains duplicate authority evidence"
  requireEnrolledPeers adapter.enrollment.credentials snapshot.acceptedPeers.peers
  let runtimeHost ← adapter.restoredRuntimeHost snapshot.runtimeHost
  return { adapter with
    acceptedPeers := snapshot.acceptedPeers
    seenCheckins := snapshot.seenCheckins.filter fun _ expiresAtMs => decide (nowMs < expiresAtMs)
    runtimeHost := runtimeHost
    termuxProofs := termuxProofs }

/-- The adapter after a snapshot was restored into it; a refused snapshot leaves it as it was. -/
def sessionRestored (snapshot : FleetManifoldAdapterSnapshot) (nowMs : Int) :
    Except String Unit × FleetManifoldAdapter :=
  match adapter.restoreSession snapshot nowMs with
  | .error text => (.error text, adapter)
  | .ok restored => (.ok (), restored)

/-- Only the parts a snapshot lists, restarted or pruned, come back. -/
theorem restoreSession_ok {snapshot : FleetManifoldAdapterSnapshot} {nowMs : Int}
    {restored : FleetManifoldAdapter} (ok : adapter.restoreSession snapshot nowMs = .ok restored) :
    restored.enrollment = adapter.enrollment ∧ restored.acceptedPeers = snapshot.acceptedPeers ∧
      restored.seenCheckins =
        snapshot.seenCheckins.filter (fun _ expiresAtMs => decide (nowMs < expiresAtMs)) ∧
      restored.termuxProofs = restorableProofs snapshot.termuxProofs nowMs ∧
      ∀ proofId admitted, restored.termuxProofs[proofId]? = some admitted →
        storedProofWellFormed proofId admitted := by
  simp only [restoreSession, exceptBind_ok, errorIf_ok, exists_const, pure, Except.pure,
    Except.ok.injEq] at ok
  obtain ⟨_, _, _, wellFormed, _, _, _, _, host, _, rfl⟩ := ok
  refine ⟨rfl, rfl, rfl, rfl, fun proofId admitted stored => ?_⟩
  have clear := (BTreeMap.anyEntry_false_iff _ _).mp (Bool.eq_false_iff.mpr wellFormed) proofId admitted stored
  simpa using clear

end FleetManifoldAdapter

/-- The calls a Hub and its adapter take together; a session restore names the snapshot it reads. -/
inductive FleetCall
  | checkIn (signed : SignedFleetCheckIn) (nowMs : Int)
  | hub (call : HubCall)
  | enroll (request : JsonValue) (nowMs : Nat)
  | restoreSession (snapshot : FleetManifoldAdapterSnapshot) (nowMs : Int)

inductive FleetAnswer
  | checkedIn (result : HubResult CheckInReceipt)
  | hub (answer : HubAnswer)
  | enrolled (receipt : JsonValue)
  | sessionRestored (result : Except String Unit)

/-- A Hub and the Manifold adapter in front of it. -/
structure Fleet where
  hub : FleetHub
  adapter : FleetManifoldAdapter

namespace Fleet

variable [FleetEnvironment] (fleet : Fleet)

def handle : FleetCall → Fleet × FleetAnswer
  | .checkIn signed nowMs =>
    let (result, hub, adapter) := fleet.adapter.accept fleet.hub signed nowMs
    (⟨hub, adapter⟩, .checkedIn result)
  | .hub call =>
    let (hub, answer) := fleet.hub.handle call
    (⟨hub, fleet.adapter⟩, .hub answer)
  | .enroll request nowMs =>
    let (receipt, adapter) := fleet.adapter.applyEnrollment request nowMs
    (⟨fleet.hub, adapter⟩, .enrolled receipt)
  | .restoreSession snapshot nowMs =>
    let (result, adapter) := fleet.adapter.sessionRestored snapshot nowMs
    (⟨fleet.hub, adapter⟩, .sessionRestored result)

end Fleet

def fleetMachine [FleetEnvironment] : Machine Fleet FleetCall FleetAnswer where
  step fleet call := fleet.handle call

end RustyFleet

import RustyFleet.Adapter.Authorization
import RustyFleet.Safety.OwnerDiscipline
import RustyFleet.Safety.ProofBinding

namespace RustyFleet.Sessions

open ManifoldEnvironment AuthorityEnvironment FleetManifoldAdapter

structure CredentialSound (credential : ManifoldPeerCredential) : Prop where
  generation : credential.keyGeneration ≠ 0
  digest : ∀ digest, stripPrefix "sha256:" credential.publicKeySha256 = some digest → isLowerSha256 digest = true

structure EnrollmentSound (enrollment : ManifoldPeerEnrollmentState) : Prop where
  revision : enrollment.authorityRevision ≠ 0
  credentials : ∀ credential ∈ enrollment.credentials, CredentialSound credential

structure PeersDistinct (state : ManifoldAcceptedPeerState) : Prop where
  peers : (state.peers.map (·.identity.peerId)).Nodup
  proposals : state.appliedProposalIds.Nodup

inductive ProducedHost [AuthorityEnvironment] : ManifoldRuntimeHostSnapshot → Prop
  | fresh (operators : List String) : ProducedHost (FleetManifoldAdapter.new operators).runtimeHost
  | reviewed (host : ManifoldRuntimeHostSnapshot) (request : ManifoldRuntimeCommandRequest) (nowMs : Nat)
      (produced : ProducedHost host) : ProducedHost (reviewCommand host request nowMs).1
  | applied (host : ManifoldRuntimeHostSnapshot) (request : ManifoldRuntimeCommandRequest)
      (dispatch : ManifoldRuntimeDispatchReceipt) (nowMs : Nat) (produced : ProducedHost host) :
      ProducedHost (applyDispatch host request dispatch nowMs).1

/-- What the adapter relies on in the Manifold and hashing crates. -/
structure ManifoldLaws [AuthorityEnvironment] : Prop where
  digest : ∀ bytes, isLowerSha256 (sha256Hex bytes) = true
  emptyEnrollment : EnrollmentSound emptyEnrollment
  enrollment : ∀ enrollment request operators nowMs, EnrollmentSound enrollment →
    EnrollmentSound (reviewAndApplyPeerEnrollment enrollment request operators nowMs).1
  peers : ∀ review state, PeersDistinct review.currentState →
    (reviewAndApplyPeerProposal review).1.acceptedState = some state → PeersDistinct state
  reviewed : ∀ host request nowMs, (reviewCommand host request nowMs).1.commandIds = host.commandIds
  applied : ∀ host request dispatch nowMs,
    (applyDispatch host request dispatch nowMs).1.commandIds = host.commandIds
  restarts : ∀ host, ProducedHost host → host.schemaId = hostSnapshotSchema ∧
    ∃ restarted, hostFromSnapshot host = .ok restarted
  restarted : ∀ host restarted, hostFromSnapshot host = .ok restarted →
    restarted.commandIds = host.commandIds ∧ restarted.appliedRequestIds = host.appliedRequestIds
  migrated : ∀ host removed restarted migration,
    hostFromLegacyJson host removed = .ok (restarted, migration) →
      restarted.commandIds = host.commandIds ∧ restarted.appliedRequestIds = host.appliedRequestIds

def ProofSound (proofId : String) (admitted : AdmittedQuestWifiAdbTermuxProof) : Prop :=
  ∃ admission, admitted.admission = some admission ∧
    (0 ≤ admission.boundReceiptUpdatedAtMs → storedProofWellFormed proofId admitted)

structure AdapterSound [AuthorityEnvironment] (adapter : FleetManifoldAdapter) : Prop where
  enrollment : EnrollmentSound adapter.enrollment
  peers : PeersDistinct adapter.acceptedPeers
  proposals : adapter.acceptedPeers.appliedProposalIds.length ≤ maxSeenCheckins
  seen : adapter.seenCheckins.size ≤ maxSeenCheckins
  produced : ProducedHost adapter.runtimeHost
  commands : adapter.runtimeHost.commandIds = fleetRuntimeCommandIds
  proofsBounded : adapter.termuxProofs.size ≤ maxSeenCheckins
  proofs : ∀ (proofId : String) admitted, adapter.termuxProofs[proofId]? = some admitted →
    ProofSound proofId admitted

section Receipts

theorem portable_nonempty {value : String} {limit : Nat} (portable : isOwnerPortableId value limit = true) :
    value ≠ "" := by
  rintro rfl
  simp [isOwnerPortableId] at portable

theorem receipt_fields {receipt : QuestWifiAdbOwnerReceipt} (valid : Valid receipt) :
    receipt.requestId ≠ "" ∧ receipt.operationId ≠ "" ∧ isLowerSha256 receipt.evidenceSha256 = true := by
  simp only [Valid, violations, List.append_eq_nil_iff, violationIf_nil, List.flatMap_eq_nil_iff,
    List.forall_mem_cons] at valid
  obtain ⟨⟨⟨⟨⟨⟨_, request, operation, _⟩, evidence⟩, _⟩, _⟩, _⟩, _⟩ := valid
  simp only [not_not] at request operation
  simp only [not_or, not_not] at evidence
  exact ⟨portable_nonempty request, portable_nonempty operation, evidence.1⟩

theorem selected_receipt [Sha256Hex] {hub : FleetHub}
    (sound : OwnerSafety.LedgerSound questWifiAdbHub hub.wifiAdbOperations) {deviceId : String}
    {identityRevision : Nat} {admittedAtMs : Int} {binding : QuestWifiAdbProofOperationBinding}
    (selected : hub.bindTermuxProofToExactOwnerReceipt deviceId identityRevision admittedAtMs = some binding) :
    ∃ receipt : QuestWifiAdbOwnerReceipt, Valid receipt ∧ binding.operationId = receipt.operationId ∧
      binding.receiptRequestId = receipt.requestId ∧ binding.receiptEvidenceSha256 = receipt.evidenceSha256 := by
  have listed := WifiSafety.selected_listed selected
  obtain ⟨operation, held, inTargets⟩ := List.mem_flatMap.mp listed
  obtain ⟨target, member, candidate⟩ := List.mem_filterMap.mp inTargets
  obtain ⟨stored, _⟩ := List.mem_filter.mp held
  obtain ⟨operationId, found⟩ := (BTreeMap.mem_storedValues_iff _ _).mp stored
  obtain ⟨receipt, received, chosen⟩ := Option.bind_eq_some_iff.mp candidate
  split at chosen
  · cases chosen
    have own := (sound operationId operation found).targets target member
    obtain ⟨_, _, valid, _, _, named, _⟩ := own.received receipt received
    exact ⟨receipt, valid, named.symm, rfl, rfl⟩
  · cases chosen

end Receipts

section Steps

variable [AuthorityEnvironment] {adapter : FleetManifoldAdapter}

theorem adapterSound_new (laws : ManifoldLaws) (operators : List String) : AdapterSound (.new operators) where
  enrollment := laws.emptyEnrollment
  peers := ⟨List.nodup_nil, List.nodup_nil⟩
  proposals := Nat.zero_le _
  seen := Nat.zero_le _
  produced := .fresh operators
  commands := rfl
  proofsBounded := Nat.zero_le _
  proofs := by
    intro proofId admitted stored
    simp [FleetManifoldAdapter.new] at stored

theorem enroll_keeps_adapter (laws : ManifoldLaws) (sound : AdapterSound adapter) (request : JsonValue)
    (nowMs : Nat) : AdapterSound (adapter.applyEnrollment request nowMs).2 :=
  { sound with enrollment := laws.enrollment _ _ _ _ sound.enrollment }

theorem prune_keeps_adapter (sound : AdapterSound adapter) (nowMs : Int) :
    AdapterSound (adapter.pruneSeenCheckins nowMs) :=
  { sound with seen := Nat.le_trans Std.ExtTreeMap.size_filter_le_size sound.seen }

theorem dispatch_keeps_adapter (laws : ManifoldLaws) (sound : AdapterSound adapter) (profile : CommandProfile)
    (request : ManifoldRuntimeCommandRequest) (nowMs : Nat) :
    AdapterSound (adapter.dispatchCommand profile request nowMs).2 := by
  have reviewed := ProducedHost.reviewed _ request nowMs sound.produced
  have known := (laws.reviewed adapter.runtimeHost request nowMs).trans sound.commands
  unfold dispatchCommand
  rcases review : reviewCommand adapter.runtimeHost request nowMs with ⟨host, dispatch⟩
  rw [review] at reviewed known
  have applied := ProducedHost.applied host request dispatch nowMs reviewed
  have still := (laws.applied host request dispatch nowMs).trans known
  by_cases refused : dispatch.ready = false
  · simp only [if_pos refused]
    exact { sound with produced := reviewed, commands := known }
  · simp only [if_neg refused]
    rcases application : applyDispatch host request dispatch nowMs with ⟨next, receipt⟩
    rw [application] at applied still
    by_cases unapplied : receipt.applied = false
    · simp only [if_pos unapplied]
      exact { sound with produced := applied, commands := still }
    · simp only [if_neg unapplied]
      exact { sound with produced := applied, commands := still }

theorem command_keeps_adapter (laws : ManifoldLaws) (sound : AdapterSound adapter) (profile : CommandProfile)
    (header : CommandHeader) (valid bound : Prop) [Decidable valid] [Decidable bound]
    (params : FleetCommandParams) (nowMs : Nat) :
    AdapterSound (adapter.authorizeCommand profile header valid bound params nowMs).2 := by
  unfold authorizeCommand
  cases adapter.commandRequest profile header valid bound params with
  | error text => exact sound
  | ok request => exact dispatch_keeps_adapter laws sound profile request nowMs

theorem authorize_keeps_adapter (laws : ManifoldLaws) (sound : AdapterSound adapter) (call : AuthorizationCall)
    (nowMs : Nat) : AdapterSound (adapter.authorize nowMs call).2 := by
  cases call with
  | kiosk authorization => exact command_keeps_adapter laws sound _ _ _ _ _ _
  | package authorization => exact command_keeps_adapter laws sound _ _ _ _ _ _
  | awake authorization => exact command_keeps_adapter laws sound _ _ _ _ _ _
  | wifiAdb authorization => exact command_keeps_adapter laws sound _ _ _ _ _ _
  | hotspot authorization => exact command_keeps_adapter laws sound _ _ _ _ _ _

end Steps

section CheckIns

variable [AuthorityEnvironment] {adapter : FleetManifoldAdapter} {signed : SignedFleetCheckIn} {nowMs : Int}
  {checkIn : AuthenticatedCheckIn}

omit [AuthorityEnvironment] in
theorem authenticate_credential [FleetEnvironment] (ok : adapter.authenticate signed nowMs = .ok checkIn) :
    0 ≤ nowMs ∧ checkIn.credential ∈ adapter.enrollment.credentials ∧
      checkIn.credential.keyId = signed.keyId ∧
      stripPrefix "sha256:" checkIn.credential.publicKeySha256 = some checkIn.publicKeySha256 := by
  simp only [authenticate, exceptBind_ok, orError_ok, errorIf_ok, not_not, exists_const] at ok
  obtain ⟨proposal, _, _, _, _, _, _, _, credential, found, present, counted, _, _, proof, _, digest, stripped,
    _, _, _, _, _, _, _, _, ended⟩ := ok
  cases ended
  have listed := List.mem_of_find?_eq_some found
  have named := List.find?_some found
  simp only [Bool.and_eq_true, beq_iff_eq] at named
  refine ⟨?_, listed, named.1.1, stripped⟩
  by_contra negative
  have before : nowMs < 0 := Int.not_le.mp negative
  rw [unsigned, if_pos before] at counted
  cases counted

omit [AuthorityEnvironment] in
theorem dotted_nonempty {value path : String} (dotted : requireDottedId value path = []) : value ≠ "" := by
  rintro rfl
  have missing := (requireNonempty_nil _ _).mp (List.append_eq_nil_iff.mp dotted).1
  exact absurd missing (by decide)

omit [AuthorityEnvironment] in
theorem signed_identifiers [FleetEnvironment] (valid : Valid signed) : signed.keyId ≠ "" ∧ signed.claims.checkinId ≠ "" := by
  simp only [Valid, violations, List.append_eq_nil_iff] at valid
  exact ⟨dotted_nonempty valid.1.1.1.2, dotted_nonempty valid.2.1.1.1.1.1.1.1.1.2⟩

omit [AuthorityEnvironment] in
theorem accepted_revision_positive [ObservationCodec] {hub candidate : FleetHub} {observation : DeviceObservation}
    {resultRevision sourceRevision : Nat} {deviceId : String}
    (observed : hub.acceptObservation observation nowMs =
      (.ok (.accepted resultRevision deviceId sourceRevision), candidate)) : resultRevision ≠ 0 := by
  rcases Lineage.acceptObservation_cases hub observation nowMs with
    ⟨_, _, _, _, _, rejected⟩ | ⟨_, _, admitted⟩
  · rw [rejected] at observed
    cases observed
  · rw [admitted] at observed
    by_cases fits : (hub.acceptedRecord observation nowMs).seenSourceEpochs.length ≤
        hub.policy.sourceEpochLimitPerDevice
    · rw [Lineage.admitObservation_fits hub observation nowMs fits] at observed
      cases observed
      simp only [saturatingSucc, u64Max]
      omega
    · simp only [FleetHub.admitObservation, if_neg fits] at observed
      cases observed

theorem admitted_proof_sound (laws : ManifoldLaws) (enrolled : EnrollmentSound adapter.enrollment)
    (valid : Valid signed) (authenticated : adapter.authenticate signed nowMs = .ok checkIn)
    {proof : QuestWifiAdbTermuxProof} {existing : BTreeMap String AdmittedQuestWifiAdbTermuxProof}
    (signedFor : validSignedTermuxProof signed proof nowMs existing) {hub : FleetHub}
    (ledger : OwnerSafety.LedgerSound questWifiAdbHub hub.wifiAdbOperations)
    {binding : QuestWifiAdbProofOperationBinding}
    (selected : hub.bindTermuxProofToExactOwnerReceipt proof.deviceId proof.identityRevision nowMs = some binding)
    {resultRevision : Nat} (accepted : resultRevision ≠ 0) :
    ProofSound proof.proofId (adapter.admittedProof signed checkIn nowMs resultRevision binding proof) := by
  obtain ⟨present, listed, named, stripped⟩ := authenticate_credential authenticated
  have identifiers := signed_identifiers valid
  have credential := enrolled.credentials _ listed
  have window := (signed_valid_facts signed valid).2.1
  obtain ⟨receipt, received, operation, request, evidence⟩ := selected_receipt ledger selected
  have fields := receipt_fields received
  refine ⟨_, rfl, ?_⟩
  intro dated
  have admission : admissionWellFormed
      { keyId := checkIn.credential.keyId
        keyGeneration := checkIn.credential.keyGeneration
        publicKeySha256 := checkIn.publicKeySha256
        claimsJcsSha256 := sha256Hex checkIn.canonicalClaims
        signingMessageSha256 := sha256Hex checkIn.signingMessage
        signatureSha256 := sha256Hex checkIn.signatureBytes
        fleetAcceptedRevision := resultRevision
        enrollmentAuthorityRevision := adapter.enrollment.authorityRevision
        manifoldAuthorityRevision := saturatingSucc adapter.acceptedPeers.authorityRevision
        boundOperationId := binding.operationId
        boundReceiptRequestId := binding.receiptRequestId
        boundReceiptEvidenceSha256 := binding.receiptEvidenceSha256
        boundReceiptUpdatedAtMs := binding.receiptUpdatedAtMs
        consumptionState := .boundToExactOwnerReceipt } := by
    have advanced : saturatingSucc adapter.acceptedPeers.authorityRevision ≠ 0 := by
      simp only [saturatingSucc, u64Max]
      omega
    refine ⟨named ▸ identifiers.1, credential.generation, credential.digest _ stripped, laws.digest _,
      laws.digest _, laws.digest _, accepted, enrolled.revision, advanced, ?_, ?_, ?_, dated, rfl⟩
    · rw [operation]
      exact fields.2.1
    · rw [request]
      exact fields.1
    · rw [evidence]
      exact fields.2.2
  have observed : proof.observedAtMs ≤ signed.claims.issuedAtMs := signedFor.2.2.2.2.2.1
  exact ⟨rfl, signedFor.2.1, identifiers.2, Int.lt_of_le_of_lt observed window, present, _, rfl, admission⟩

theorem commit_keeps_adapter (laws : ManifoldLaws) (sound : AdapterSound adapter) (valid : Valid signed)
    {hub candidate : FleetHub} {resultRevision : Nat} {state : ManifoldAcceptedPeerState}
    {termuxProofs : BTreeMap String AdmittedQuestWifiAdbTermuxProof}
    (commits : CheckIns.Commits adapter hub signed nowMs checkIn resultRevision candidate state termuxProofs)
    (room : adapter.seenCheckins.size < maxSeenCheckins)
    (ledger : OwnerSafety.LedgerSound questWifiAdbHub candidate.wifiAdbOperations) :
    AdapterSound (adapter.commitCheckIn signed state termuxProofs) := by
  have distinct := laws.peers (adapter.reviewCase checkIn) state sound.peers commits.reviewed
  have fewer : ∀ deviceId, (withoutDevice (adapter.unexpiredTermuxProofs nowMs) deviceId).size ≤
      adapter.termuxProofs.size := fun deviceId =>
    Nat.le_trans Std.ExtTreeMap.size_filter_le_size Std.ExtTreeMap.size_filter_le_size
  have proofs : termuxProofs.size ≤ maxSeenCheckins ∧ ∀ (proofId : String) admitted,
      termuxProofs[proofId]? = some admitted → ProofSound proofId admitted := by
    rcases WifiSafety.admitTermuxProof_cases commits.proofs with
      ⟨deviceId, rfl⟩ | ⟨proof, binding, signedFor, selected, free, rfl⟩
    · refine ⟨Nat.le_trans (fewer deviceId) sound.proofsBounded, ?_⟩
      intro proofId admitted stored
      exact sound.proofs proofId admitted (WifiSafety.unexpired_stored stored)
    · refine ⟨Nat.le_trans (BTreeMap.size_insert_le _ _ _) free, ?_⟩
      apply BTreeMap.insert_forall
      · intro proofId admitted stored
        exact sound.proofs proofId admitted (WifiSafety.unexpired_stored stored)
      · obtain ⟨deviceId, sourceRevision, observed⟩ := commits.observed
        exact admitted_proof_sound laws sound.enrollment valid commits.authenticated signedFor ledger selected
          (accepted_revision_positive observed)
  have peers : ((boundedPeers state).peers.map (·.identity.peerId)).Nodup := by
    rw [boundedPeers_peers]
    exact distinct.peers
  refine ⟨sound.enrollment, ⟨peers, ?_⟩, ?_, ?_, sound.produced, sound.commands, proofs.1, proofs.2⟩
  · exact boundedPeers_nodup distinct.proposals
  · exact boundedPeers_bounded state
  · exact Nat.le_trans (BTreeMap.size_insert_le _ _ _) room

theorem accepted_room {hub : FleetHub} {receipt : CheckInReceipt} {after : FleetHub × FleetManifoldAdapter}
    (answered : adapter.accept hub signed nowMs = (.ok receipt, after)) (admitted : receipt.accepted = true) :
    (adapter.pruneSeenCheckins nowMs).seenCheckins.size < maxSeenCheckins := by
  by_contra full
  have crowded := Nat.not_lt.mp full
  unfold accept at answered
  by_cases invalid : isInvalid signed = true
  · rw [if_pos invalid] at answered
    cases answered
    cases admitted
  rw [if_neg invalid] at answered
  by_cases outside : nowMs < signed.claims.issuedAtMs ∨ signed.claims.expiresAtMs ≤ nowMs
  · rw [if_pos outside] at answered
    cases answered
    cases admitted
  rw [if_neg outside] at answered
  simp only [decideCheckIn] at answered
  by_cases seen : (adapter.pruneSeenCheckins nowMs).seenCheckins.contains signed.claims.checkinId
  · simp only [if_pos seen, refuseWith] at answered
    cases answered
    cases admitted
  · simp only [if_neg seen, if_pos crowded, refuseWith] at answered
    cases answered
    cases admitted

end CheckIns

section Runs

variable [AuthorityEnvironment] {fleet : Fleet}

structure FleetSound (fleet : Fleet) : Prop where
  adapter : AdapterSound fleet.adapter
  owners : ∃ awake wifiAdb, OwnerSafety.OwnersDisciplined awake wifiAdb fleet.hub

theorem hub_keeps_owners
    (owners : ∃ awake wifiAdb, OwnerSafety.OwnersDisciplined awake wifiAdb fleet.hub) (call : HubCall) :
    ∃ awake wifiAdb, OwnerSafety.OwnersDisciplined awake wifiAdb (fleet.hub.handle call).1 := by
  obtain ⟨awake, wifiAdb, sound⟩ := owners
  exact ⟨_, _, OwnerSafety.call_keeps_discipline sound call⟩

theorem checkin_keeps_fleet (laws : ManifoldLaws) (sound : FleetSound fleet) (signed : SignedFleetCheckIn)
    (nowMs : Int) : FleetSound (fleet.handle (.checkIn signed nowMs)).1 := by
  have pruned := prune_keeps_adapter sound.adapter nowMs
  rcases CheckIns.accept_cases fleet.adapter fleet.hub signed nowMs with
    ⟨receipt, refused, ended | ended⟩ | ⟨fault, ended, _⟩ |
    ⟨receipt, checkIn, resultRevision, candidate, state, termuxProofs, accepted, ended, valid, _, _, commits⟩
  · simp only [Fleet.handle, ended]
    exact sound
  · simp only [Fleet.handle, ended]
    exact ⟨pruned, sound.owners⟩
  · simp only [Fleet.handle, ended]
    exact ⟨pruned, sound.owners⟩
  · have room := accepted_room ended accepted
    obtain ⟨deviceId, sourceRevision, observed⟩ := commits.observed
    have followed := hub_keeps_owners sound.owners
      (.observe ((fleet.adapter.pruneSeenCheckins nowMs).acceptedObservation fleet.hub signed nowMs) nowMs)
    rw [FleetHub.handle_observe, observed] at followed
    obtain ⟨awake, wifiAdb, owners⟩ := followed
    have committed := commit_keeps_adapter laws pruned valid commits room owners.wifiAdbSound
    simp only [Fleet.handle, ended]
    exact ⟨committed, awake, wifiAdb, owners⟩

/-- A call that reads no stored session. -/
def readsNoSession : AuthorityCall → Prop
  | .fleet (.restoreSession _ _) => False
  | _ => True

theorem call_keeps_fleet (laws : ManifoldLaws) (sound : FleetSound fleet) (call : AuthorityCall)
    (permitted : readsNoSession call) : FleetSound (authorityMachine.next fleet call) := by
  cases call with
  | authorize call nowMs => exact ⟨authorize_keeps_adapter laws sound.adapter call nowMs, sound.owners⟩
  | fleet call =>
    cases call with
    | checkIn signed nowMs => exact checkin_keeps_fleet laws sound signed nowMs
    | hub call => exact ⟨sound.adapter, hub_keeps_owners sound.owners call⟩
    | enroll request nowMs => exact ⟨enroll_keeps_adapter laws sound.adapter request nowMs, sound.owners⟩
    | restoreSession snapshot nowMs => exact permitted.elim

theorem run_fleet_sound (laws : ManifoldLaws) (policy : AssertedPolicy) (operators : List String)
    (calls : List AuthorityCall) (sessionless : ∀ call ∈ calls, readsNoSession call) :
    FleetSound (authorityMachine.run ⟨.new policy, .new operators⟩ calls) := by
  have admitted := authorityMachine.admits_mono
    (fun _ call member => sessionless call member) ⟨.new policy, .new operators⟩ calls
    (authorityMachine.admits_of_mem _ calls)
  apply authorityMachine.run_invariant (fun _ call => readsNoSession call) FleetSound _ _ calls admitted
  · exact ⟨adapterSound_new laws operators, [], [], OwnerSafety.ownersDisciplined_new policy⟩
  · exact fun fleet call permitted sound => call_keeps_fleet laws sound call permitted

end Runs

end RustyFleet.Sessions

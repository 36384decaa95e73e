import RustyFleet.Safety.AdapterLedger
import RustyFleet.Safety.TermuxUsability

namespace RustyFleet.Sessions

open ManifoldEnvironment AuthorityEnvironment FleetManifoldAdapter

/-- Every accepted peer still has an active credential under its own key. -/
def PeersEnrolled (adapter : FleetManifoldAdapter) : Prop :=
  ∀ peer ∈ adapter.acceptedPeers.peers, adapter.enrollment.credentials.any (credentialMatches peer) = true

def Unexpired (admitted : AdmittedQuestWifiAdbTermuxProof) (nowMs : Int) : Prop :=
  nowMs < admitted.checkinExpiresAtMs ∧ nowMs < admitted.proof.freshUntilMs

section Restore

variable [ManifoldEnvironment]

/-- Another adapter takes the whole session over: nothing that is still current is lost. -/
def RestoresWholly (adapter other : FleetManifoldAdapter) (nowMs : Int) : Prop :=
  ∃ restored, other.restoreSession adapter.snapshot nowMs = .ok restored ∧
    restored.acceptedPeers = adapter.acceptedPeers ∧
    (∀ (checkinId : String) (expiresAtMs : Int), adapter.seenCheckins[checkinId]? = some expiresAtMs →
      nowMs < expiresAtMs → restored.seenCheckins[checkinId]? = some expiresAtMs) ∧
    (∀ (proofId : String) admitted, adapter.termuxProofs[proofId]? = some admitted → Unexpired admitted nowMs →
      restored.termuxProofs[proofId]? = some admitted) ∧
    ∀ requestId ∈ adapter.runtimeHost.appliedRequestIds, requestId ∈ restored.runtimeHost.appliedRequestIds

/-- The host is below its last revision and no unexpired proof is bound to a receipt with a negative time. -/
def RestorableAt (adapter : FleetManifoldAdapter) (nowMs : Int) : Prop :=
  adapter.runtimeHost.authorityRevision ≠ u64Max ∧
    ∀ (proofId : String) admitted, adapter.termuxProofs[proofId]? = some admitted → Unexpired admitted nowMs →
      ∀ admission ∈ admitted.admission, 0 ≤ admission.boundReceiptUpdatedAtMs

omit [ManifoldEnvironment] in
theorem requireEnrolledPeers_ok_iff (credentials : List ManifoldPeerCredential)
    (peers : List ManifoldAcceptedPeer) :
    requireEnrolledPeers credentials peers = .ok () ↔
      ∀ peer ∈ peers, credentials.any (credentialMatches peer) = true := by
  induction peers with
  | nil => simp [requireEnrolledPeers]
  | cons peer rest ih => simp [requireEnrolledPeers, ih]

theorem restoreSession_iff {adapter restored : FleetManifoldAdapter} {snapshot : FleetManifoldAdapterSnapshot}
    {nowMs : Int} :
    adapter.restoreSession snapshot nowMs = .ok restored ↔
      snapshot.schema ∈ [fleetManifoldSnapshotV1Schema, fleetManifoldSnapshotV2Schema,
        fleetManifoldSnapshotV3Schema, fleetManifoldSnapshotV4Schema, fleetManifoldSnapshotSchema] ∧
      ¬ (snapshot.schema ≠ fleetManifoldSnapshotV1Schema ∧ snapshot.runtimeHost = none) ∧
      ¬ (snapshot.seenCheckins.size > maxSeenCheckins ∨
        snapshot.acceptedPeers.appliedProposalIds.length > maxSeenCheckins ∨
        (restorableProofs snapshot.termuxProofs nowMs).size > maxSeenCheckins) ∧
      (∀ (proofId : String) admitted, (restorableProofs snapshot.termuxProofs nowMs)[proofId]? = some admitted →
        storedProofWellFormed proofId admitted) ∧
      PeersDistinct snapshot.acceptedPeers ∧
      (∀ peer ∈ snapshot.acceptedPeers.peers,
        adapter.enrollment.credentials.any (credentialMatches peer) = true) ∧
      ∃ host, adapter.restoredRuntimeHost snapshot.runtimeHost = .ok host ∧
        restored = { adapter with
          acceptedPeers := snapshot.acceptedPeers
          seenCheckins := snapshot.seenCheckins.filter fun _ expiresAtMs => decide (nowMs < expiresAtMs)
          runtimeHost := host
          termuxProofs := restorableProofs snapshot.termuxProofs nowMs } := by
  have wellFormed : BTreeMap.anyEntry (restorableProofs snapshot.termuxProofs nowMs) (fun proofId admitted =>
      !decide (storedProofWellFormed proofId admitted)) = false ↔ ∀ (proofId : String) admitted,
        (restorableProofs snapshot.termuxProofs nowMs)[proofId]? = some admitted →
          storedProofWellFormed proofId admitted := by
    rw [BTreeMap.anyEntry_false_iff]
    simp only [Bool.not_eq_false', decide_eq_true_eq]
  have distinct : ¬ (¬ (snapshot.acceptedPeers.peers.map (·.identity.peerId)).Nodup ∨
      ¬ snapshot.acceptedPeers.appliedProposalIds.Nodup) ↔ PeersDistinct snapshot.acceptedPeers := by
    rw [not_or, not_not, not_not]
    exact ⟨fun h => ⟨h.1, h.2⟩, fun h => ⟨h.peers, h.proposals⟩⟩
  simp only [restoreSession, exceptBind_ok, errorIf_ok, exists_const, pure, Except.pure, Except.ok.injEq,
    Bool.not_eq_true, wellFormed, distinct, not_not]
  constructor
  · rintro ⟨schema, present, bounded, proofs, peers, _, enrolled, host, continued, ended⟩
    exact ⟨schema, present, bounded, proofs, peers, (requireEnrolledPeers_ok_iff _ _).mp enrolled, host,
      continued, ended.symm⟩
  · rintro ⟨schema, present, bounded, proofs, peers, enrolled, host, continued, ended⟩
    exact ⟨schema, present, bounded, proofs, peers, (), (requireEnrolledPeers_ok_iff _ _).mpr enrolled, host,
      continued, ended.symm⟩

end Restore

section Current

variable [AuthorityEnvironment] {adapter other : FleetManifoldAdapter} {nowMs : Int}

omit [AuthorityEnvironment] in
theorem restorable_iff (sound : ∀ (proofId : String) admitted, adapter.termuxProofs[proofId]? = some admitted →
    ProofSound proofId admitted) (proofId : String) (admitted : AdmittedQuestWifiAdbTermuxProof) :
    (restorableProofs adapter.termuxProofs nowMs)[proofId]? = some admitted ↔
      adapter.termuxProofs[proofId]? = some admitted ∧ Unexpired admitted nowMs := by
  rw [restorableProofs, BTreeMap.lookup_filter_iff]
  simp only [Bool.and_eq_true, decide_eq_true_eq]
  constructor
  · rintro ⟨stored, current, _⟩
    exact ⟨stored, current⟩
  · rintro ⟨stored, current⟩
    obtain ⟨admission, held, _⟩ := sound proofId admitted stored
    exact ⟨stored, current, by rw [held]; rfl⟩

theorem proofs_wellFormed_iff (sound : AdapterSound adapter) :
    (∀ (proofId : String) admitted, (restorableProofs adapter.termuxProofs nowMs)[proofId]? = some admitted →
      storedProofWellFormed proofId admitted) ↔
    ∀ (proofId : String) admitted, adapter.termuxProofs[proofId]? = some admitted → Unexpired admitted nowMs →
      ∀ admission ∈ admitted.admission, 0 ≤ admission.boundReceiptUpdatedAtMs := by
  constructor
  · intro wellFormed proofId admitted stored current admission held
    have restorable := (restorable_iff sound.proofs proofId admitted).mpr ⟨stored, current⟩
    obtain ⟨_, _, _, _, _, own, holds, fields⟩ := wellFormed proofId admitted restorable
    have same : admission = own := Option.some.inj (held.symm.trans holds)
    subst same
    exact fields.2.2.2.2.2.2.2.2.2.2.2.2.1
  · intro dated proofId admitted restorable
    obtain ⟨stored, current⟩ := (restorable_iff sound.proofs proofId admitted).mp restorable
    obtain ⟨admission, held, wellFormed⟩ := sound.proofs proofId admitted stored
    exact wellFormed (dated proofId admitted stored current admission held)

theorem restoredRuntimeHost_iff (laws : ManifoldLaws) (sound : AdapterSound adapter) :
    (∃ host, other.restoredRuntimeHost (some adapter.runtimeHost) = .ok host) ↔
      adapter.runtimeHost.authorityRevision ≠ u64Max := by
  have hotspot : windowsHotspotActionId ∈ adapter.runtimeHost.commandIds := by
    rw [sound.commands]
    simp [fleetRuntimeCommandIds]
  obtain ⟨schema, restarted, ok⟩ := laws.restarts adapter.runtimeHost sound.produced
  have restarts : restartRuntimeHost adapter.runtimeHost = .ok restarted := by
    rw [restartRuntimeHost, if_pos schema, ok]
    rfl
  simp only [restoredRuntimeHost, if_pos hotspot, exceptBind_ok, errorIf_ok, exists_const, restarts,
    Except.ok.injEq, exists_eq_right', ne_eq]

theorem restart_keeps (laws : ManifoldLaws) {snapshot host : ManifoldRuntimeHostSnapshot}
    (ok : restartRuntimeHost snapshot = .ok host) :
    host.commandIds = snapshot.commandIds ∧ host.appliedRequestIds = snapshot.appliedRequestIds := by
  unfold restartRuntimeHost at ok
  by_cases current : snapshot.schemaId = hostSnapshotSchema
  · rw [if_pos current] at ok
    cases restart : hostFromSnapshot snapshot with
    | error text =>
      rw [restart] at ok
      cases ok
    | ok restarted =>
      rw [restart] at ok
      cases ok
      exact laws.restarted snapshot _ restart
  · rw [if_neg current] at ok
    cases fields : removedHostFields snapshot.schemaId with
    | none =>
      rw [fields] at ok
      cases ok
    | some removed =>
      simp only [fields, exceptBind_ok, errorIf_ok, exists_const] at ok
      obtain ⟨⟨restarted, migration⟩, ran, _, ended⟩ := ok
      cases ended
      cases migrated : hostFromLegacyJson snapshot removed with
      | error text =>
        rw [migrated] at ran
        cases ran
      | ok pair =>
        rw [migrated] at ran
        cases ran
        exact laws.migrated snapshot removed _ _ migrated

theorem restores_wholly_iff (laws : ManifoldLaws) (sound : AdapterSound adapter)
    (same : other.enrollment = adapter.enrollment) (enrolled : PeersEnrolled adapter) :
    RestoresWholly adapter other nowMs ↔ RestorableAt adapter nowMs := by
  constructor
  · rintro ⟨restored, ok, _⟩
    obtain ⟨_, _, _, proofs, _, _, host, continued, _⟩ := restoreSession_iff.mp ok
    exact ⟨(restoredRuntimeHost_iff laws sound).mp ⟨host, continued⟩, (proofs_wellFormed_iff sound).mp proofs⟩
  · rintro ⟨recoverable, dated⟩
    obtain ⟨host, continued⟩ : ∃ host, other.restoredRuntimeHost (some adapter.runtimeHost) = .ok host :=
      (restoredRuntimeHost_iff laws sound).mpr recoverable
    have accepted := @restoreSession_iff _ other { other with
        acceptedPeers := adapter.acceptedPeers
        seenCheckins := adapter.seenCheckins.filter fun _ expiresAtMs => decide (nowMs < expiresAtMs)
        runtimeHost := host
        termuxProofs := restorableProofs adapter.termuxProofs nowMs } adapter.snapshot nowMs
    refine ⟨_, accepted.mpr ⟨?_, ?_, ?_, (proofs_wellFormed_iff sound).mpr dated, sound.peers, ?_, host,
      continued, rfl⟩, rfl, ?_, ?_, ?_⟩
    · simp [FleetManifoldAdapter.snapshot]
    · simp [FleetManifoldAdapter.snapshot]
    · have fewer : (restorableProofs adapter.termuxProofs nowMs).size ≤ adapter.termuxProofs.size :=
        Std.ExtTreeMap.size_filter_le_size
      have seen := sound.seen
      have proposals := sound.proposals
      have proofs := sound.proofsBounded
      simp only [FleetManifoldAdapter.snapshot]
      omega
    · intro peer member
      rw [same]
      exact enrolled peer member
    · intro checkinId expiresAtMs stored current
      exact (BTreeMap.lookup_filter_iff _ _ _ _).mpr ⟨stored, decide_eq_true current⟩
    · intro proofId admitted stored current
      exact (restorable_iff sound.proofs proofId admitted).mpr ⟨stored, current⟩
    · intro requestId applied
      have hotspot : windowsHotspotActionId ∈ adapter.runtimeHost.commandIds := by
        rw [sound.commands]
        simp [fleetRuntimeCommandIds]
      simp only [restoredRuntimeHost, if_pos hotspot, exceptBind_ok, errorIf_ok, exists_const] at continued
      rw [(restart_keeps laws continued.2).2]
      exact applied

end Current

section Upgrade

variable [AuthorityEnvironment] {adapter restored : FleetManifoldAdapter}
  {snapshot : FleetManifoldAdapterSnapshot} {nowMs : Int}

def olderSnapshotSchemas : List String :=
  [fleetManifoldSnapshotV1Schema, fleetManifoldSnapshotV2Schema, fleetManifoldSnapshotV3Schema,
    fleetManifoldSnapshotV4Schema]

/-- Every one of the five commands is registered. -/
def RegistersAll (host : ManifoldRuntimeHostSnapshot) : Prop :=
  ∀ command ∈ fleetRuntimeCommandIds, command ∈ host.commandIds

/-- The host knows the four commands a restore does not add. -/
def ListsOthers (host : ManifoldRuntimeHostSnapshot) : Prop :=
  ∀ command ∈ fleetRuntimeCommandIds, command ≠ windowsHotspotActionId → command ∈ host.commandIds

theorem restored_commands (laws : ManifoldLaws) {stored host : ManifoldRuntimeHostSnapshot}
    (ok : adapter.restoredRuntimeHost (some stored) = .ok host) (command : String) :
    command ∈ host.commandIds ↔ command ∈ stored.commandIds ∨ command = windowsHotspotActionId := by
  simp only [restoredRuntimeHost, exceptBind_ok, errorIf_ok, exists_const] at ok
  have kept := (restart_keeps laws ok.2).1
  rw [kept]
  by_cases listed : windowsHotspotActionId ∈ stored.commandIds
  · rw [if_pos listed]
    constructor
    · exact .inl
    · rintro (known | rfl)
      · exact known
      · exact listed
  · rw [if_neg listed]
    simp

theorem upgrade_registers_iff (laws : ManifoldLaws) (known : RegistersAll adapter.runtimeHost)
    (ok : adapter.restoreSession snapshot nowMs = .ok restored) :
    RegistersAll restored.runtimeHost ↔ ∀ host, snapshot.runtimeHost = some host → ListsOthers host := by
  obtain ⟨_, _, _, _, _, _, host, continued, rfl⟩ := restoreSession_iff.mp ok
  cases present : snapshot.runtimeHost with
  | none =>
    rw [present] at continued
    cases continued
    constructor
    · intro _ host absent
      cases absent
    · intro _
      exact known
  | some stored =>
    rw [present] at continued
    have commands := restored_commands laws continued
    constructor
    · intro all host same command member other
      cases same
      rcases (commands command).mp (all command member) with listed | hotspot
      · exact listed
      · exact absurd hotspot other
    · intro listed command member
      by_cases hotspot : command = windowsHotspotActionId
      · exact (commands command).mpr (.inr hotspot)
      · exact (commands command).mpr (.inl (listed stored rfl command member hotspot))

/-- After any run without a restore, a session is taken over whole exactly when it is restorable, and an older
snapshot leaves every command registered exactly when its host listed the four that are not added. -/
theorem sessions_restore_wholly_iff (laws : ManifoldLaws) (policy : AssertedPolicy) (operators : List String)
    (calls : List AuthorityCall) (sessionless : ∀ call ∈ calls, readsNoSession call) :
    let adapter := (authorityMachine.run ⟨.new policy, .new operators⟩ calls).adapter
    (∀ (other : FleetManifoldAdapter) (nowMs : Int), other.enrollment = adapter.enrollment →
      PeersEnrolled adapter → (RestoresWholly adapter other nowMs ↔ RestorableAt adapter nowMs)) ∧
    ∀ (snapshot : FleetManifoldAdapterSnapshot) (nowMs : Int) (restored : FleetManifoldAdapter),
      snapshot.schema ∈ olderSnapshotSchemas → adapter.restoreSession snapshot nowMs = .ok restored →
        (RegistersAll restored.runtimeHost ↔
          ∀ host, snapshot.runtimeHost = some host → ListsOthers host) := by
  intro adapter
  have sound := (run_fleet_sound laws policy operators calls sessionless).adapter
  constructor
  · intro other nowMs same enrolled
    exact restores_wholly_iff laws sound same enrolled
  · intro snapshot nowMs restored _ ok
    have known : RegistersAll adapter.runtimeHost := by
      intro command member
      rw [sound.commands]
      exact member
    exact upgrade_registers_iff laws known ok

end Upgrade

section Samples

open CheckIns

@[reducible] def sessionEnvironment : AuthorityEnvironment :=
  { sampleFleetEnvironment 1000 with
    hexDecode := fun value => some (List.replicate (value.utf8ByteSize / 2) 0)
    proposalFromValue := fun document => some
      { WifiSafety.sampleProposal document with
        identity := { peerId := "d1", keyFingerprint := "fingerprint." ++ sampleHex, document := "" } }
    reviewAndApplyPeerEnrollment := fun enrollment deviceId _ _ =>
      ({ authorityRevision := enrollment.authorityRevision + 1
         credentials := [{ sampleCredential deviceId with publicKeySha256 := "sha256:" ++ sampleHex }] }, "")
    hostCommandRequestSchema := "command_request"
    hostTypedParamsDigestSchema := "typed_params_digest"
    dottedIdError := id
    canonicalParams := fun _ => .ok [1]
    reviewCommand := fun host request _ =>
      (host, { ready := host.commandIds.contains request.commandId &&
                !host.appliedRequestIds.contains request.requestId
               rejectionReason := "ReplayedRequest"
               document := "" })
    applyDispatch := fun host request _ _ =>
      ({ host with
          authorityRevision := host.authorityRevision + 1
          appliedRequestIds := host.appliedRequestIds ++ [request.requestId] },
        { applied := true, rejectionReason := "", document := "" }) }

theorem session_laws : @ManifoldLaws sessionEnvironment := by
  have digest : isLowerSha256 sampleHex = true := by decide
  apply @ManifoldLaws.mk sessionEnvironment
  case digest => exact fun _ => digest
  case emptyEnrollment =>
    refine ⟨Nat.one_ne_zero, ?_⟩
    intro credential listed
    cases listed
  case enrollment =>
    intro enrollment request operators nowMs sound
    refine ⟨Nat.succ_ne_zero _, ?_⟩
    intro credential listed
    rw [List.mem_singleton.mp listed]
    refine ⟨Nat.one_ne_zero, ?_⟩
    intro text stripped
    have own : stripPrefix "sha256:" ("sha256:" ++ sampleHex) = some sampleHex := by decide
    rw [own] at stripped
    cases stripped
    exact digest
  case peers =>
    intro review state sound accepted
    cases accepted
    exact ⟨by simp, sound.proposals⟩
  case reviewed => exact fun _ _ _ => rfl
  case applied => exact fun _ _ _ _ => rfl
  case restarts =>
    intro host produced
    refine ⟨?_, host, rfl⟩
    induction produced with
    | fresh operators => rfl
    | reviewed host request nowMs _ ih => exact ih
    | applied host request dispatch nowMs _ ih => exact ih
  case restarted =>
    intro host restarted ok
    cases ok
    exact ⟨rfl, rfl⟩
  case migrated =>
    intro host removed restarted migration ok
    cases ok

def sessionMachine : Machine Fleet AuthorityCall AuthorityAnswer := @authorityMachine sessionEnvironment

def sessionStart : Fleet :=
  ⟨.new PackageSafety.samplePolicy, @FleetManifoldAdapter.new sessionEnvironment.toManifoldEnvironment []⟩

def kioskAuthorization : KioskShowControlsCommandAuthorization where
  manifoldRequestId := "request.fleet.kiosk." ++ sampleHex
  ownerActionRequestId := "request-1"
  requesterId := "operator.local"
  issuedAtMs := 2000
  expiresAtMs := 92000
  operationId := "op-1"
  previewId := "preview-1"
  deviceId := "d1"
  identityRevision := 7

def sessionCalls : List AuthorityCall :=
  .fleet (.enroll "d1" 500) ::
    (WifiSafety.requestCalls ++ [WifiSafety.requestReceipt 1010, WifiSafety.shellCheckIn]).map .fleet ++
    [.authorize (.kiosk kioskAuthorization) 2000]

def sessionAdapter : FleetManifoldAdapter := (sessionMachine.run sessionStart sessionCalls).adapter

def successor : FleetManifoldAdapter := { sessionStart.adapter with enrollment := sessionAdapter.enrollment }

theorem takes_over (adapter : FleetManifoldAdapter) :
    { sessionStart.adapter with enrollment := adapter.enrollment }.enrollment = adapter.enrollment := rfl

theorem sample_session :
    sessionAdapter.acceptedPeerIds = ["d1"] ∧ sessionAdapter.seenCheckins[("checkin.2" : String)]? = some 61040 ∧
      sessionAdapter.runtimeHost.appliedRequestIds = [kioskAuthorization.manifoldRequestId] ∧
      sessionAdapter.runtimeHost.authorityRevision = 2 ∧ PeersEnrolled sessionAdapter ∧
      (∃ admitted ∈ BTreeMap.storedValues sessionAdapter.termuxProofs, Unexpired admitted 3000) ∧
      ∀ admitted ∈ BTreeMap.storedValues sessionAdapter.termuxProofs, ∀ admission ∈ admitted.admission,
        0 ≤ admission.boundReceiptUpdatedAtMs := by
  unfold PeersEnrolled Unexpired
  decide +kernel

theorem sample_session_restores :
    (∀ call ∈ sessionCalls, readsNoSession call) ∧
      (∃ proofId : String, ∃ admitted, sessionAdapter.termuxProofs[proofId]? = some admitted ∧
        Unexpired admitted 3000) ∧
      @RestoresWholly sessionEnvironment.toManifoldEnvironment sessionAdapter successor 3000 := by
  have sessionless : ∀ call ∈ sessionCalls, readsNoSession call := by
    intro call member
    simp only [sessionCalls, WifiSafety.requestCalls, WifiSafety.dispatchCalls, List.cons_append, List.nil_append,
      List.map_cons, List.map_nil, List.mem_cons, List.not_mem_nil, or_false] at member
    rcases member with rfl | rfl | rfl | rfl | rfl | rfl | rfl | rfl | rfl
    all_goals exact trivial
  obtain ⟨_, _, _, revision, enrolled, ⟨proof, listed, current⟩, dated⟩ := sample_session
  obtain ⟨proofId, stored⟩ := (BTreeMap.mem_storedValues_iff _ _).mp listed
  have restorable : RestorableAt sessionAdapter 3000 := by
    refine ⟨by simp [revision, u64Max], ?_⟩
    intro proofId admitted stored _
    exact dated admitted ((BTreeMap.mem_storedValues_iff _ _).mpr ⟨proofId, stored⟩)
  have same : successor.enrollment = sessionAdapter.enrollment := takes_over sessionAdapter
  have whole := (@sessions_restore_wholly_iff sessionEnvironment session_laws PackageSafety.samplePolicy []
    sessionCalls sessionless).1 successor 3000
  have reached : ((@authorityMachine sessionEnvironment).run
      ⟨.new PackageSafety.samplePolicy, @FleetManifoldAdapter.new sessionEnvironment.toManifoldEnvironment []⟩
      sessionCalls).adapter = sessionAdapter := by
    rw [sessionAdapter, sessionMachine, sessionStart]
  rw [reached] at whole
  exact ⟨sessionless, ⟨proofId, proof, stored, current⟩, (whole same enrolled).mpr restorable⟩

/-- A stored session of the second version whose host was started with the Kiosk command alone. -/
def kioskOnlySnapshot : FleetManifoldAdapterSnapshot :=
  { sessionStart.adapter.snapshot with
    schema := fleetManifoldSnapshotV2Schema
    runtimeHost := some { sessionStart.adapter.runtimeHost with commandIds := [kioskShowControlsActionId] } }

/-- The upgrade of that session is accepted and leaves the other three commands unregistered. -/
theorem upgrade_drops_commands :
    ∃ (_ : AuthorityEnvironment), ManifoldLaws ∧ kioskOnlySnapshot.schema ∈ olderSnapshotSchemas ∧
      ∃ restored, (FleetManifoldAdapter.new []).restoreSession kioskOnlySnapshot 0 = .ok restored ∧
        ¬ RegistersAll restored.runtimeHost := by
  have accepted : ((@restoreSession sessionEnvironment.toManifoldEnvironment sessionStart.adapter
      kioskOnlySnapshot 0).toOption).isSome = true := by decide
  cases ok : @restoreSession sessionEnvironment.toManifoldEnvironment sessionStart.adapter kioskOnlySnapshot 0 with
  | error text =>
    rw [ok] at accepted
    cases accepted
  | ok restored =>
    refine ⟨sessionEnvironment, session_laws, by decide, restored, ok, ?_⟩
    intro registered
    have known : RegistersAll sessionStart.adapter.runtimeHost := fun command member => member
    have listed := (@upgrade_registers_iff sessionEnvironment _ _ _ _ session_laws known ok).mp registered
    have awake := listed _ rfl questAwakeFamily.actionId (by decide) (by decide)
    exact absurd awake (by decide)

end Samples

end RustyFleet.Sessions

import Mathlib.Data.List.Nodup
import RustyFleet.Safety.HubFreshness
import RustyFleet.Safety.ProofBinding

namespace RustyFleet.WifiSafety

open FleetManifoldAdapter

section Projection

variable [Sha256Hex] {adapter : FleetManifoldAdapter} {hub : FleetHub}
  {operation : QuestWifiAdbOperation} {nowMs : Int}

inductive ProjectedFrom (adapter : FleetManifoldAdapter) (hub : FleetHub) (operation : QuestWifiAdbOperation)
    (nowMs : Int) (target : QuestWifiAdbTarget) : QuestWifiAdbTarget → Prop
  | stored : ProjectedFrom adapter hub operation nowMs target target
  | proven (record : DeviceRecord) (admitted : AdmittedQuestWifiAdbTermuxProof)
      (known : hub.devices[target.deviceId]? = some record)
      (selected : selectedProof adapter hub operation.operationId target record.observation.sourceEpoch =
        some admitted) :
      ProjectedFrom adapter hub operation nowMs target (projectedTarget hub operation nowMs target admitted)

theorem projectTargets_from {targets projected : List QuestWifiAdbTarget} {updatedAtMs last : Int}
    (ok : projectTargets adapter hub operation nowMs targets updatedAtMs = .ok (projected, last)) :
    List.Forall₂ (ProjectedFrom adapter hub operation nowMs) targets projected := by
  induction targets generalizing projected updatedAtMs last with
  | nil =>
    cases ok
    exact .nil
  | cons target rest ih =>
    simp only [projectTargets, exceptBind_ok] at ok
    obtain ⟨current, inspected, ok⟩ := ok
    cases stored : hub.devices[target.deviceId]? with
    | none =>
      rw [FleetHub.inspect, stored] at inspected
      cases inspected
    | some record =>
      obtain ⟨projection, found, row⟩ := FleetHub.inspect_stored nowMs stored
      rw [found] at inspected
      obtain rfl : projection = current := by
        cases inspected
        rfl
      have epoch : projection.row.sourceEpoch = record.observation.sourceEpoch := by rw [row]; rfl
      rw [epoch] at ok
      cases selected : selectedProof adapter hub operation.operationId target
          record.observation.sourceEpoch with
      | none =>
        simp only [selected, exceptBind_ok] at ok
        obtain ⟨⟨others, end'⟩, later, done⟩ := ok
        cases done
        exact .cons .stored (ih later)
      | some admitted =>
        simp only [selected, exceptBind_ok] at ok
        obtain ⟨⟨others, end'⟩, later, done⟩ := ok
        cases done
        exact .cons (.proven record admitted stored selected) (ih later)

theorem questWifiAdbOperation_from {operationId : String} {projected : QuestWifiAdbOperation}
    (ok : adapter.questWifiAdbOperation hub operationId nowMs = .ok projected) :
    ∃ operation, hub.wifiAdbOperations[operationId]? = some operation ∧
      projected.preview = operation.preview ∧ projected.operationId = operation.operationId ∧
      List.Forall₂ (ProjectedFrom adapter hub operation nowMs) operation.targets projected.targets := by
  simp only [questWifiAdbOperation, exceptBind_ok] at ok
  obtain ⟨operation, found, ⟨targets, last⟩, targetsOk, ok⟩ := ok
  split at ok
  · cases ok
    refine ⟨operation, ?_, rfl, rfl, projectTargets_from targetsOk⟩
    cases stored : hub.wifiAdbOperations[operationId]? with
    | none =>
      simp only [OwnerHub.operation, stored] at found
      cases found
    | some known =>
      simp only [OwnerHub.operation, stored] at found
      cases found
      rfl
  · cases ok

end Projection

structure UsableSoundly (fleet : Fleet) (applied : List AppliedReceipt) (operation : QuestWifiAdbOperation)
    (nowMs : Int) (stored projected : QuestWifiAdbTarget) (receipt : QuestWifiAdbOwnerReceipt)
    (admitted : AdmittedQuestWifiAdbTermuxProof) (record : DeviceRecord) : Prop where
  requests : operation.preview.action = .requestWirelessAdb
  received : stored.receipt = some receipt
  effective : receipt.effectApplied = true ∧ receipt.routeMode = .modernTls
  admits : ∃ proofId : String, fleet.adapter.termuxProofs[proofId]? = some admitted
  shown : projected.evidence.termuxProof = some admitted.proof
  available : admitted.proof.available = true
  unexpired : nowMs < admitted.proof.freshUntilMs
  after : ∀ event ∈ applied, event.receipt = receipt → event.nowMs < admitted.acceptedAtMs
  known : fleet.hub.devices[stored.deviceId]? = some record
  identity : record.observation.identity.identityRevision = admitted.proof.identityRevision
  epoch : record.observation.sourceEpoch = admitted.proof.sourceEpoch
  revision : record.observation.sourceRevision = admitted.proof.sourceRevision
  device : admitted.proof.deviceId = stored.deviceId
  undisabled : ∃ first, firstApplied applied receipt = some first ∧ ∀ event ∈ applied,
    Disables event stored.deviceId stored.identityRevision → event.nowMs < first

/-- Every usable target of every projected operation is usable soundly. -/
def UsabilitySound [Sha256Hex] (fleet : Fleet) (applied : List AppliedReceipt) : Prop :=
  ∀ (operationId : String) (nowMs : Int) projected,
    fleet.adapter.questWifiAdbOperation fleet.hub operationId nowMs = .ok projected →
    ∃ operation, fleet.hub.wifiAdbOperations[operationId]? = some operation ∧
      projected.preview = operation.preview ∧ ∀ target ∈ projected.targets,
        target.evidence.termuxUsable = true → ∃ stored ∈ operation.targets,
          target.deviceId = stored.deviceId ∧ target.receipt = stored.receipt ∧
          ∃ receipt admitted record, UsableSoundly fleet applied operation nowMs stored target receipt
            admitted record

/-- A proof is shown usable by one operation at most, at whatever times the two are read. -/
def ProofUsedOnce [Sha256Hex] (fleet : Fleet) : Prop :=
  ∀ (operationId : String) (nowMs : Int) projected (otherId : String) (otherMs : Int) other,
    fleet.adapter.questWifiAdbOperation fleet.hub operationId nowMs = .ok projected →
    fleet.adapter.questWifiAdbOperation fleet.hub otherId otherMs = .ok other →
    ∀ target ∈ projected.targets, target.evidence.termuxUsable = true →
    ∀ another ∈ other.targets, another.evidence.termuxUsable = true →
    ∀ proof proof', target.evidence.termuxProof = some proof → another.evidence.termuxProof = some proof' →
      proof.proofId = proof'.proofId → operationId = otherId

section Soundness

variable [Sha256Hex] {fleet : Fleet} {applied : List AppliedReceipt}

structure FoundUsable (fleet : Fleet) (operation : QuestWifiAdbOperation) (nowMs : Int)
    (stored : QuestWifiAdbTarget) (admitted : AdmittedQuestWifiAdbTermuxProof) (record : DeviceRecord) :
    Prop where
  admits : ∃ proofId : String, fleet.adapter.termuxProofs[proofId]? = some admitted
  known : fleet.hub.devices[stored.deviceId]? = some record
  device : admitted.proof.deviceId = stored.deviceId
  identity : admitted.proof.identityRevision = stored.identityRevision
  binds : ∃ admission ∈ admitted.admission, admissionBindsReceipt operation.operationId stored admission
  epoch : admitted.proof.sourceEpoch = record.observation.sourceEpoch
  lineage : admitted.proof.sourceRevision = record.observation.sourceRevision ∧
    admitted.proof.identityRevision = record.observation.identity.identityRevision
  available : admitted.proof.available = true
  unexpired : nowMs < admitted.proof.freshUntilMs
  effective : effectiveModernTls stored.receipt
  after : stored.updatedAtMs < admitted.acceptedAtMs
  undisabled : ¬ disabledAfterProof fleet.hub stored.deviceId admitted.acceptedAtMs

theorem usable_found {operation : QuestWifiAdbOperation} {nowMs : Int} {stored target : QuestWifiAdbTarget}
    (unusable : stored.evidence.termuxUsable = false)
    (projected : ProjectedFrom fleet.adapter fleet.hub operation nowMs stored target)
    (usable : target.evidence.termuxUsable = true) :
    ∃ admitted record, target.evidence.termuxProof = some admitted.proof ∧
      target.deviceId = stored.deviceId ∧ target.receipt = stored.receipt ∧
      FoundUsable fleet operation nowMs stored admitted record := by
  cases projected with
  | stored =>
    rw [unusable] at usable
    cases usable
  | proven record admitted known selected =>
    have listed := List.mem_filter.mp (maxByKey_mem selected)
    have matched : projectsProof fleet.hub operation.operationId stored record.observation.sourceEpoch
        admitted := by simpa using listed.2
    obtain ⟨device, identity, ⟨admission, holds, _, binds⟩, epoch, lineage, current, revision, same⟩ := matched
    rw [FleetHub.deviceSourceLineage, known, Option.map_some, Option.mem_def, Option.some.injEq] at current
    subst current
    simp only [projectedTarget, Bool.and_eq_true, decide_eq_true_eq, Bool.not_eq_true',
      decide_eq_false_iff_not] at usable
    obtain ⟨⟨⟨⟨⟨available, _⟩, unexpired⟩, matches'⟩, _⟩, undisabled⟩ := usable
    obtain ⟨proofId, found⟩ := (BTreeMap.mem_storedValues_iff _ _).mp listed.1
    exact ⟨admitted, record, rfl, rfl, rfl,
      { admits := ⟨proofId, found⟩
        known := known
        device := device
        identity := identity
        binds := ⟨admission, holds, binds⟩
        epoch := epoch
        lineage := ⟨revision, same⟩
        available := available
        unexpired := unexpired
        effective := matches'.1
        after := matches'.2.2
        undisabled := undisabled }⟩

omit [Sha256Hex] in
theorem applied_dated (kept : DatesKept fleet applied) {operationId : String}
    {operation : QuestWifiAdbOperation} (stored : fleet.hub.wifiAdbOperations[operationId]? = some operation)
    (dated : isDated operation.preview.action) {target : QuestWifiAdbTarget} (member : target ∈ operation.targets)
    {receipt : QuestWifiAdbOwnerReceipt} (received : target.receipt = some receipt) :
    ∀ event ∈ applied, event.receipt = receipt → event.nowMs ≤ target.updatedAtMs := by
  intro event inLog same
  have sound := kept.ledger operationId operation stored
  have carried := (sound.targets target member).received receipt received
  obtain ⟨traced, prior, trace⟩ := kept.traced event inLog
  have here := trace.stored
  rw [same, carried.2.2.1, sound.named, stored] at here
  obtain rfl := Option.some.inj here
  have sameDevice : prior.deviceId = target.deviceId := by rw [trace.device, same, carried.2.2.2.1]
  have sameTarget : prior = target :=
    List.inj_on_of_nodup_map sound.distinct trace.member member sameDevice
  rw [← sameTarget]
  exact trace.dated dated

omit [Sha256Hex] in
theorem found_sound (kept : DatesKept fleet applied) {operationId : String} {operation : QuestWifiAdbOperation}
    (known : fleet.hub.wifiAdbOperations[operationId]? = some operation) {nowMs : Int}
    {stored target : QuestWifiAdbTarget} (member : stored ∈ operation.targets)
    {admitted : AdmittedQuestWifiAdbTermuxProof} {record : DeviceRecord}
    (shown : target.evidence.termuxProof = some admitted.proof)
    (found : FoundUsable fleet operation nowMs stored admitted record) :
    ∃ receipt, UsableSoundly fleet applied operation nowMs stored target receipt admitted record := by
  have sound := kept.ledger operationId operation known
  obtain ⟨proofId, admits⟩ := found.admits
  obtain ⟨admission, holds, binds⟩ := found.binds
  obtain ⟨receipt, received, effective⟩ := found.effective
  have here : fleet.hub.wifiAdbOperations[admission.boundOperationId]? = some operation := by
    rw [binds.1, sound.named]
    exact known
  have requests : operation.preview.action = .requestWirelessAdb := by
    obtain ⟨bound, boundStored, requests⟩ := kept.bound proofId admitted admits admission holds
    rw [here] at boundStored
    obtain rfl := Option.some.inj boundStored
    exact requests
  obtain ⟨first, firstly⟩ := firstApplied_isSome (kept.recorded operationId operation known stored member
    receipt received)
  have carried := (sound.targets stored member).received receipt received
  refine ⟨receipt, requests, received, effective, ⟨proofId, admits⟩, shown, found.available, found.unexpired,
    ?_, found.known, found.lineage.2.symm, found.epoch.symm, found.lineage.1.symm, found.device, first,
    firstly, ?_⟩
  · intro event inLog same
    have dated := applied_dated kept known (.inl requests) member received event inLog same
    exact lt_of_le_of_lt dated found.after
  · intro event inLog disables
    by_contra late
    have binds' : admissionBindsReceipt admission.boundOperationId stored admission := ⟨rfl, binds.2⟩
    have disables' : Disables event receipt.deviceId receipt.identityRevision := by
      rw [carried.2.2.2.1, carried.2.2.2.2.1]
      exact disables
    have accepted := kept.proven proofId admitted admits admission holds operation here stored member
      found.device.symm found.identity.symm binds' receipt received first firstly event inLog disables'
      (not_lt.mp late)
    obtain ⟨disable, disabled, trace⟩ := kept.traced event inLog
    have action := trace.action.trans disables.1
    obtain ⟨took, holdsReceipt, applied, _⟩ := trace.effective disables.1 disables.2.1
    apply found.undisabled
    refine ⟨disable, (BTreeMap.mem_storedValues_iff _ _).mpr ⟨_, trace.stored⟩, action, disabled, trace.member,
      ?_, took, holdsReceipt, applied, le_trans accepted (trace.dated (.inr action))⟩
    rw [trace.device, disables.2.2.1]

theorem usability_sound (kept : DatesKept fleet applied) : UsabilitySound fleet applied := by
  intro operationId nowMs projected ok
  obtain ⟨operation, known, preview, _, targets⟩ := questWifiAdbOperation_from ok
  refine ⟨operation, known, preview, ?_⟩
  intro target member usable
  obtain ⟨stored, inLedger, origin⟩ := Support.forall₂_right targets target member
  have unusable := ((kept.ledger operationId operation known).targets stored inLedger).unusable
  obtain ⟨admitted, record, shown, device, receipt, found⟩ := usable_found unusable origin usable
  obtain ⟨received, sound⟩ := found_sound kept known inLedger shown found
  exact ⟨stored, inLedger, device, receipt, received, admitted, record, sound⟩

theorem proof_used_once (kept : DatesKept fleet applied) : ProofUsedOnce fleet := by
  have bound : ∀ (operationId : String) (nowMs : Int) projected,
      fleet.adapter.questWifiAdbOperation fleet.hub operationId nowMs = .ok projected →
      ∀ target ∈ projected.targets, target.evidence.termuxUsable = true →
      ∀ proof, target.evidence.termuxProof = some proof → ∃ admitted admission,
        fleet.adapter.termuxProofs[proof.proofId]? = some admitted ∧ admitted.admission = some admission ∧
          admission.boundOperationId = operationId := by
    intro operationId nowMs projected ok target member usable proof shown
    obtain ⟨operation, known, _, _, targets⟩ := questWifiAdbOperation_from ok
    obtain ⟨stored, inLedger, origin⟩ := Support.forall₂_right targets target member
    have sound := kept.ledger operationId operation known
    obtain ⟨admitted, record, shows, _, _, found⟩ :=
      usable_found (sound.targets stored inLedger).unusable origin usable
    rw [shows] at shown
    obtain rfl := Option.some.inj shown
    obtain ⟨proofId, admits⟩ := found.admits
    obtain ⟨admission, holds, binds⟩ := found.binds
    refine ⟨admitted, admission, ?_, holds, binds.1.trans sound.named⟩
    rw [← kept.keyed proofId admitted admits]
    exact admits
  intro operationId nowMs projected otherId otherMs other ok otherOk target member usable another anotherMember
    anotherUsable proof proof' shown shown' same
  obtain ⟨admitted, admission, found, holds, named⟩ :=
    bound operationId nowMs projected ok target member usable proof shown
  obtain ⟨admitted', admission', found', holds', named'⟩ :=
    bound otherId otherMs other otherOk another anotherMember anotherUsable proof' shown'
  rw [same, found'] at found
  obtain rfl := Option.some.inj found
  rw [holds'] at holds
  obtain rfl := Option.some.inj holds
  exact named.symm.trans named'

end Soundness

section Runs

variable [FleetEnvironment]

theorem dates_start (policy : AssertedPolicy) (trustedOperatorIds : List String) :
    DatesKept ⟨.new policy, .new trustedOperatorIds⟩ [] := by
  have empty : ∀ operationId : String,
      (FleetHub.new policy).wifiAdbOperations[operationId]? = none := fun _ => by simp [FleetHub.new]
  have unproven : ∀ proofId : String,
      (FleetManifoldAdapter.new trustedOperatorIds).termuxProofs[proofId]? = none := fun _ => by
    simp [FleetManifoldAdapter.new]
  constructor
  case ledger =>
    intro operationId operation found
    rw [empty operationId] at found
    cases found
  case traced =>
    intro event member
    cases member
  case recorded =>
    intro operationId operation found
    rw [empty operationId] at found
    cases found
  case requested =>
    intro operationId operation found
    rw [empty operationId] at found
    cases found
  case keyed =>
    intro proofId admitted found
    rw [unproven proofId] at found
    cases found
  case bound =>
    intro proofId admitted found
    rw [unproven proofId] at found
    cases found
  case proven =>
    intro proofId admitted found
    rw [unproven proofId] at found
    cases found

theorem receiptsApplied_other (fleet : Fleet) (call : HubCall) (answer : FleetAnswer)
    (other : ∀ wifiCall, call ≠ .wifiAdb wifiCall) : receiptsApplied fleet (.hub call) answer = [] := by
  cases call with
  | wifiAdb wifiCall => exact absurd rfl (other wifiCall)
  | _ => rfl

theorem call_keeps_dates {fleet : Fleet} {applied : List AppliedReceipt} (kept : DatesKept fleet applied)
    (call : FleetCall) (allowed : KeepsDates (fleet, applied) call) :
    DatesKept (fleet.handle call).1 (applied ++ receiptsApplied fleet call (fleet.handle call).2) := by
  cases call with
  | checkIn signed nowMs =>
    simp only [receiptsApplied, List.append_nil]
    have same : ∀ observation, (fleet.hub.acceptObservation observation nowMs).2.wifiAdbOperations =
        fleet.hub.wifiAdbOperations := by
      intro observation
      obtain ⟨_, _, _, _, frame⟩ := fleet.hub.observation_frame observation nowMs
      rw [frame]
    rcases CheckIns.accept_cases fleet.adapter fleet.hub signed nowMs with
      ⟨receipt, _, ended | ended⟩ | ⟨fault, ended, _⟩ |
      ⟨receipt, checkIn, resultRevision, candidate, state, termuxProofs, _, ended, _, _, _, commits⟩
    · simp only [Fleet.handle, ended]
      exact kept
    · simp only [Fleet.handle, ended]
      exact fewer_proofs_keep_dates kept rfl fun _ _ stored => stored
    · simp only [Fleet.handle, ended]
      exact fewer_proofs_keep_dates kept rfl fun _ _ stored => stored
    · simp only [Fleet.handle, ended]
      obtain ⟨deviceId, sourceRevision, observed⟩ := commits.observed
      have ledger := same (fleet.adapter.acceptedObservation fleet.hub signed nowMs)
      have answered : fleet.hub.acceptObservation
          (fleet.adapter.acceptedObservation fleet.hub signed nowMs) nowMs =
          (.ok (.accepted resultRevision deviceId sourceRevision), candidate) := observed
      rw [answered] at ledger
      have pruned : DatesKept ⟨fleet.hub, fleet.adapter.pruneSeenCheckins nowMs⟩ applied :=
        fewer_proofs_keep_dates kept rfl fun _ _ stored => stored
      exact proofs_keep_dates pruned ledger (admitTermuxProof_ok commits.proofs)
  | hub call =>
    by_cases own : ∃ wifiCall, call = .wifiAdb wifiCall
    · obtain ⟨wifiCall, rfl⟩ := own
      exact wifiAdb_keeps_dates kept wifiCall allowed
    · have other : ∀ wifiCall, call ≠ .wifiAdb wifiCall := fun wifiCall same => own ⟨wifiCall, same⟩
      rw [receiptsApplied_other fleet call _ other, List.append_nil]
      have ledger := (fleet.hub.handle_leaves_others call).wifiAdb other
      exact fewer_proofs_keep_dates kept ledger fun _ _ stored => stored
  | enroll request nowMs =>
    simp only [receiptsApplied, List.append_nil]
    exact fewer_proofs_keep_dates kept rfl fun _ _ stored => stored
  | restoreSession snapshot nowMs =>
    simp only [receiptsApplied, List.append_nil]
    have own : snapshot = fleet.adapter.snapshot := allowed
    subst own
    simp only [Fleet.handle, sessionRestored]
    split
    · exact kept
    · rename_i restored ok
      obtain ⟨_, _, _, proofs, _⟩ := fleet.adapter.restoreSession_ok ok
      refine fewer_proofs_keep_dates kept rfl fun proofId admitted stored => ?_
      rw [proofs] at stored
      exact ((BTreeMap.lookup_filter_iff _ _ _ _).mp stored).1

/-- In every run whose receipts and failures keep the dates, usability is sound and no proof is used twice. -/
theorem termux_usability_sound (policy : AssertedPolicy) (trustedOperatorIds : List String)
    (calls : List FleetCall)
    (keeps : (fleetMachine.recorded receiptsApplied).Admits KeepsDates
      (⟨.new policy, .new trustedOperatorIds⟩, []) calls) :
    let state := (fleetMachine.recorded receiptsApplied).run (⟨.new policy, .new trustedOperatorIds⟩, []) calls
    UsabilitySound state.1 state.2 ∧ ProofUsedOnce state.1 := by
  have kept := (fleetMachine.recorded receiptsApplied).run_invariant KeepsDates
    (fun state => DatesKept state.1 state.2)
    (fun state call allowed held => call_keeps_dates held call allowed)
    _ calls keeps (dates_start policy trustedOperatorIds)
  exact ⟨usability_sound kept, proof_used_once kept⟩

end Runs

section Samples

open CheckIns PackageSafety

def sampleProposal (document : String) : ManifoldPeerStatusProposal :=
  let proves := document = "d1+shell"
  let observedAtMs := if proves then 1040 else 1000
  { identity := { peerId := "d1", keyFingerprint := "fingerprint.1", document := "" }
    status :=
      { peerId := "d1"
        observedAtMs := observedAtMs
        expiresAtMs := observedAtMs + 60000
        capabilityIds := if proves then [termuxCapabilityId] else []
        document := "" }
    expectedAuthorityRevision := 1
    document := "" }

@[reducible] def termuxEnvironment : FleetEnvironment :=
  { sampleFleetEnvironment 1000 with
    hexDecode := fun value => some (List.replicate (value.utf8ByteSize / 2) 0)
    proposalFromValue := fun document => some (sampleProposal document)
    emptyEnrollment :=
      { authorityRevision := 2
        credentials := [{ sampleCredential "d1" with publicKeySha256 := "sha256:" ++ sampleHex }] } }

def wifiPlan (operationId : String) (action : QuestWifiAdbAction) : QuestWifiAdbPreviewPlan where
  operationId := operationId
  previewId := "preview-1"
  watchdogGeneration := ()
  request :=
    { schema := "rusty.fleet.quest_wifi_adb_preview_request.v1"
      actionId := "quest.wifi-adb-control"
      action := action
      policy := ()
      targets := .ofList [("d1", 1)] compare }
  createdAtMs := 1001
  expiresAtMs := 61000
  providerReadyDevices := .ofList ["d1"] compare

def wifiReceipt (operationId : String) (action : QuestWifiAdbAction) : QuestWifiAdbOwnerReceipt where
  schema := questWifiAdbReceiptSchema
  requestId := "ask-1"
  operationId := operationId
  previewId := "preview-1"
  deviceId := "d1"
  identityRevision := 1
  action := action
  routeMode := .modernTls
  requestDelivered := true
  kioskSettingApplied := true
  requestAfterBootEnabled := none
  wearerApproval := .pending
  listenerDiscovered := false
  effectApplied := true
  outcome := "applied"
  evidenceSha256 := sampleHex
  observedAtMs := 1005

def wifiHub (call : WifiAdbCall) : FleetCall := .hub (.wifiAdb call)

def dispatchCalls (operationId : String) (action : QuestWifiAdbAction) : List FleetCall :=
  [wifiHub (.preview (wifiPlan operationId action)), wifiHub (.confirm operationId "preview-1" 1002),
    wifiHub (.prepare operationId "d1" "ask-1" 1003), wifiHub (.dispatched operationId "d1" 1004)]

def firstCheckIn : FleetCall := .checkIn (signedCheckIn "checkin.1" (readyObservation "d1")) 1000

def shellCapability : CapabilityState where
  capabilityId := termuxCapabilityId
  support := .supported
  enablement := .enabled
  authorization := .authorized
  reachability := .reachable
  freshness := .current
  evidenceRevision := 1
  observedAtMs := 1040
  freshUntilMs := 61000
  owner := termuxProofOwner
  reason := "loopback_tls_shell_uid_2000"
  extensions := ∅

def shellCheckIn : FleetCall :=
  let observation := readyObservation "d1"
  let signed := signedCheckIn "checkin.2"
    { observation with
      sourceRevision := 2
      sourceTimeMs := 1040
      capabilities :=
        { capabilities := .ofList [(termuxCapabilityId, shellCapability)] compare
          extensions := ∅ } }
  .checkIn
    { signed with claims := { signed.claims with manifoldPeerStatusProposal := "d1+shell" } } 1040

def termuxMachine : Machine (Fleet × List AppliedReceipt) FleetCall FleetAnswer :=
  (@fleetMachine termuxEnvironment).recorded (@receiptsApplied termuxEnvironment)

def termuxStart : Fleet × List AppliedReceipt :=
  (⟨.new samplePolicy, @FleetManifoldAdapter.new termuxEnvironment.toManifoldEnvironment []⟩, [])

def requestCalls : List FleetCall :=
  firstCheckIn :: dispatchCalls "op-1" .requestWirelessAdb

def requestReceipt (nowMs : Int) : FleetCall := wifiHub (.receipt (wifiReceipt "op-1" .requestWirelessAdb) nowMs)

def usableAt (fleet : Fleet) (operationId : String) (nowMs : Int) : Bool :=
  (@FleetManifoldAdapter.questWifiAdbOperation fleet.adapter fleet.hub termuxEnvironment.toSha256Hex
    operationId nowMs).toOption.any fun projected => projected.targets.any (·.evidence.termuxUsable)

theorem sample_receipt_keeps_dates :
    KeepsDates (termuxMachine.run termuxStart requestCalls) (requestReceipt 1010) := by
  obtain ⟨unreceived, unproven, unapplied⟩ :
      (∀ operation ∈ BTreeMap.storedValues
        (termuxMachine.run termuxStart requestCalls).1.hub.wifiAdbOperations,
        operation.preview.action = .requestWirelessAdb ∧
          ∀ target ∈ operation.targets, target.receipt = none) ∧
      (termuxMachine.run termuxStart requestCalls).1.adapter.termuxProofs.isEmpty = true ∧
      (termuxMachine.run termuxStart requestCalls).2.isEmpty = true := by
    decide +kernel
  have held : ∀ (operationId : String) operation,
      (termuxMachine.run termuxStart requestCalls).1.hub.wifiAdbOperations[operationId]? = some operation →
        operation ∈ BTreeMap.storedValues
          (termuxMachine.run termuxStart requestCalls).1.hub.wifiAdbOperations :=
    fun operationId operation stored => (BTreeMap.mem_storedValues_iff _ _).mpr ⟨operationId, stored⟩
  intro operation stored target member _
  have requests := (unreceived operation (held _ operation stored)).1
  refine ⟨fun _ => ⟨?_, ?_⟩, ?_, ?_, ?_⟩
  · intro otherId other found _ another inOther _ _ received
    rw [(unreceived other (held otherId other found)).2 another inOther] at received
    cases received
  · intro proofId admitted found
    rw [Std.ExtTreeMap.isEmpty_iff.mp unproven] at found
    simp at found
  · intro disable
    rw [requests] at disable
    cases disable
  · intro disable
    rw [requests] at disable
    cases disable
  · rintro _ ⟨event, inLog, _⟩
    rw [List.isEmpty_iff.mp unapplied] at inLog
    cases inLog

theorem sample_admitted :
    termuxMachine.Admits KeepsDates termuxStart (requestCalls ++ [requestReceipt 1010, shellCheckIn]) := by
  apply (termuxMachine.admits_append _ _ _ _).mpr
  exact ⟨⟨trivial, trivial, trivial, trivial, trivial, trivial⟩, sample_receipt_keeps_dates, trivial, trivial⟩

theorem requested_then_proven_usable :
    usableAt (termuxMachine.run termuxStart (requestCalls ++ [requestReceipt 1010, shellCheckIn])).1 "op-1" 1050 =
        true ∧
      let state := termuxMachine.run termuxStart (requestCalls ++ [requestReceipt 1010, shellCheckIn])
      @UsabilitySound termuxEnvironment.toSha256Hex state.1 state.2 ∧
        @ProofUsedOnce termuxEnvironment.toSha256Hex state.1 :=
  ⟨by decide +kernel, @termux_usability_sound termuxEnvironment samplePolicy [] _ sample_admitted⟩

def reappliedCalls : List FleetCall :=
  requestCalls ++ [requestReceipt 1010] ++ dispatchCalls "op-2" .disableWirelessAdb ++
    [wifiHub (.receipt (wifiReceipt "op-2" .disableWirelessAdb) 1020), requestReceipt 1030, shellCheckIn]

/-- A request receipt applied again after a disable is dated anew, and a later proof is bound to it. -/
theorem reapplied_request_outlives_disable :
    ∃ (_ : FleetEnvironment) (policy : AssertedPolicy) (trustedOperatorIds : List String)
      (calls : List FleetCall),
      let state := (fleetMachine.recorded receiptsApplied).run
        (⟨.new policy, .new trustedOperatorIds⟩, []) calls
      ¬ UsabilitySound state.1 state.2 := by
  refine ⟨termuxEnvironment, samplePolicy, [], reappliedCalls, ?_⟩
  change ¬ @UsabilitySound termuxEnvironment.toSha256Hex
    (termuxMachine.run termuxStart reappliedCalls).1 (termuxMachine.run termuxStart reappliedCalls).2
  intro sound
  obtain ⟨usable, applied, targets⟩ :
      usableAt (termuxMachine.run termuxStart reappliedCalls).1 "op-1" 1050 = true ∧
      (termuxMachine.run termuxStart reappliedCalls).2 = [⟨wifiReceipt "op-1" .requestWirelessAdb, 1010⟩,
        ⟨wifiReceipt "op-2" .disableWirelessAdb, 1020⟩,
        ⟨wifiReceipt "op-1" .requestWirelessAdb, 1030⟩] ∧
      ∀ operation ∈ (termuxMachine.run termuxStart reappliedCalls).1.hub.wifiAdbOperations["op-1"]?, ∀ target ∈ operation.targets,
        target.deviceId = "d1" ∧ target.identityRevision = 1 ∧
          target.receipt = some (wifiReceipt "op-1" .requestWirelessAdb) := by
    decide +kernel
  obtain ⟨projected, ok, any⟩ := (Option.any_eq_true _ _).mp usable
  obtain ⟨target, member, shows⟩ := List.any_eq_true.mp any
  obtain ⟨operation, known, _, each⟩ := sound "op-1" 1050 projected
    (by
      cases result : @FleetManifoldAdapter.questWifiAdbOperation
        (termuxMachine.run termuxStart reappliedCalls).1.adapter
        (termuxMachine.run termuxStart reappliedCalls).1.hub termuxEnvironment.toSha256Hex "op-1" 1050 with
      | error text =>
        rw [result] at ok
        cases ok
      | ok found =>
        rw [result] at ok
        cases ok
        rfl)
  obtain ⟨stored, inLedger, _, _, receipt, admitted, record, usableSoundly⟩ := each target member shows
  obtain ⟨device, identity, holds⟩ := targets operation known stored inLedger
  have same := usableSoundly.received
  rw [holds] at same
  obtain rfl := Option.some.inj same
  obtain ⟨first, firstly, later⟩ := usableSoundly.undisabled
  rw [applied] at firstly later
  have earliest : first = 1010 := by
    have evaluated : firstApplied [⟨wifiReceipt "op-1" .requestWirelessAdb, 1010⟩,
        ⟨wifiReceipt "op-2" .disableWirelessAdb, 1020⟩, ⟨wifiReceipt "op-1" .requestWirelessAdb, 1030⟩]
        (wifiReceipt "op-1" .requestWirelessAdb) = some 1010 := by decide
    rw [evaluated] at firstly
    exact (Option.some.inj firstly).symm
  have before := later ⟨wifiReceipt "op-2" .disableWirelessAdb, 1020⟩ (by simp)
    ⟨rfl, rfl, device.symm, identity.symm⟩
  simp only [earliest] at before
  omega

end Samples
end RustyFleet.WifiSafety

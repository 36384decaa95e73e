import RustyFleet.Safety.DateSteps

namespace RustyFleet.WifiSafety

open FleetManifoldAdapter

structure BoundTo (hub : FleetHub) (deviceId : String) (identityRevision : Nat) (admittedAtMs : Int)
    (binding : QuestWifiAdbProofOperationBinding) (operation : QuestWifiAdbOperation)
    (target : QuestWifiAdbTarget) : Prop where
  stored : operation ∈ hub.questWifiAdbOperations
  requests : operation.preview.action = .requestWirelessAdb
  named : binding.operationId = operation.operationId
  member : target ∈ operation.targets
  device : target.deviceId = deviceId
  identity : target.identityRevision = identityRevision
  dated : binding.receiptUpdatedAtMs = target.updatedAtMs
  earlier : target.updatedAtMs < admittedAtMs
  undisabled : (hub.newestDisableMs deviceId identityRevision).all (· < target.updatedAtMs) = true

theorem selected_listed {hub : FleetHub} {deviceId : String} {identityRevision : Nat} {admittedAtMs : Int}
    {binding : QuestWifiAdbProofOperationBinding}
    (selected : hub.bindTermuxProofToExactOwnerReceipt deviceId identityRevision admittedAtMs = some binding) :
    binding ∈ hub.bindingCandidates deviceId identityRevision admittedAtMs := by
  have member : binding ∈
      (hub.bindingCandidates deviceId identityRevision admittedAtMs).mergeSort FleetHub.bindingBefore := by
    unfold FleetHub.bindTermuxProofToExactOwnerReceipt at selected
    split at selected
    · cases selected
    · rename_i only sorted
      cases selected
      rw [sorted]
      exact List.mem_singleton_self _
    · rename_i first other rest sorted
      split at selected
      · cases selected
      · cases selected
        rw [sorted]
        exact List.mem_cons_self
  exact List.mem_mergeSort.mp member

theorem selected_bound {hub : FleetHub} {deviceId : String} {identityRevision : Nat} {admittedAtMs : Int}
    {binding : QuestWifiAdbProofOperationBinding}
    (selected : hub.bindTermuxProofToExactOwnerReceipt deviceId identityRevision admittedAtMs = some binding) :
    ∃ operation target, BoundTo hub deviceId identityRevision admittedAtMs binding operation target := by
  have listed := selected_listed selected
  obtain ⟨operation, held, inTargets⟩ := List.mem_flatMap.mp listed
  obtain ⟨target, member, candidate⟩ := List.mem_filterMap.mp inTargets
  obtain ⟨stored, requests⟩ := List.mem_filter.mp held
  obtain ⟨receipt, _, chosen⟩ := Option.bind_eq_some_iff.mp candidate
  split at chosen
  · rename_i fits
    obtain ⟨device, identity, _, _, earlier, undisabled⟩ := fits
    cases chosen
    exact ⟨operation, target, stored, by simpa using requests, rfl, member, device, identity, rfl, earlier,
      undisabled⟩
  · cases chosen

theorem le_newestDisable {hub : FleetHub} {operationId : String} {operation : QuestWifiAdbOperation}
    {target : QuestWifiAdbTarget} (stored : hub.wifiAdbOperations[operationId]? = some operation)
    (disables : operation.preview.action = .disableWirelessAdb) (member : target ∈ operation.targets)
    (effective : effectiveModernTls target.receipt) :
    ∃ newest, hub.newestDisableMs target.deviceId target.identityRevision = some newest ∧
      target.updatedAtMs ≤ newest := by
  have held : operation ∈ hub.questWifiAdbOperations :=
    (BTreeMap.mem_storedValues_iff _ _).mpr ⟨operationId, stored⟩
  have listed : target.updatedAtMs ∈
      ((((hub.questWifiAdbOperations.filter (·.preview.action = .disableWirelessAdb)).flatMap (·.targets)).filter
        fun candidate => candidate.deviceId = target.deviceId ∧
          candidate.identityRevision = target.identityRevision ∧
          effectiveModernTls candidate.receipt).map (·.updatedAtMs)) := by
    apply List.mem_map.mpr
    refine ⟨target, List.mem_filter.mpr ⟨?_, ?_⟩, rfl⟩
    · apply List.mem_flatMap.mpr
      exact ⟨operation, List.mem_filter.mpr ⟨held, by simpa using disables⟩, member⟩
    · simpa using effective
  cases found : hub.newestDisableMs target.deviceId target.identityRevision with
  | none =>
    rw [FleetHub.newestDisableMs, List.max?_eq_none_iff] at found
    rw [found] at listed
    cases listed
  | some newest =>
    refine ⟨newest, rfl, ?_⟩
    rw [FleetHub.newestDisableMs] at found
    exact (List.max?_eq_some_iff.mp found).2 _ listed

section CheckIns

variable {fleet : Fleet} {applied : List AppliedReceipt}

inductive ProofsAdmitted (adapter : FleetManifoldAdapter) (hub : FleetHub) (nowMs : Int)
    (proofs : BTreeMap String AdmittedQuestWifiAdbTermuxProof) : Prop
  | dropped (fewer : ∀ (proofId : String) admitted, proofs[proofId]? = some admitted →
      adapter.termuxProofs[proofId]? = some admitted)
  | added (others : BTreeMap String AdmittedQuestWifiAdbTermuxProof)
      (admitted : AdmittedQuestWifiAdbTermuxProof) (admission : AdmittedQuestWifiAdbTermuxAdmission)
      (binding : QuestWifiAdbProofOperationBinding)
      (fewer : ∀ (proofId : String) earlier, others[proofId]? = some earlier →
        adapter.termuxProofs[proofId]? = some earlier)
      (result : proofs = others.insert admitted.proof.proofId admitted)
      (accepted : admitted.acceptedAtMs = nowMs) (holds : admitted.admission = some admission)
      (selected : hub.bindTermuxProofToExactOwnerReceipt admitted.proof.deviceId
        admitted.proof.identityRevision nowMs = some binding)
      (operation : admission.boundOperationId = binding.operationId)
      (dated : admission.boundReceiptUpdatedAtMs = binding.receiptUpdatedAtMs)

theorem unexpired_stored {adapter : FleetManifoldAdapter} {nowMs : Int} {deviceId proofId : String}
    {admitted : AdmittedQuestWifiAdbTermuxProof}
    (stored : (withoutDevice (adapter.unexpiredTermuxProofs nowMs) deviceId)[proofId]? = some admitted) :
    adapter.termuxProofs[proofId]? = some admitted := by
  have unexpired := ((BTreeMap.lookup_filter_iff _ _ _ _).mp stored).1
  exact ((BTreeMap.lookup_filter_iff _ _ _ _).mp unexpired).1

theorem admitTermuxProof_cases [ManifoldEnvironment] {adapter : FleetManifoldAdapter} {hub : FleetHub}
    {signed : SignedFleetCheckIn} {checkIn : AuthenticatedCheckIn} {nowMs : Int} {fleetAcceptedRevision : Nat}
    {proofs : BTreeMap String AdmittedQuestWifiAdbTermuxProof}
    (ok : adapter.admitTermuxProof hub signed checkIn nowMs fleetAcceptedRevision = .ok proofs) :
    (∃ deviceId, proofs = withoutDevice (adapter.unexpiredTermuxProofs nowMs) deviceId) ∨
      ∃ proof binding, validSignedTermuxProof signed proof nowMs (adapter.unexpiredTermuxProofs nowMs) ∧
        hub.bindTermuxProofToExactOwnerReceipt proof.deviceId proof.identityRevision nowMs = some binding ∧
        (withoutDevice (adapter.unexpiredTermuxProofs nowMs) proof.deviceId).size < maxSeenCheckins ∧
        proofs = (withoutDevice (adapter.unexpiredTermuxProofs nowMs) proof.deviceId).insert proof.proofId
          (adapter.admittedProof signed checkIn nowMs fleetAcceptedRevision binding proof) := by
  unfold admitTermuxProof at ok
  cases carried : checkIn.termuxProof with
  | none =>
    simp only [carried] at ok
    cases ok
    exact .inl ⟨_, rfl⟩
  | some proof =>
    simp only [carried, exceptBind_ok, errorIf_ok, not_not, orError_ok, exceptPure_ok] at ok
    obtain ⟨_, valid, binding, selected, _, room, rfl⟩ := ok
    exact .inr ⟨proof, binding, valid, selected, room, rfl⟩

theorem admitTermuxProof_ok [ManifoldEnvironment] {adapter : FleetManifoldAdapter} {hub : FleetHub} {signed : SignedFleetCheckIn}
    {checkIn : AuthenticatedCheckIn} {nowMs : Int} {fleetAcceptedRevision : Nat}
    {proofs : BTreeMap String AdmittedQuestWifiAdbTermuxProof}
    (ok : adapter.admitTermuxProof hub signed checkIn nowMs fleetAcceptedRevision = .ok proofs) :
    ProofsAdmitted adapter hub nowMs proofs := by
  rcases admitTermuxProof_cases ok with ⟨deviceId, rfl⟩ | ⟨proof, binding, _, selected, _, result⟩
  · exact .dropped fun _ _ stored => unexpired_stored stored
  · have holds : (adapter.admittedProof signed checkIn nowMs fleetAcceptedRevision binding proof).admission =
        some _ := rfl
    exact .added _ _ _ binding (fun _ _ stored => unexpired_stored stored) result rfl holds selected rfl rfl

theorem binding_undisturbed (kept : DatesKept fleet applied) {deviceId : String} {identityRevision : Nat}
    {admittedAtMs : Int} {binding : QuestWifiAdbProofOperationBinding}
    (selected : fleet.hub.bindTermuxProofToExactOwnerReceipt deviceId identityRevision admittedAtMs =
      some binding)
    {operation : QuestWifiAdbOperation}
    (found : fleet.hub.wifiAdbOperations[binding.operationId]? = some operation)
    {target : QuestWifiAdbTarget} (member : target ∈ operation.targets) (device : target.deviceId = deviceId)
    (identity : target.identityRevision = identityRevision)
    (dated : binding.receiptUpdatedAtMs = target.updatedAtMs) {receipt : QuestWifiAdbOwnerReceipt}
    (received : target.receipt = some receipt) : Undisturbed applied receipt := by
  obtain ⟨boundOperation, boundTarget, bound⟩ := selected_bound selected
  obtain ⟨boundId, stored⟩ := (BTreeMap.mem_storedValues_iff _ _).mp bound.stored
  have sameOperation : boundOperation = operation := by
    have named := (kept.ledger boundId boundOperation stored).named
    rw [bound.named, named, stored] at found
    exact Option.some.inj found
  subst sameOperation
  intro first firstly event inLog disables
  by_contra late
  have later := not_lt.mp late
  have carried := ((kept.ledger boundId boundOperation stored).targets target member).received receipt received
  have stamped := kept.requested boundId boundOperation stored bound.requests target member receipt received
    first firstly event inLog disables later
  obtain ⟨disable, disabled, trace⟩ := kept.traced event inLog
  have action := trace.action.trans disables.1
  obtain ⟨newest, newestFound, newer⟩ := le_newestDisable trace.stored action trace.member
    (trace.effective disables.1 disables.2.1)
  have sameDevice : disabled.deviceId = deviceId := by
    rw [trace.device, disables.2.2.1, carried.2.2.2.1, device]
  have sameIdentity : disabled.identityRevision = identityRevision := by
    rw [trace.identity, disables.2.2.2, carried.2.2.2.2.1, identity]
  have undisabled := bound.undisabled
  rw [← sameDevice, ← sameIdentity, newestFound] at undisabled
  have older : newest < boundTarget.updatedAtMs := by simpa using undisabled
  have ordered := trace.dated (.inr action)
  have agree := bound.dated.symm.trans dated
  omega

theorem proofs_keep_dates [FleetEnvironment] (kept : DatesKept fleet applied) {hub : FleetHub} {adapter : FleetManifoldAdapter}
    {nowMs : Int} (ledger : hub.wifiAdbOperations = fleet.hub.wifiAdbOperations)
    (admitted : ProofsAdmitted fleet.adapter hub nowMs adapter.termuxProofs) :
    DatesKept ⟨hub, adapter⟩ applied := by
  cases admitted with
  | dropped fewer => exact fewer_proofs_keep_dates kept ledger fewer
  | added others admitted admission binding fewer result accepted holds selected operation dated =>
    have before : DatesKept ⟨hub, { adapter with termuxProofs := others }⟩ applied :=
      fewer_proofs_keep_dates kept ledger fewer
    have old_or_new : ∀ (proofId : String) stored, adapter.termuxProofs[proofId]? = some stored →
        others[proofId]? = some stored ∨ (proofId = admitted.proof.proofId ∧ stored = admitted) := by
      intro proofId stored found
      rw [result] at found
      by_cases same : proofId = admitted.proof.proofId
      · subst same
        rw [BTreeMap.lookup_insert_self] at found
        exact .inr ⟨rfl, (Option.some.inj found).symm⟩
      · rw [BTreeMap.lookup_insert_of_ne _ _ same] at found
        exact .inl found
    refine ⟨before.ledger, before.traced, before.recorded, before.requested, ?_, ?_, ?_⟩
    · intro proofId stored found
      rcases old_or_new proofId stored found with earlier | ⟨same, rfl⟩
      · exact before.keyed proofId stored earlier
      · exact same
    · intro proofId stored found
      rcases old_or_new proofId stored found with earlier | ⟨same, rfl⟩
      · exact before.bound proofId stored earlier
      · intro held heldBy
        rw [holds] at heldBy
        obtain rfl := Option.some.inj heldBy
        obtain ⟨boundOperation, boundTarget, bound⟩ := selected_bound selected
        obtain ⟨boundId, known⟩ := (BTreeMap.mem_storedValues_iff _ _).mp bound.stored
        refine ⟨boundOperation, ?_, bound.requests⟩
        rw [operation, bound.named, (before.ledger boundId boundOperation known).named]
        exact known
    · intro proofId stored found
      rcases old_or_new proofId stored found with earlier | ⟨same, rfl⟩
      · exact before.proven proofId stored earlier
      · intro held heldBy known knownStored target member device identity binds receipt received first firstly
          event inLog disables later
        rw [holds] at heldBy
        obtain rfl := Option.some.inj heldBy
        obtain ⟨_, _, _, _, _, stamped⟩ := binds
        rw [operation] at knownStored
        have clear := binding_undisturbed before selected knownStored member device identity
          (dated.symm.trans stamped) received
        exact absurd (clear first firstly event inLog disables) (not_lt.mpr later)

end CheckIns

end RustyFleet.WifiSafety

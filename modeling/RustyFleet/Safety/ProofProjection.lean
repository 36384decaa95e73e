import RustyFleet.Safety.AdapterLedger
import RustyFleet.Safety.OwnerAtomicity
import RustyFleet.Safety.TermuxUsability

namespace RustyFleet.WifiSafety

open ManifoldEnvironment FleetManifoldAdapter

section Identifiers

theorem identifierBody_portable {c : Char} (body : isIdentifierBody c = true) : isOwnerPortableByte c = true := by
  simp only [isIdentifierBody, isIdentifierEdge, Bool.or_eq_true] at body
  simp only [isOwnerPortableByte, asciiAlphanumeric, Bool.or_eq_true]
  tauto

theorem dotted_portable {value path : String} (dotted : requireDottedId value path = []) :
    isOwnerPortableId value 256 = true := by
  have nonempty := Sessions.dotted_nonempty dotted
  simp only [requireDottedId, List.append_eq_nil_iff, violationIf_nil, not_or, not_not] at dotted
  obtain ⟨_, short, segments⟩ := dotted
  simp only [maxCheckinIdentifierBytes] at short
  simp only [isOwnerPortableId, Bool.and_eq_true, decide_eq_true_eq]
  refine ⟨⟨?_, by omega⟩, ?_⟩
  · by_contra empty
    have size : value.utf8ByteSize = 0 := by omega
    exact nonempty (String.utf8ByteSize_eq_zero_iff.mp size)
  · apply List.all_eq_true.mpr
    intro c member
    rcases mem_splitSegments '.' member with rfl | ⟨segment, listed, inside⟩
    · decide
    · have dottedSegment := List.all_eq_true.mp segments segment listed
      simp only [isDottedSegment, Bool.and_eq_true] at dottedSegment
      exact identifierBody_portable (List.all_eq_true.mp dottedSegment.2 c inside)

end Identifiers

section Proofs

/-- What the projection relies on in the Manifold and hashing crates. -/
structure ProjectionLaws [FleetEnvironment] : Prop where
  digest : ∀ bytes, isLowerSha256 (sha256Hex bytes) = true
  emptyEnrollment : Sessions.EnrollmentSound emptyEnrollment
  enrollment : ∀ enrollment request operators nowMs, Sessions.EnrollmentSound enrollment →
    Sessions.EnrollmentSound (reviewAndApplyPeerEnrollment enrollment request operators nowMs).1

structure ProofFits [Sha256Hex] (admitted : AdmittedQuestWifiAdbTermuxProof) : Prop where
  proof : Valid admitted.proof
  admission : ∀ base ∈ admitted.admission, ∀ target : QuestWifiAdbTarget,
    target.deviceId = admitted.proof.deviceId → target.identityRevision = admitted.proof.identityRevision →
      Valid (projectedAdmission target admitted base)

theorem proof_facts {proof : QuestWifiAdbTermuxProof} (valid : Valid proof) :
    proof.identityRevision ≠ 0 ∧ proof.sourceRevision ≠ 0 ∧ proof.evidenceRevision ≠ 0 ∧
      isOwnerPortableId proof.sourceEpoch 256 = true ∧ proof.routeMode = .modernTls ∧
      isOwnerPortableId proof.proofId 256 = true ∧ isOwnerPortableId proof.deviceId 256 = true := by
  simp only [Valid, violations, List.append_eq_nil_iff, violationIf_nil, List.flatMap_eq_nil_iff,
    List.forall_mem_cons, not_or, not_not] at valid
  obtain ⟨⟨_, _, identity, source, evidence, _, _, _, _, epoch, route, _⟩, proofId, deviceId, _⟩ := valid
  exact ⟨identity, source, evidence, epoch, route, proofId, deviceId⟩

theorem receipt_portable {receipt : QuestWifiAdbOwnerReceipt} (valid : Valid receipt) :
    isOwnerPortableId receipt.requestId 256 = true ∧ isOwnerPortableId receipt.operationId 256 = true ∧
      isLowerSha256 receipt.evidenceSha256 = true := by
  simp only [Valid, violations, List.append_eq_nil_iff, violationIf_nil, List.flatMap_eq_nil_iff,
    List.forall_mem_cons, not_or, not_not] at valid
  obtain ⟨⟨⟨⟨⟨⟨_, request, operation, _⟩, evidence⟩, _⟩, _⟩, _⟩, _⟩ := valid
  exact ⟨request, operation, evidence.1⟩

variable [FleetEnvironment] {adapter : FleetManifoldAdapter} {hub : FleetHub} {signed : SignedFleetCheckIn}
  {checkIn : AuthenticatedCheckIn} {nowMs : Int}

theorem admitted_proof_fits (laws : ProjectionLaws) (enrolled : Sessions.EnrollmentSound adapter.enrollment)
    (valid : Valid signed) (authenticated : adapter.authenticate signed nowMs = .ok checkIn)
    (begun : signed.claims.issuedAtMs ≤ nowMs) (current : nowMs < signed.claims.expiresAtMs)
    {proof : QuestWifiAdbTermuxProof} {existing : BTreeMap String AdmittedQuestWifiAdbTermuxProof}
    (signedFor : validSignedTermuxProof signed proof nowMs existing)
    (ledger : OwnerSafety.LedgerSound questWifiAdbHub hub.wifiAdbOperations)
    {binding : QuestWifiAdbProofOperationBinding}
    (selected : hub.bindTermuxProofToExactOwnerReceipt proof.deviceId proof.identityRevision nowMs = some binding)
    {resultRevision : Nat} (accepted : resultRevision ≠ 0) :
    ProofFits (adapter.admittedProof signed checkIn nowMs resultRevision binding proof) := by
  obtain ⟨present, listed, named, stripped⟩ := Sessions.authenticate_credential authenticated
  have credential := enrolled.credentials _ listed
  obtain ⟨issued, _, lifetime, _⟩ := signed_valid_facts signed valid
  obtain ⟨receipt, received, operation, request, evidence⟩ := Sessions.selected_receipt ledger selected
  have bound := receipt_portable received
  have own := proof_facts signedFor.2.1
  obtain ⟨keyId, checkinId⟩ : isOwnerPortableId signed.keyId 256 = true ∧
      isOwnerPortableId signed.claims.checkinId 256 = true := by
    simp only [Valid, violations, List.append_eq_nil_iff] at valid
    exact ⟨dotted_portable valid.1.1.1.2, dotted_portable valid.2.1.1.1.1.1.1.1.1.2⟩
  refine ⟨signedFor.2.1, ?_⟩
  rintro base ⟨⟩ target device identity
  have sameDevice : target.deviceId = proof.deviceId := device
  have sameIdentity : target.identityRevision = proof.identityRevision := identity
  have advanced : saturatingSucc adapter.acceptedPeers.authorityRevision ≠ 0 := by
    simp only [saturatingSucc, u64Max]
    omega
  show (_ ++ _ : List ContractViolation) = []
  simp only [List.append_eq_nil_iff, violationIf_nil, List.flatMap_eq_nil_iff, List.forall_mem_cons, not_or, not_not,
    List.not_mem_nil, false_implies, implies_true, and_true]
  obtain ⟨identified, sourced, evidenced, epoch, _, proofId, deviceId⟩ := own
  rw [← sameIdentity] at identified
  rw [← sameDevice] at deviceId
  rw [← named] at keyId
  rw [← operation, ← request, ← evidence] at bound
  simp only [maxCheckinTtlMs] at lifetime
  have short : ¬ signed.claims.expiresAtMs - nowMs > 300000 := by omega
  refine ⟨⟨⟨rfl, identified, sourced, evidenced, credential.generation, accepted, enrolled.revision, advanced, rfl,
    rfl, rfl, Int.not_lt.mpr present, Int.not_le.mpr current, short, ?_⟩, checkinId, bound.2.1, deviceId, epoch,
    proofId, bound.1, keyId⟩, bound.2.2, credential.digest _ stripped, laws.digest _, laws.digest _,
    laws.digest _, laws.digest _⟩
  -- the lineage digest does not cover the field that holds it
  rfl

end Proofs

section Projection

def KnownTargets (hub : FleetHub) : Prop :=
  ∀ (operationId : String) operation, hub.wifiAdbOperations[operationId]? = some operation →
    ∀ preflight ∈ operation.preview.targets, ∃ record, hub.devices[preflight.deviceId]? = some record

structure FleetProjectable [FleetEnvironment] (fleet : Fleet) : Prop where
  keyed : DirectoryKeyed fleet.hub
  ledger : OwnerSafety.ValidLedger questWifiAdbHub fleet.hub.wifiAdbOperations
  known : KnownTargets fleet.hub
  enrollment : Sessions.EnrollmentSound fleet.adapter.enrollment
  proofs : ∀ (proofId : String) admitted, fleet.adapter.termuxProofs[proofId]? = some admitted → ProofFits admitted
  bound : ∀ (proofId : String) admitted, fleet.adapter.termuxProofs[proofId]? = some admitted →
    ∀ base ∈ admitted.admission, ∃ operation,
      fleet.hub.wifiAdbOperations[base.boundOperationId]? = some operation ∧
        operation.preview.action = .requestWirelessAdb

variable [FleetEnvironment] {fleet : Fleet} {operationId : String} {operation : QuestWifiAdbOperation} {nowMs : Int}

theorem projectTargets_total (operation : QuestWifiAdbOperation) (nowMs : Int) (targets : List QuestWifiAdbTarget)
    (known : ∀ target ∈ targets, ∃ record, fleet.hub.devices[target.deviceId]? = some record)
    (updatedAtMs : Int) :
    ∃ projected last, projectTargets fleet.adapter fleet.hub operation nowMs targets updatedAtMs =
      .ok (projected, last) ∧ updatedAtMs ≤ last := by
  induction targets generalizing updatedAtMs with
  | nil => exact ⟨[], updatedAtMs, rfl, Int.le_refl _⟩
  | cons target rest ih =>
    obtain ⟨record, stored⟩ := known target List.mem_cons_self
    have later := ih fun other member => known other (List.mem_cons_of_mem _ member)
    obtain ⟨projection, found, _⟩ := FleetHub.inspect_stored nowMs stored
    have read : hubText (fleet.hub.inspect target.deviceId nowMs) = .ok projection := by
      rw [found]
      rfl
    cases chosen : selectedProof fleet.adapter fleet.hub operation.operationId target projection.row.sourceEpoch with
    | none =>
      obtain ⟨projected, last, ended, newer⟩ := later updatedAtMs
      refine ⟨target :: projected, last, ?_, newer⟩
      simp only [projectTargets, read, bind, Except.bind, chosen, ended]
      rfl
    | some admitted =>
      obtain ⟨projected, last, ended, newer⟩ := later (max updatedAtMs admitted.acceptedAtMs)
      refine ⟨projectedTarget fleet.hub operation nowMs target admitted :: projected, last, ?_, ?_⟩
      · simp only [projectTargets, read, bind, Except.bind, chosen, ended]
        rfl
      · exact Int.le_trans (Int.le_max_left _ _) newer

omit [FleetEnvironment] in
theorem request_route {receipt : QuestWifiAdbOwnerReceipt} (valid : Valid receipt)
    (requests : receipt.action = .requestWirelessAdb) : receipt.routeMode = .modernTls := by
  have parts : (_ ++ _ : List ContractViolation) = [] := valid
  simp only [List.append_eq_nil_iff, violationIf_nil] at parts
  by_contra other
  exact parts.1.1.2 ⟨requests, other⟩

omit [FleetEnvironment] in
theorem selected_stored {adapter : FleetManifoldAdapter} {hub : FleetHub} {target : QuestWifiAdbTarget}
    {epoch : String} {admitted : AdmittedQuestWifiAdbTermuxProof}
    (selected : selectedProof adapter hub operationId target epoch = some admitted) :
    (∃ proofId : String, adapter.termuxProofs[proofId]? = some admitted) ∧
      projectsProof hub operationId target epoch admitted := by
  have listed := maxByKey_mem selected
  obtain ⟨held, fits⟩ := List.mem_filter.mp listed
  exact ⟨(BTreeMap.mem_storedValues_iff _ _).mp held, by simpa using fits⟩

theorem shown_evidence_valid {target : QuestWifiAdbTarget} {admitted : AdmittedQuestWifiAdbTermuxProof}
    {base : AdmittedQuestWifiAdbTermuxAdmission} {receipt : QuestWifiAdbOwnerReceipt} (fits : ProofFits admitted)
    (admits : admitted.admission = some base) (device : admitted.proof.deviceId = target.deviceId)
    (identity : admitted.proof.identityRevision = target.identityRevision)
    (binds : admissionBindsReceipt operation.operationId target base) (received : target.receipt = some receipt)
    (route : receipt.routeMode = .modernTls) :
    termuxEvidenceViolations operation.operationId target.deviceId target.identityRevision target.receipt
      (projectedTarget fleet.hub operation nowMs target admitted).evidence = [] := by
  obtain ⟨named, bound, boundReceived, request, evidence, _⟩ := binds
  obtain rfl : bound = receipt := by
    have same : target.receipt = some bound := boundReceived
    rw [received] at same
    exact (Option.some.inj same).symm
  have shows : shownAdmission target admitted = some (projectedAdmission target admitted base) := by
    simp only [shownAdmission, admits, received]
  have proof : termuxProofBound target.deviceId target.identityRevision target.receipt admitted.proof := by
    refine ⟨fits.proof, device, identity, ?_⟩
    rw [received, Option.map_some, route, (proof_facts fits.proof).2.2.2.2.1]
  have admission : termuxAdmissionBound operation.operationId target.deviceId target.identityRevision
      target.receipt (some admitted.proof) (projectedAdmission target admitted base) :=
    ⟨fits.admission base admits target device.symm identity.symm, named, rfl, rfl,
      ⟨admitted.proof, rfl, rfl, rfl, rfl, rfl⟩, bound, received, request, evidence⟩
  simp only [termuxEvidenceViolations, List.append_eq_nil_iff, violationIf_nil]
  refine ⟨⟨?_, ?_⟩, ?_⟩
  · rintro ⟨shown, ⟨⟩, unbound⟩
    exact unbound proof
  · rintro ⟨shown, holds, unbound⟩
    have same : shownAdmission target admitted = some shown := holds
    rw [shows] at same
    cases same
    exact unbound admission
  · rintro ⟨usable, unavailable | absent⟩
    · simp only [projectedTarget, Bool.and_eq_true] at usable
      exact unavailable usable.1.1.1.1.1
    · have none : shownAdmission target admitted = none := absent
      rw [shows] at none
      cases none

theorem projected_target_valid (sound : FleetProjectable fleet)
    (stored : fleet.hub.wifiAdbOperations[operationId]? = some operation) {target projected : QuestWifiAdbTarget}
    (member : target ∈ operation.targets)
    (shown : ProjectedFrom fleet.adapter fleet.hub operation nowMs target projected) :
    OwnerSafety.TargetValid questWifiAdbHub operation projected := by
  have valid := sound.ledger.valid operationId operation stored
  have own := valid.targets target member
  cases shown with
  | stored => exact own
  | proven record admitted known selected =>
    obtain ⟨⟨proofId, held⟩, device, identity, ⟨base, admits, _, named, receipt, received, request, evidence, stamped⟩, _⟩ :=
      selected_stored selected
    have fits := sound.proofs proofId admitted held
    have requests : operation.preview.action = .requestWirelessAdb := by
      obtain ⟨boundOperation, bound, requests⟩ := sound.bound proofId admitted held base admits
      have same := (sound.ledger.sound operationId operation stored).named
      rw [named, same, stored] at bound
      cases bound
      exact requests
    have bound := own.receipt receipt received
    have route := request_route bound.1 (bound.2.2.2.2.2.1.trans requests)
    have dated : operation.preview.createdAtMs ≤ max target.updatedAtMs admitted.acceptedAtMs :=
      Int.le_trans own.dated (Int.le_max_left _ _)
    refine ⟨own.frozen, dated, own.invocation, own.receipt, own.applied, ?_⟩
    exact shown_evidence_valid fits admits device identity ⟨named, receipt, received, request, evidence, stamped⟩
      received route

def TargetShown (target shown : QuestWifiAdbTarget) : Prop :=
  shown = { target with evidence := shown.evidence, updatedAtMs := shown.updatedAtMs } ∧
    target.updatedAtMs ≤ shown.updatedAtMs

structure ShownHarmlessly (operation shown : QuestWifiAdbOperation) : Prop where
  valid : Valid shown
  same : shown = { operation with targets := shown.targets, updatedAtMs := shown.updatedAtMs }
  dated : operation.updatedAtMs ≤ shown.updatedAtMs
  targets : List.Forall₂ TargetShown operation.targets shown.targets

omit [FleetEnvironment] in
theorem projected_target_shown [Sha256Hex] {adapter : FleetManifoldAdapter} {hub : FleetHub}
    {target projected : QuestWifiAdbTarget} (shown : ProjectedFrom adapter hub operation nowMs target projected) :
    TargetShown target projected := by
  cases shown with
  | stored => exact ⟨rfl, Int.le_refl _⟩
  | proven record admitted known selected => exact ⟨rfl, Int.le_max_left _ _⟩

theorem questWifiAdbOperation_shown (sound : FleetProjectable fleet)
    (stored : fleet.hub.wifiAdbOperations[operationId]? = some operation) (nowMs : Int) :
    ∃ shown, fleet.adapter.questWifiAdbOperation fleet.hub operationId nowMs = .ok shown ∧
      ShownHarmlessly operation shown := by
  have valid := sound.ledger.valid operationId operation stored
  have known : ∀ target ∈ operation.targets, ∃ record, fleet.hub.devices[target.deviceId]? = some record := by
    intro target member
    obtain ⟨preflight, found, _⟩ := (valid.targets target member).frozen
    obtain ⟨record, recorded⟩ := sound.known operationId operation stored preflight (List.mem_of_find?_eq_some found)
    have same : preflight.deviceId = target.deviceId := by simpa using List.find?_some found
    rw [same] at recorded
    exact ⟨record, recorded⟩
  obtain ⟨targets, last, projected, later⟩ :=
    projectTargets_total operation nowMs operation.targets known operation.updatedAtMs
  have origins := projectTargets_from projected
  have accepted : OwnerSafety.OperationValid questWifiAdbHub
      { operation with targets := targets, updatedAtMs := last } := by
    refine ⟨valid.schema, valid.named, valid.action, Int.le_trans valid.dated later, valid.preview, ?_, ?_⟩
    · exact origins.length_eq.symm.trans valid.counted
    · intro shown member
      obtain ⟨target, listed, origin⟩ := Support.forall₂_right origins shown member
      exact (projected_target_valid sound stored listed origin).congr rfl rfl
  have clear : Valid ({ operation with targets := targets, updatedAtMs := last } : QuestWifiAdbOperation) :=
    (OwnerSafety.operationViolations_nil_iff _).mpr accepted
  refine ⟨{ operation with targets := targets, updatedAtMs := last }, ?_, clear, rfl, later, ?_⟩
  · simp only [questWifiAdbOperation, OwnerHub.operation, stored, exceptBind_ok]
    refine ⟨operation, rfl, ⟨targets, last⟩, projected, ?_⟩
    rw [validate_of_valid clear]
    rfl
  · exact origins.imp fun _ _ origin => projected_target_shown origin

theorem questWifiAdbOperations_shown (sound : FleetProjectable fleet) (nowMs : Int) :
    ∃ shown, fleet.adapter.questWifiAdbOperations fleet.hub nowMs = .ok shown ∧
      List.Forall₂ ShownHarmlessly fleet.hub.questWifiAdbOperations shown := by
  have each : ∀ operation ∈ fleet.hub.questWifiAdbOperations, ∃ shown,
      fleet.adapter.questWifiAdbOperation fleet.hub operation.operationId nowMs = .ok shown ∧
        ShownHarmlessly operation shown := by
    intro operation member
    obtain ⟨operationId, stored⟩ := (BTreeMap.mem_storedValues_iff _ _).mp member
    have named := (sound.ledger.sound operationId operation stored).named
    rw [named]
    exact questWifiAdbOperation_shown sound stored nowMs
  unfold questWifiAdbOperations
  generalize fleet.hub.questWifiAdbOperations = operations at each
  induction operations with
  | nil => exact ⟨[], rfl, .nil⟩
  | cons first rest ih =>
    obtain ⟨shown, answered, harmless⟩ := each first List.mem_cons_self
    obtain ⟨later, ended, others⟩ := ih fun operation member => each operation (List.mem_cons_of_mem _ member)
    refine ⟨shown :: later, ?_, .cons harmless others⟩
    rw [List.mapM_cons, answered]
    simp only [exceptBind_ok]
    exact ⟨shown, rfl, later, ended, rfl⟩

end Projection

section Steps

theorem callEdit_preview {Action Policy Generation Binding Receipt Evidence : Type} [DecidableEq Action]
    [DecidableEq Policy] [DecidableEq Binding] [ValidateContract Receipt]
    {owner : OwnerHub Action Policy Generation Binding Receipt Evidence} {hub : FleetHub} {operations : owner.Stored}
    (keyed : DirectoryKeyed hub) {call : OwnerCall Action Policy Generation Receipt} {next : owner.Operation}
    (ok : owner.callEdit hub operations call = .ok (.rewritten next)) :
    (∃ operation, operations[owner.callOperation call]? = some operation ∧ next.preview = operation.preview) ∨
      (operations[owner.callOperation call]? = none ∧
        ∀ preflight ∈ next.preview.targets, ∃ record, hub.devices[preflight.deviceId]? = some record) := by
  cases call with
  | preview plan =>
    have ok : owner.previewEdit hub operations plan = .ok (.rewritten next) := ok
    simp only [OwnerHub.previewEdit, exceptBind_ok, errorIf_ok] at ok
    obtain ⟨_, _, ok⟩ := ok
    cases stored : operations[plan.operationId]? with
    | some existing =>
      simp only [stored, exceptBind_ok, errorIf_ok, exceptPure_ok] at ok
      obtain ⟨_, _, same⟩ := ok
      cases same
    | none =>
      simp only [stored, exceptBind_ok, errorIf_ok, exceptPure_ok] at ok
      obtain ⟨preflights, frozen, _, _, _, _, same⟩ := ok
      cases same
      refine .inr ⟨stored, ?_⟩
      exact requestedPreflights_recorded keyed owner.targetTexts _
        (fun deviceId record current judged => (OwnerSafety.preflight_describes record _ _ judged).1) _ preflights frozen
  | confirm operationId previewId nowMs =>
    obtain ⟨operation, checks, rfl⟩ := OwnerSafety.confirmEdit_iff.mp ok
    exact .inl ⟨operation, checks.stored, rfl⟩
  | prepare operationId deviceId requestId expected nowMs =>
    obtain ⟨operation, target, generation, checks, rfl⟩ := OwnerSafety.prepareEdit_iff.mp ok
    exact .inl ⟨operation, checks.stored, rfl⟩
  | dispatched operationId deviceId nowMs =>
    obtain ⟨operation, target, checks, rfl⟩ := OwnerSafety.dispatchedEdit_iff.mp ok
    exact .inl ⟨operation, checks.stored, rfl⟩
  | receipt receipt nowMs =>
    obtain ⟨operation, target, invocation, checks, rfl⟩ := OwnerSafety.receiptEdit_iff.mp ok
    exact .inl ⟨operation, checks.stored, rfl⟩
  | fail operationId deviceId code nowMs =>
    obtain ⟨operation, target, checks, rfl⟩ := OwnerSafety.failEdit_iff.mp ok
    exact .inl ⟨operation, checks.stored, rfl⟩

variable [FleetEnvironment] {fleet : Fleet}

theorem frame_keeps_projectable (sound : FleetProjectable fleet) {hub : FleetHub} {adapter : FleetManifoldAdapter}
    (ledger : hub.wifiAdbOperations = fleet.hub.wifiAdbOperations) (keyed : DirectoryKeyed hub)
    (devices : ∀ (deviceId : String) record, fleet.hub.devices[deviceId]? = some record →
      ∃ later, hub.devices[deviceId]? = some later)
    (enrollment : Sessions.EnrollmentSound adapter.enrollment)
    (fewer : ∀ (proofId : String) admitted, adapter.termuxProofs[proofId]? = some admitted →
      fleet.adapter.termuxProofs[proofId]? = some admitted) : FleetProjectable ⟨hub, adapter⟩ := by
  refine ⟨keyed, ?_, ?_, enrollment, ?_, ?_⟩
  · show OwnerSafety.ValidLedger questWifiAdbHub hub.wifiAdbOperations
    rw [ledger]
    exact sound.ledger
  · intro operationId operation stored preflight member
    have held : fleet.hub.wifiAdbOperations[operationId]? = some operation := by
      rw [← ledger]
      exact stored
    obtain ⟨record, recorded⟩ := sound.known operationId operation held preflight member
    exact devices preflight.deviceId record recorded
  · exact fun proofId admitted stored => sound.proofs proofId admitted (fewer proofId admitted stored)
  · intro proofId admitted stored base admits
    obtain ⟨operation, held, requests⟩ := sound.bound proofId admitted (fewer proofId admitted stored) base admits
    refine ⟨operation, ?_, requests⟩
    show hub.wifiAdbOperations[base.boundOperationId]? = some operation
    rw [ledger]
    exact held

theorem wifiAdb_keeps_projectable (sound : FleetProjectable fleet) (call : WifiAdbCall)
    (kept : OwnerSafety.KeepsOwnerContract questWifiAdbHub fleet.hub fleet.hub.wifiAdbOperations call.owner) :
    FleetProjectable ⟨(fleet.hub.handleWifiAdb call).2, fleet.adapter⟩ := by
  have ledger := OwnerSafety.handleCall_valid OwnerSafety.wifiAdb_laws sound.keyed sound.ledger call.owner kept
  rw [FleetHub.handleWifiAdb_owner]
  generalize settled : (questWifiAdbHub.handleCall fleet.hub fleet.hub.wifiAdbOperations call.owner).2 = next at ledger
  rw [OwnerHub.handleCall] at settled
  rcases OwnerSafety.settle_cases fleet.hub.wifiAdbOperations (questWifiAdbHub.callOperation call.owner)
      (questWifiAdbHub.callEdit fleet.hub fleet.hub.wifiAdbOperations call.owner) with same | ⟨rewritten, edit, stores⟩
  · rw [same] at settled
    subst settled
    exact sound
  · rw [stores] at settled
    subst settled
    have preview := callEdit_preview sound.keyed edit
    refine ⟨sound.keyed, ledger, ?_, sound.enrollment, sound.proofs, ?_⟩
    · apply BTreeMap.insert_forall _ _ rewritten (fun _ operation => ∀ preflight ∈ operation.preview.targets,
        ∃ record, fleet.hub.devices[preflight.deviceId]? = some record) sound.known
      rcases preview with ⟨operation, stored, same⟩ | ⟨_, recorded⟩
      · rw [same]
        exact sound.known _ operation stored
      · exact recorded
    · intro proofId admitted held base admits
      obtain ⟨operation, stored, requests⟩ := sound.bound proofId admitted held base admits
      by_cases here : base.boundOperationId = questWifiAdbHub.callOperation call.owner
      · refine ⟨rewritten, ?_, ?_⟩
        · rw [here]
          exact BTreeMap.lookup_insert_self _ _ _
        · rw [here] at stored
          rcases preview with ⟨known, found, same⟩ | ⟨absent, _⟩
          · rw [stored] at found
            cases found
            rw [same]
            exact requests
          · rw [absent] at stored
            cases stored
      · exact ⟨operation, (BTreeMap.lookup_insert_of_ne _ _ here).trans stored, requests⟩

theorem checkIn_keeps_projectable (laws : ProjectionLaws) (sound : FleetProjectable fleet)
    (signed : SignedFleetCheckIn) (nowMs : Int) : FleetProjectable (fleet.handle (.checkIn signed nowMs)).1 := by
  have pruned : FleetProjectable ⟨fleet.hub, fleet.adapter.pruneSeenCheckins nowMs⟩ :=
    frame_keeps_projectable sound rfl sound.keyed (fun _ record stored => ⟨record, stored⟩) sound.enrollment
      fun _ _ stored => stored
  rcases CheckIns.accept_cases fleet.adapter fleet.hub signed nowMs with
    ⟨receipt, _, ended | ended⟩ | ⟨fault, ended, _⟩ |
    ⟨receipt, checkIn, resultRevision, candidate, state, termuxProofs, _, ended, valid, begun, current, commits⟩
  · simp only [Fleet.handle, ended]
    exact sound
  · simp only [Fleet.handle, ended]
    exact pruned
  · simp only [Fleet.handle, ended]
    exact pruned
  · simp only [Fleet.handle, ended]
    obtain ⟨deviceId, sourceRevision, observed⟩ := commits.observed
    have keyed := observation_keyed sound.keyed
      ((fleet.adapter.pruneSeenCheckins nowMs).acceptedObservation fleet.hub signed nowMs) nowMs
    have known := fun device record => @observation_keeps_known _ fleet.hub
      ((fleet.adapter.pruneSeenCheckins nowMs).acceptedObservation fleet.hub signed nowMs) nowMs device record
    obtain ⟨_, _, _, _, frame⟩ := fleet.hub.observation_frame
      ((fleet.adapter.pruneSeenCheckins nowMs).acceptedObservation fleet.hub signed nowMs) nowMs
    have ledger := congrArg FleetHub.wifiAdbOperations frame
    rw [observed] at keyed known ledger
    rcases admitTermuxProof_cases commits.proofs with
      ⟨_, rfl⟩ | ⟨proof, binding, signedFor, selected, _, rfl⟩
    · exact frame_keeps_projectable pruned ledger keyed known sound.enrollment
        fun _ _ stored => unexpired_stored stored
    · have others : FleetProjectable ⟨candidate, { fleet.adapter with
          termuxProofs := withoutDevice ((fleet.adapter.pruneSeenCheckins nowMs).unexpiredTermuxProofs nowMs)
            proof.deviceId }⟩ :=
        frame_keeps_projectable pruned ledger keyed known sound.enrollment
          fun _ _ stored => unexpired_stored stored
      refine ⟨keyed, others.ledger, others.known, sound.enrollment, ?_, ?_⟩
      · apply BTreeMap.insert_forall _ _ _ (fun _ admitted => ProofFits admitted) others.proofs
        exact admitted_proof_fits laws sound.enrollment valid commits.authenticated begun current signedFor
          others.ledger.sound selected (Sessions.accepted_revision_positive observed)
      · apply BTreeMap.insert_forall _ _ _ (fun _ (admitted : AdmittedQuestWifiAdbTermuxProof) =>
          ∀ base ∈ admitted.admission, ∃ operation, candidate.wifiAdbOperations[base.boundOperationId]? =
            some operation ∧ operation.preview.action = .requestWirelessAdb) others.bound
        rintro base ⟨⟩
        obtain ⟨operation, target, bound⟩ := selected_bound selected
        obtain ⟨operationId, stored⟩ := (BTreeMap.mem_storedValues_iff _ _).mp bound.stored
        refine ⟨operation, ?_, bound.requests⟩
        have named := (others.ledger.sound operationId operation stored).named
        show candidate.wifiAdbOperations[binding.operationId]? = some operation
        rw [bound.named, named]
        exact stored

/-- Wi-Fi ADB calls keep the contract and a session restore reads the adapter's own snapshot. -/
def KeepsProjection (fleet : Fleet) : FleetCall → Prop
  | .hub (.wifiAdb call) =>
    OwnerSafety.KeepsOwnerContract questWifiAdbHub fleet.hub fleet.hub.wifiAdbOperations call.owner
  | .restoreSession snapshot _ => snapshot = fleet.adapter.snapshot
  | _ => True

theorem call_keeps_projectable (laws : ProjectionLaws) (sound : FleetProjectable fleet) (call : FleetCall)
    (kept : KeepsProjection fleet call) : FleetProjectable (fleet.handle call).1 := by
  cases call with
  | checkIn signed nowMs => exact checkIn_keeps_projectable laws sound signed nowMs
  | hub call =>
    by_cases own : ∃ wifiCall, call = .wifiAdb wifiCall
    · obtain ⟨wifiCall, rfl⟩ := own
      exact wifiAdb_keeps_projectable sound wifiCall kept
    · have ledger := (fleet.hub.handle_leaves_others call).wifiAdb fun wifiCall same => own ⟨wifiCall, same⟩
      exact frame_keeps_projectable sound ledger (call_keyed sound.keyed call)
        (fun _ _ stored => call_keeps_known call stored) sound.enrollment fun _ _ stored => stored
  | enroll request nowMs =>
    exact frame_keeps_projectable sound rfl sound.keyed (fun _ record stored => ⟨record, stored⟩)
      (laws.enrollment _ _ _ _ sound.enrollment) fun _ _ stored => stored
  | restoreSession snapshot nowMs =>
    have own : snapshot = fleet.adapter.snapshot := kept
    subst own
    simp only [Fleet.handle, sessionRestored]
    split
    · exact sound
    · rename_i restored ok
      obtain ⟨enrollment, _, _, proofs, _⟩ := fleet.adapter.restoreSession_ok ok
      refine frame_keeps_projectable sound rfl sound.keyed (fun _ record stored => ⟨record, stored⟩) ?_ ?_
      · rw [enrollment]
        exact sound.enrollment
      · intro proofId admitted stored
        rw [proofs] at stored
        exact ((BTreeMap.lookup_filter_iff _ _ _ _).mp stored).1

theorem projectable_start (laws : ProjectionLaws) (policy : AssertedPolicy) (trustedOperatorIds : List String) :
    FleetProjectable ⟨.new policy, .new trustedOperatorIds⟩ where
  keyed := directoryKeyed_new policy
  ledger := OwnerSafety.validLedger_empty
  known := by
    intro operationId operation stored
    simp [FleetHub.new] at stored
  enrollment := laws.emptyEnrollment
  proofs := by
    intro proofId admitted stored
    simp [FleetManifoldAdapter.new] at stored
  bound := by
    intro proofId admitted stored
    simp [FleetManifoldAdapter.new] at stored

end Steps

/-- The Wi-Fi ADB projection is total, and harmless to what it shows. -/
structure ProjectionTotal [FleetEnvironment] (fleet : Fleet) : Prop where
  operation : ∀ (operationId : String) operation, fleet.hub.wifiAdbOperations[operationId]? = some operation →
    ∀ nowMs, ∃ shown, fleet.adapter.questWifiAdbOperation fleet.hub operationId nowMs = .ok shown ∧
      ShownHarmlessly operation shown
  operations : ∀ nowMs, ∃ shown, fleet.adapter.questWifiAdbOperations fleet.hub nowMs = .ok shown ∧
    List.Forall₂ ShownHarmlessly fleet.hub.questWifiAdbOperations shown

/-- In every run whose Wi-Fi ADB calls keep the contract, every stored operation is shown at every time. -/
theorem wifi_adb_projection_total [FleetEnvironment] (laws : ProjectionLaws) (policy : AssertedPolicy)
    (trustedOperatorIds : List String) (calls : List FleetCall)
    (kept : fleetMachine.Admits KeepsProjection ⟨.new policy, .new trustedOperatorIds⟩ calls) :
    ProjectionTotal (fleetMachine.run ⟨.new policy, .new trustedOperatorIds⟩ calls) := by
  have sound : FleetProjectable (fleetMachine.run ⟨.new policy, .new trustedOperatorIds⟩ calls) :=
    fleetMachine.run_invariant KeepsProjection FleetProjectable
      (fun fleet call allowed held => call_keeps_projectable laws held call allowed) _ calls kept
      (projectable_start laws policy trustedOperatorIds)
  constructor
  · intro operationId operation stored nowMs
    exact questWifiAdbOperation_shown sound stored nowMs
  · exact questWifiAdbOperations_shown sound

section Samples

open CheckIns PackageSafety

@[reducible] def projectionEnvironment : FleetEnvironment :=
  { termuxEnvironment with
    emptyEnrollment := { authorityRevision := 1, credentials := [] }
    reviewAndApplyPeerEnrollment := fun enrollment deviceId _ _ =>
      ({ authorityRevision := enrollment.authorityRevision + 1
         credentials := [{ sampleCredential deviceId with publicKeySha256 := "sha256:" ++ sampleHex }] }, "") }

theorem projection_laws : @ProjectionLaws projectionEnvironment := by
  have digest : isLowerSha256 sampleHex = true := by decide
  apply @ProjectionLaws.mk projectionEnvironment
  case digest => exact fun _ => digest
  case emptyEnrollment =>
    refine ⟨Nat.one_ne_zero, ?_⟩
    intro credential listed
    cases listed
  case enrollment =>
    intro enrollment request operators nowMs sound
    refine ⟨Nat.succ_ne_zero _, ?_⟩
    intro credential listed
    rw [List.mem_singleton.mp listed]
    refine ⟨Nat.one_ne_zero, ?_⟩
    intro text stripped
    have own : stripPrefix "sha256:" ("sha256:" ++ sampleHex) = some sampleHex := by decide
    rw [own] at stripped
    cases stripped
    exact digest

def projectionMachine : Machine Fleet FleetCall FleetAnswer := @fleetMachine projectionEnvironment

def projectionStart : Fleet :=
  ⟨.new samplePolicy, @FleetManifoldAdapter.new projectionEnvironment.toManifoldEnvironment []⟩

def previewedCalls : List FleetCall :=
  [.enroll "d1" 500, firstCheckIn, wifiHub (.preview (wifiPlan "op-1" .requestWirelessAdb))]

def confirmedCalls : List FleetCall := previewedCalls ++ [wifiHub (.confirm "op-1" "preview-1" 1002)]

def preparedCalls : List FleetCall := confirmedCalls ++ [wifiHub (.prepare "op-1" "d1" "ask-1" 1003)]

def dispatchedCalls : List FleetCall := preparedCalls ++ [wifiHub (.dispatched "op-1" "d1" 1004)]

def provenCalls : List FleetCall := dispatchedCalls ++ [requestReceipt 1010, shellCheckIn]

theorem sample_timely : ∀ calls ∈ [previewedCalls, confirmedCalls, preparedCalls, dispatchedCalls],
    ∀ operation ∈ BTreeMap.storedValues (projectionMachine.run projectionStart calls).hub.wifiAdbOperations,
      operation.preview.createdAtMs = 1001 ∧ operation.preview.expiresAtMs = 61000 := by
  decide +kernel

theorem sample_keeps_projection :
    projectionMachine.Admits (@KeepsProjection projectionEnvironment) projectionStart provenCalls := by
  have timely : ∀ calls ∈ [previewedCalls, confirmedCalls, preparedCalls, dispatchedCalls],
      ∀ (operationId : String) operation,
        (projectionMachine.run projectionStart calls).hub.wifiAdbOperations[operationId]? = some operation →
          operation.preview.createdAtMs = 1001 ∧ operation.preview.expiresAtMs = 61000 :=
    fun calls listed operationId operation stored =>
      sample_timely calls listed operation ((BTreeMap.mem_storedValues_iff _ _).mpr ⟨operationId, stored⟩)
  have previewed : projectionMachine.Admits (@KeepsProjection projectionEnvironment) projectionStart
      previewedCalls := ⟨trivial, trivial, trivial, trivial⟩
  have confirmed : projectionMachine.Admits (@KeepsProjection projectionEnvironment) projectionStart
      confirmedCalls := by
    refine (projectionMachine.admits_append _ _ _ _).mpr ⟨previewed, ?_, trivial⟩
    intro operation checks
    have dates := timely previewedCalls (by simp) _ operation checks.stored
    omega
  have prepared : projectionMachine.Admits (@KeepsProjection projectionEnvironment) projectionStart
      preparedCalls := by
    refine (projectionMachine.admits_append _ _ _ _).mpr ⟨confirmed, ?_, trivial⟩
    intro operation target generation checks
    have dates := timely confirmedCalls (by simp) _ operation checks.stored
    refine ⟨by omega, ?_, by decide, ?_⟩
    · have expiry : (1003 : Int) < operation.preview.expiresAtMs := by omega
      exact expiry
    · intro field listed
      cases listed
  have dispatched : projectionMachine.Admits (@KeepsProjection projectionEnvironment) projectionStart
      dispatchedCalls := by
    refine (projectionMachine.admits_append _ _ _ _).mpr ⟨prepared, ?_, trivial⟩
    intro operation target checks
    have dates := timely preparedCalls (by simp) _ operation checks.stored
    omega
  refine (projectionMachine.admits_append _ _ _ _).mpr ⟨dispatched, ?_, trivial, trivial⟩
  intro operation target invocation checks
  have dates := timely dispatchedCalls (by simp) _ operation checks.stored
  omega

theorem proven_request_shown :
    (projectionMachine.run projectionStart provenCalls).adapter.termuxProofs.size = 1 ∧
      @ProjectionTotal projectionEnvironment (projectionMachine.run projectionStart provenCalls) :=
  ⟨by decide +kernel,
    @wifi_adb_projection_total projectionEnvironment projection_laws samplePolicy [] provenCalls
      sample_keeps_projection⟩

def earlyConfirmedCalls : List FleetCall := previewedCalls ++ [wifiHub (.confirm "op-1" "preview-1" 1000)]

theorem half_applied_hides_operations :
    ∃ (_ : FleetEnvironment) (policy : AssertedPolicy) (trustedOperatorIds : List String)
      (calls : List FleetCall),
      ¬ ProjectionTotal (fleetMachine.run ⟨.new policy, .new trustedOperatorIds⟩ calls) := by
  refine ⟨projectionEnvironment, samplePolicy, [], earlyConfirmedCalls, ?_⟩
  change ¬ @ProjectionTotal projectionEnvironment (projectionMachine.run projectionStart earlyConfirmedCalls)
  intro total
  obtain ⟨shown, answered, _⟩ := @ProjectionTotal.operations projectionEnvironment _ total 1050
  have refused : (@FleetManifoldAdapter.questWifiAdbOperations
      (projectionMachine.run projectionStart earlyConfirmedCalls).adapter
      (projectionMachine.run projectionStart earlyConfirmedCalls).hub
      projectionEnvironment.toSha256Hex 1050).toOption.isNone = true := by
    decide +kernel
  rw [answered] at refused
  cases refused

end Samples

end RustyFleet.WifiSafety

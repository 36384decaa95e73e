import RustyFleet.Safety.OwnerLedger

namespace RustyFleet.OwnerSafety

theorem awake_laws : OwnerLaws questAwakeHub where
  effective := by
    intro receipt valid effective
    have accepted := (isInvalid_false_iff receipt).mpr valid
    have shown : receipt.effective = true := effective
    simp [questAwakeHub, questAwakeFamily, shown, accepted]
  evidence _ _ _ _ := rfl
  unchanged := rfl
  generation := by
    intro action preview expected generation ok
    have ok : preparedWatchdogGeneration action preview expected = .ok generation := ok
    unfold preparedWatchdogGeneration at ok
    by_cases stops : action = .stopWatchdogs ∨ action = .restoreNormal
    · rcases stops with rfl | rfl <;> rfl
    · rw [if_neg stops] at ok
      split at ok
      · cases ok
      · cases ok
        simp [questAwakeHub, questAwakeFamily]

theorem wifiAdb_laws [Sha256Hex] : OwnerLaws questWifiAdbHub where
  effective _ _ effective := effective
  evidence _ _ _ _ := by
    simp [questWifiAdbHub, questWifiAdbFamily, termuxEvidenceViolations]
  unchanged := rfl
  generation _ _ _ _ _ := rfl

section Validity

variable {Action Policy Generation Binding Receipt Evidence : Type} [ValidateContract Receipt]
  {owner : OwnerHub Action Policy Generation Binding Receipt Evidence}

structure TargetValid (owner : OwnerHub Action Policy Generation Binding Receipt Evidence)
    (operation : owner.Operation) (target : owner.Target) : Prop where
  frozen : ∃ preflight,
    operation.preview.targets.find? (fun (other : TargetPreflight) => other.deviceId = target.deviceId) =
      some preflight ∧ target.identityRevision = preflight.identityRevision ∧ target.preflight = preflight
  dated : operation.preview.createdAtMs ≤ target.updatedAtMs
  invocation : ∀ invocation ∈ target.invocation, owner.family.invocationBound operation target invocation
  receipt : ∀ receipt ∈ target.receipt, owner.family.receiptBound operation target receipt
  applied : target.lifecycle = .applied → ∃ receipt ∈ target.receipt,
    owner.family.receiptProvesApplied receipt = true
  evidence : owner.family.evidenceViolations operation.operationId target.deviceId target.identityRevision
    target.receipt target.evidence = []

variable {operation : owner.Operation} {operationId : String} {nowMs : Int}

theorem TargetValid.congr {next : owner.Operation} {target : owner.Target}
    (valid : TargetValid owner operation target) (named : next.operationId = operation.operationId)
    (preview : next.preview = operation.preview) : TargetValid owner next target where
  frozen := by
    rw [preview]
    exact valid.frozen
  dated := by
    rw [preview]
    exact valid.dated
  invocation := by
    intro invocation holds
    unfold OwnerFamily.invocationBound
    rw [named, preview]
    exact valid.invocation invocation holds
  receipt := by
    intro receipt holds
    unfold OwnerFamily.receiptBound
    rw [named, preview]
    exact valid.receipt receipt holds
  applied := valid.applied
  evidence := by
    rw [named]
    exact valid.evidence

variable [DecidableEq Binding]

/-- What the contract asks of an operation beside its targets. -/
structure OperationValid (owner : OwnerHub Action Policy Generation Binding Receipt Evidence)
    (operation : owner.Operation) : Prop where
  schema : operation.schema = owner.family.operationSchema
  named : operation.operationId = operation.preview.operationId
  action : operation.actionId = owner.family.actionId
  dated : operation.preview.createdAtMs ≤ operation.updatedAtMs
  preview : owner.family.previewViolations operation.preview = []
  counted : operation.targets.length = operation.preview.targets.length
  targets : ∀ target ∈ operation.targets, TargetValid owner operation target

section Contract

variable [DecidableEq Action] [DecidableEq Policy]

omit [DecidableEq Binding] in
theorem targetViolations_nil_iff (operation : owner.Operation) (target : owner.Target) :
    owner.family.targetViolations operation target = [] ↔ TargetValid owner operation target := by
  unfold OwnerFamily.targetViolations
  constructor
  · intro clear
    split at clear
    · cases clear
    · rename_i preflight found
      simp only [List.append_eq_nil_iff, violationIf_nil, not_or, not_not, not_and, not_exists, Int.not_lt] at clear
      obtain ⟨⟨⟨⟨⟨identity, same, dated⟩, invocation⟩, receipt⟩, applied⟩, evidence⟩ := clear
      refine ⟨⟨preflight, found, identity, same⟩, dated, invocation, receipt, ?_, evidence⟩
      intro isApplied
      by_contra none
      exact applied isApplied fun receipt holds proves => none ⟨receipt, holds, proves⟩
  · intro valid
    obtain ⟨preflight, found, identity, same⟩ := valid.frozen
    rw [found]
    simp only [List.append_eq_nil_iff, violationIf_nil, not_or, not_not, not_and, not_exists, Int.not_lt]
    refine ⟨⟨⟨⟨⟨identity, same, valid.dated⟩, valid.invocation⟩, valid.receipt⟩, ?_⟩, valid.evidence⟩
    intro applied none
    obtain ⟨receipt, holds, proves⟩ := valid.applied applied
    exact none receipt holds proves

theorem operationViolations_nil_iff (operation : owner.Operation) :
    owner.family.operationViolations operation = [] ↔ OperationValid owner operation := by
  simp only [OwnerFamily.operationViolations, List.append_eq_nil_iff, violationIf_nil, not_or, not_not, Int.not_lt,
    List.flatMap_eq_nil_iff, targetViolations_nil_iff]
  constructor
  · rintro ⟨⟨⟨⟨schema, named, action, dated⟩, preview⟩, counted⟩, targets⟩
    exact ⟨schema, named, action, dated, preview, counted, targets⟩
  · intro valid
    exact ⟨⟨⟨⟨valid.schema, valid.named, valid.action, valid.dated⟩, valid.preview⟩, valid.counted⟩, valid.targets⟩

theorem validateOperation_ok_iff (operation : owner.Operation) :
    owner.validateOperation operation = .ok () ↔ OperationValid owner operation := by
  rw [OwnerHub.validateOperation, errorIf_ok, not_not, operationViolations_nil_iff]

end Contract

theorem rewritten_valid_iff (valid : OperationValid owner operation) {deviceId : String}
    {rewrite : owner.Target → owner.Target} {target : owner.Target} (lifecycle : CommandLifecycle)
    (found : operation.targets.find? (·.deviceId == deviceId) = some target) :
    OperationValid owner { owner.rewriteTarget operation deviceId nowMs rewrite with lifecycle := lifecycle } ↔
      operation.preview.createdAtMs ≤ nowMs ∧ TargetValid owner operation (rewrite target) := by
  constructor
  · intro after
    have written := Support.modified_mem (·.deviceId == deviceId) rewrite operation.targets target found
    exact ⟨after.dated, (after.targets _ written).congr rfl rfl⟩
  · rintro ⟨dated, written⟩
    have length := Support.modifyFirst_length (·.deviceId == deviceId) rewrite operation.targets
    refine ⟨valid.schema, valid.named, valid.action, dated, valid.preview, length.trans valid.counted, ?_⟩
    intro after member
    rcases Support.mem_modifyFirst _ _ _ target after found member with kept | rfl
    · exact (valid.targets after kept).congr rfl rfl
    · exact written.congr rfl rfl

theorem confirmed_valid_iff (valid : OperationValid owner operation) :
    OperationValid owner (owner.confirmed operation nowMs) ↔ operation.preview.createdAtMs ≤ nowMs := by
  constructor
  · exact fun after => after.dated
  · intro dated
    refine ⟨valid.schema, valid.named, valid.action, dated, valid.preview, ?_, ?_⟩
    · simp only [OwnerHub.confirmed, List.length_map]
      exact valid.counted
    · intro after member
      obtain ⟨target, known, same⟩ := List.mem_map.mp member
      have prior := valid.targets target known
      split at same
      · subst same
        have moved : TargetValid owner operation { target with lifecycle := .accepted, updatedAtMs := nowMs } := by
          refine ⟨prior.frozen, dated, prior.invocation, prior.receipt, ?_, prior.evidence⟩
          intro applied
          cases applied
        exact moved.congr rfl rfl
      · subst same
        exact prior.congr rfl rfl

structure InvocationFits (owner : OwnerHub Action Policy Generation Binding Receipt Evidence)
    (operation : owner.Operation) (requestId : String) (generation : Generation) (nowMs : Int) : Prop where
  dated : operation.preview.createdAtMs ≤ nowMs
  unexpired : nowMs < owner.invocationExpiry operation.preview.action operation.preview.expiresAtMs
  requested : isOwnerPortableId requestId 256 = true
  generated : ∀ field ∈ owner.family.generationIdentifiers generation, isOwnerPortableId field.2 256 = true

omit [ValidateContract Receipt] in
theorem preview_facts {preview : OwnerPreview Action Policy Generation Binding}
    (valid : owner.family.previewViolations preview = []) :
    isOwnerPortableId preview.previewId 256 = true ∧ isOwnerPortableId preview.operationId 256 = true ∧
      0 ≤ preview.createdAtMs ∧ owner.family.policyViolations preview.policy = [] ∧
      ∀ target ∈ preview.targets, target.identityRevision ≠ 0 := by
  simp only [OwnerFamily.previewViolations, List.append_eq_nil_iff, violationIf_nil, not_or, not_not] at valid
  obtain ⟨⟨⟨⟨⟨_, previewId, operationId, _, _, created, _⟩, policy⟩, _⟩, _⟩, targets⟩ := valid
  refine ⟨previewId, operationId, by omega, policy, ?_⟩
  intro target member
  have own := ((previewTargets_facts _ [] _ targets).2 target member).2
  simp only [PreflightProfile.violations, List.append_eq_nil_iff, violationIf_nil, not_or] at own
  exact own.1.1.1.2.1

theorem prepared_valid_iff (laws : OwnerLaws owner) (valid : OperationValid owner operation)
    {target : owner.Target} (member : target ∈ operation.targets) (sound : TargetSound owner operation target)
    (accepted : target.lifecycle = .accepted) {expected : Option String} {generation : Generation}
    (generated : owner.preparedGeneration operation.preview.action operation.preview.watchdogGeneration expected =
      .ok generation) (requestId : String) (nowMs : Int) :
    TargetValid owner operation
        { target with
          invocation := some (preparedInvocation owner operation target requestId generation nowMs)
          updatedAtMs := nowMs } ↔
      InvocationFits owner operation requestId generation nowMs := by
  have own := valid.targets target member
  have unreceived := sound.unreceived (by rw [accepted]; decide)
  obtain ⟨previewId, operationIds, created, policy, revisions⟩ := preview_facts valid.preview
  constructor
  · intro after
    obtain ⟨clear, _⟩ := after.invocation _ rfl
    simp only [OwnerFamily.invocationViolations, List.append_eq_nil_iff, violationIf_nil, not_or,
      List.flatMap_eq_nil_iff, not_not] at clear
    obtain ⟨⟨⟨_, _, _, unexpired⟩, identifiers⟩, _⟩ := clear
    refine ⟨after.dated, ?_, identifiers ("request_id", requestId) (by simp [preparedInvocation]), ?_⟩
    · exact Int.not_le.mp unexpired
    · intro field listed
      apply identifiers field
      simp only [preparedInvocation, List.mem_append]
      exact .inr listed
  · intro fits
    refine ⟨own.frozen, fits.dated, ?_, ?_, ?_, own.evidence⟩
    · rintro invocation ⟨⟩
      refine ⟨?_, rfl, rfl, rfl, rfl, rfl, laws.generation _ _ _ _ generated, rfl⟩
      simp only [OwnerFamily.invocationViolations, List.append_eq_nil_iff, violationIf_nil, not_or,
        List.flatMap_eq_nil_iff, not_not]
      refine ⟨⟨⟨rfl, ?_, ?_, Int.not_le.mpr fits.unexpired⟩, ?_⟩, policy⟩
      · obtain ⟨preflight, found, identity, _⟩ := own.frozen
        have same : (preparedInvocation owner operation target requestId generation nowMs).identityRevision =
          preflight.identityRevision := identity
        rw [same]
        exact revisions preflight (List.mem_of_find?_eq_some found)
      · have dated := fits.dated
        simp only [preparedInvocation]
        omega
      · intro field listed
        rcases List.mem_append.mp listed with named | generated
        · simp only [preparedInvocation, List.mem_cons, List.not_mem_nil, or_false] at named
          rcases named with rfl | rfl | rfl | rfl
          · exact fits.requested
          · rw [valid.named]
            exact operationIds
          · exact previewId
          · exact sound.portable
        · exact fits.generated field generated
    · intro receipt holds
      have none : target.receipt = some receipt := holds
      rw [unreceived] at none
      cases none
    · intro applied
      have contradiction : target.lifecycle = .applied := applied
      rw [accepted] at contradiction
      cases contradiction

omit [DecidableEq Binding] in
theorem received_valid [DecidableEq Action] (laws : OwnerLaws owner) {operations : owner.Stored}
    {receipt : Receipt} {target : owner.Target} {invocation : OwnerInvocation Action Policy Generation}
    (own : TargetValid owner operation target) (sound : TargetSound owner operation target)
    (named : operation.operationId = operationId)
    (checks : ReceiptChecks owner operations receipt nowMs operation target invocation)
    (addressed : (owner.family.receiptHeader receipt).operationId = operationId)
    (dated : operation.preview.createdAtMs ≤ nowMs) :
    TargetValid owner operation (receivedTarget owner receipt nowMs target) := by
  obtain ⟨_, _, _, previewId, identity, action, policy⟩ := sound.invoked invocation checks.invoked
  obtain ⟨request, preview, receiptIdentity, receiptAction, generation, policyBound, _⟩ := checks.bound
  have device : target.deviceId = (owner.family.receiptHeader receipt).deviceId := by
    have same := List.find?_some checks.found
    exact beq_iff_eq.mp same
  refine ⟨own.frozen, dated, own.invocation, ?_, ?_, ?_⟩
  · rintro stored ⟨⟩
    refine ⟨checks.valid, addressed.trans named.symm, preview.trans previewId, device.symm,
      receiptIdentity.trans identity, receiptAction.trans action, ?_, invocation, checks.invoked, request.symm,
      generation⟩
    rw [← policy]
    exact policyBound
  · intro applied
    refine ⟨receipt, rfl, laws.effective receipt checks.valid ?_⟩
    by_contra ineffective
    simp only [receivedTarget, if_neg ineffective] at applied
    cases applied
  · simp only [receivedTarget]
    rw [sound.evidence, laws.unchanged]
    exact laws.evidence _ _ _ _

end Validity

end RustyFleet.OwnerSafety

import RustyFleet.Safety.PackageTargets

namespace RustyFleet.PackageSafety

/-- The header and preview an operation is created with; no call rewrites them. -/
structure FrozenHeader (operation : PackageInstallReleaseOperation) : Prop where
  schema : operation.schema = "rusty.fleet.package_install_release_operation.v1"
  portable : isPortableId operation.operationId 256 = true
  action : operation.actionId = packagesInstallReleaseActionId
  created : 0 ≤ operation.createdAtMs
  parallelism : 1 ≤ operation.maxParallelism ∧ operation.maxParallelism ≤ 64
  clean : operation.cleanupRequired = false
  preview : Valid operation.preview
  named : operation.preview.operationId = operation.operationId
  bound : operation.preview.actionId = operation.actionId ∧
    operation.preview.createdAtMs = operation.createdAtMs ∧
    operation.targets.length = operation.preview.targets.length

/-- What holds of every stored operation in every reachable Hub, whether or not it still validates. -/
structure OperationLedger (operation : PackageInstallReleaseOperation) : Prop where
  header : FrozenHeader operation
  distinct : (operation.targets.map (·.deviceId)).Nodup
  targets : ∀ target ∈ operation.targets, TargetLedger operation target
  derived : operation.lifecycle = operation.derivedLifecycle
  together : (∃ target ∈ operation.targets, target.lifecycle = .proposed) →
    ∀ target ∈ operation.targets, target.preflight.eligible = true → target.lifecycle = .proposed

def PortableRequest (target : PackageInstallTargetLedger) : Prop :=
  target.lifecycle = .accepted → ∀ invocation, target.invocation = some invocation →
    isPortableId invocation.ownerActionRequestId 256 = true

structure InContract (operation : PackageInstallReleaseOperation) : Prop where
  clock : ∀ target ∈ operation.targets, operation.createdAtMs ≤ target.lastTransitionMs
  requests : ∀ target ∈ operation.targets, PortableRequest target
  slots : operation.occupiedDeliverySlots ≤ operation.maxParallelism

variable {operation : PackageInstallReleaseOperation} {target : PackageInstallTargetLedger}

theorem preview_facts {preview : PackageInstallReleasePreview} (valid : Valid preview) :
    isPortableId preview.previewId 256 = true ∧ preview.createdAtMs < preview.expiresAtMs ∧
      isPackageName preview.expectedPackageName = true ∧
      isPortableId preview.expectedRolloutRing 128 = true ∧ Valid preview.release ∧
      (preview.targets.map (·.deviceId)).Nodup ∧
      ∀ preflight ∈ preview.targets, preflight.identityRevision ≠ 0 := by
  simp only [Valid, violations, List.append_eq_nil_iff, violationIf_nil, packagePreflightsViolations,
    not_or, not_not] at valid
  obtain ⟨⟨⟨⟨_, previewId, _, _, _, window, _, package, ring⟩, release⟩, _⟩, _, preflights⟩ := valid
  obtain ⟨distinct, each⟩ := preflightList_nodup _ _ _ _ _ _ _ preflights
  refine ⟨previewId, by omega, package, ring, release, distinct, fun preflight member => ?_⟩
  have own := (each preflight member).2.1
  simp only [PreflightProfile.violations, List.append_eq_nil_iff, violationIf_nil, not_or] at own
  exact own.1.1.1.2.1

theorem TargetLedger.freezes (ledger : TargetLedger operation target)
    (invocation : PackageUpdaterInvocation) (bound : target.invocation = some invocation) :
    operation.freezes target invocation := by
  rw [ledger.invocation invocation bound]
  exact ⟨rfl, rfl, rfl, rfl, rfl, rfl, rfl⟩

theorem TargetLedger.invocation_valid_iff (ledger : TargetLedger operation target)
    (header : FrozenHeader operation) (invocation : PackageUpdaterInvocation)
    (bound : target.invocation = some invocation) :
    Valid invocation ↔ isPortableId invocation.ownerActionRequestId 256 = true := by
  obtain ⟨previewId, window, package, ring, release, _⟩ := preview_facts header.preview
  have created := header.created
  have start := header.bound.2.1
  have frozen := ledger.invocation invocation bound
  have positive := ledger.positive
  constructor
  · intro valid
    simp only [Valid, violations, List.append_eq_nil_iff, identifierViolations_nil,
      List.forall_mem_cons] at valid
    exact valid.1.1.2.2.2.2.1
  · intro portable
    rw [frozen]
    simp only [Valid, violations, List.append_eq_nil_iff, identifierViolations_nil, violationIf_nil,
      List.forall_mem_cons]
    refine ⟨⟨⟨fun wrong => wrong rfl, header.portable, previewId, ledger.portable, portable, nofun⟩, ?_⟩,
      release⟩
    simp only [PackageInstallReleaseOperation.invocationFor, package, ring, not_true, or_false]
    omega

theorem Acknowledged.invocation_valid (ledger : TargetLedger operation target)
    (header : FrozenHeader operation) (acknowledged : Acknowledged target)
    (invocation : PackageUpdaterInvocation) (bound : target.invocation = some invocation) :
    Valid invocation ∧ ∃ acknowledgement, target.invocationAcknowledgement = some acknowledgement ∧
      acknowledgement.accepts invocation := by
  obtain ⟨other, acknowledgement, same, retained, accepts⟩ := acknowledged
  cases bound.symm.trans same
  refine ⟨(ledger.invocation_valid_iff header invocation bound).mpr ?_, acknowledgement, retained, accepts⟩
  obtain ⟨valid, _, _, _, requestId⟩ := accepts
  simp only [Valid, violations, List.append_eq_nil_iff, identifierViolations_nil,
    List.forall_mem_cons] at valid
  rw [← requestId]
  exact valid.1.2.2.2.1

theorem claimEvidence_clear (path : String) (claims : ClaimEvidence target) :
    target.claimEvidenceViolations path = [] := by
  simp only [PackageInstallTargetLedger.claimEvidenceViolations, List.append_eq_nil_iff, violationIf_nil,
    not_or, not_exists, not_and, not_not]
  refine ⟨⟨?_, fun claim member => ?_⟩, claims.consumed, fun claim member => ?_, fun claim held => ?_⟩
  · have bounded := claims.bounded
    unfold maxPriorOwnerClaims at bounded
    omega
  · exact ⟨(claims.prior claim member).1, (claims.prior claim member).2.1⟩
  · exact (claims.prior claim member).2.2
  · exact (claims.held claim held).2.2

theorem accepted_clear_iff (path : String) (ledger : TargetLedger operation target)
    (header : FrozenHeader operation) (eligible : target.preflight.eligible = true)
    (accepted : target.lifecycle = .accepted) :
    operation.acceptedViolations path target = [] ↔ PortableRequest target := by
  have phase := ledger.phase eligible
  have claims := ledger.claims eligible
  simp only [PhaseFacts, accepted] at phase
  obtain ⟨stage, acknowledgement, progress, receipt⟩ := phase
  have staged : target.acceptedStageValid = true := by
    rcases stage with ⟨approved, unprepared, _⟩ | ⟨ready, prepared, _⟩
    · simp [PackageInstallTargetLedger.acceptedStageValid, approved, unprepared]
    · simpa [PackageInstallTargetLedger.acceptedStageValid, ready] using prepared
  simp only [PackageInstallReleaseOperation.acceptedViolations, List.append_eq_nil_iff, violationIf_nil,
    staged, acknowledgement, progress, receipt, not_or, not_exists, not_and, not_not, PortableRequest,
    Option.isSome_none, Bool.false_eq_true, not_false_eq_true, and_self, true_and, Option.mem_def]
  constructor
  · rintro ⟨_, bound⟩ _ invocation prepared
    exact (ledger.invocation_valid_iff header invocation prepared).mp (bound invocation prepared).1
  · intro portable
    refine ⟨fun claim held => ⟨(claims.held claim held).1, (claims.held claim held).2.1⟩, ?_⟩
    intro invocation prepared
    exact ⟨(ledger.invocation_valid_iff header invocation prepared).mpr
      (portable accepted invocation prepared), ledger.freezes invocation prepared⟩

theorem dispatched_clear (path : String) (ledger : TargetLedger operation target)
    (header : FrozenHeader operation) (eligible : target.preflight.eligible = true)
    (dispatched : target.lifecycle = .dispatched) :
    operation.dispatchedViolations path target = [] := by
  have phase := ledger.phase eligible
  simp only [PhaseFacts, dispatched] at phase
  obtain ⟨stage, acknowledged, progress, receipt⟩ := phase
  obtain ⟨invocation, _, bound, _⟩ := id acknowledged
  obtain ⟨valid, acknowledgement, retained, accepts⟩ :=
    acknowledged.invocation_valid ledger header invocation bound
  simp only [PackageInstallReleaseOperation.dispatchedViolations, stage, bound,
    PackageInstallReleaseOperation.dispatchedEvidenceViolations, List.append_eq_nil_iff, violationIf_nil,
    ne_eq, not_true, not_false_eq_true, true_and, progress, receipt, Option.isSome_none,
    Bool.false_eq_true, or_false, not_or, not_not]
  exact ⟨⟨valid, ledger.freezes invocation bound⟩, acknowledgement, retained, accepts⟩

theorem running_clear (path : String) (ledger : TargetLedger operation target)
    (header : FrozenHeader operation) (eligible : target.preflight.eligible = true)
    (running : target.lifecycle = .running) :
    operation.runningViolations path target = [] := by
  have phase := ledger.phase eligible
  simp only [PhaseFacts, running] at phase
  obtain ⟨stage, acknowledged, ⟨invocation, progress, bound, reported, reports, explains⟩, receipt⟩ := phase
  obtain ⟨valid, acknowledgement, retained, accepts⟩ :=
    acknowledged.invocation_valid ledger header invocation bound
  have known : target.stage ∈ [.staged, .awaitingWearer, .cancellationRequested, .recoveryRequired] := by
    simp only [List.mem_cons, List.not_mem_nil, or_false] at stage ⊢
    tauto
  simp only [PackageInstallReleaseOperation.runningViolations, bound, known,
    PackageInstallReleaseOperation.runningEvidenceViolations, List.append_eq_nil_iff, violationIf_nil,
    not_true, not_false_eq_true, true_and, receipt, Option.isSome_none, Bool.false_eq_true, not_or,
    not_not, false_or]
  exact ⟨valid, ledger.freezes invocation bound, ⟨progress, reported, reports, explains⟩,
    acknowledgement, retained, accepts⟩

theorem cancellation_clear (path : String) (ledger : TargetLedger operation target)
    (eligible : target.preflight.eligible = true) (cancelling : target.lifecycle = .cancellationRequested) :
    target.cancellationViolations path = [] := by
  have phase := ledger.phase eligible
  simp only [PhaseFacts, cancelling] at phase
  obtain ⟨stage, _, ⟨invocation, progress, bound, reported, reports, explains⟩, receipt⟩ := phase
  have requested : progress.stage = .cancellationRequested := by
    rw [stage] at explains
    cases retained : progress.stage <;> rw [retained] at explains <;> first | rfl | cases explains
  simp only [PackageInstallTargetLedger.cancellationViolations, violationIf_nil, stage, bound, receipt,
    ne_eq, not_true, Option.isSome_none, Bool.false_eq_true, reduceCtorEq, false_or, not_not]
  exact ⟨progress, reported, invocation, rfl, reports, requested⟩

theorem cancelled_clear (path : String) (ledger : TargetLedger operation target)
    (eligible : target.preflight.eligible = true) (cancelled : target.lifecycle = .cancelled) :
    target.cancelledViolations path = [] := by
  have phase := ledger.phase eligible
  simp only [PhaseFacts, cancelled] at phase
  obtain ⟨stage, _, ⟨invocation, progress, bound, reported, reports, explains⟩, receipt⟩ := phase
  have ended : progress.stage = .cancelled := by
    rw [stage] at explains
    cases retained : progress.stage <;> rw [retained] at explains <;> first | rfl | cases explains
  simp only [PackageInstallTargetLedger.cancelledViolations, violationIf_nil, stage, bound, receipt,
    ne_eq, not_true, Option.isSome_none, Bool.false_eq_true, reduceCtorEq, false_or, not_not]
  exact ⟨progress, reported, invocation, rfl, reports, ended⟩

theorem applied_clear (path : String) (ledger : TargetLedger operation target)
    (eligible : target.preflight.eligible = true) (applied : target.lifecycle = .applied) :
    target.appliedViolations path = [] := by
  have phase := ledger.phase eligible
  simp only [PhaseFacts, applied] at phase
  obtain ⟨stage, _, ⟨invocation, receipt, bound, retained, proves⟩, progress⟩ := phase
  simp only [PackageInstallTargetLedger.appliedViolations, stage, bound, retained, proves,
    List.append_eq_nil_iff, violationIf_nil, ne_eq, not_true, not_false_eq_true, true_and, not_exists,
    not_and, not_not, Option.mem_def]
  intro report reported
  rcases progress with unreported | ⟨other, known, same, kept, reports⟩
  · rw [unreported] at reported
    cases reported
  · cases bound.symm.trans same
    cases reported.symm.trans kept
    exact reports

theorem failed_clear (path : String) (ledger : TargetLedger operation target)
    (eligible : target.preflight.eligible = true) (failed : target.lifecycle = .failed) :
    target.terminalFailureViolations path = [] := by
  have phase := ledger.phase eligible
  simp only [PhaseFacts, failed] at phase
  obtain ⟨stage, prepared, receipt, progress⟩ := phase
  obtain ⟨invocation, bound⟩ := Option.isSome_iff_exists.mp prepared
  simp only [PackageInstallTargetLedger.terminalFailureViolations, failed, stage, bound, receipt,
    List.append_eq_nil_iff, violationIf_nil, reduceCtorEq, if_false, ne_eq, not_true, Option.isSome_none,
    Bool.false_eq_true, or_self, not_false_eq_true, true_and, not_exists, not_and, not_or, not_not,
    Option.mem_def, Option.some.injEq]
  rintro _ rfl report reported
  rcases progress with unreported | ⟨other, known, same, kept, reports, explains⟩
  · rw [unreported] at reported
    cases reported
  · cases bound.symm.trans same
    cases reported.symm.trans kept
    exact ⟨reports, explains.trans stage⟩

theorem expired_clear (path : String) (ledger : TargetLedger operation target)
    (eligible : target.preflight.eligible = true) (expired : target.lifecycle = .expired) :
    target.terminalFailureViolations path = [] := by
  have phase := ledger.phase eligible
  simp only [PhaseFacts, expired] at phase
  obtain ⟨stage, prepared, receipt, other, known, bound, kept, reports, explains⟩ := phase
  simp only [PackageInstallTargetLedger.terminalFailureViolations, expired, stage, bound, kept, receipt,
    List.append_eq_nil_iff, violationIf_nil, reduceCtorEq, if_true, ne_eq, not_true, Option.isSome_none,
    Bool.false_eq_true, or_self, not_false_eq_true, true_and, not_exists, not_and, not_or, not_not,
    Option.mem_def, Option.some.injEq]
  rintro _ rfl _ rfl
  exact ⟨reports, explains.trans stage⟩

theorem proposed_clear (path : String) (ledger : TargetLedger operation target)
    (eligible : target.preflight.eligible = true) (proposed : target.lifecycle = .proposed) :
    target.proposedViolations path = [] := by
  have phase := ledger.phase eligible
  simp only [PhaseFacts, proposed] at phase
  simp only [PackageInstallTargetLedger.proposedViolations, violationIf_nil, not_or, not_not, ne_eq]
  exact phase

theorem lifecycle_clear_iff (path : String) (ledger : TargetLedger operation target)
    (header : FrozenHeader operation) (eligible : target.preflight.eligible = true) :
    operation.lifecycleViolations path target = [] ↔ PortableRequest target := by
  have vacuous : ∀ lifecycle, target.lifecycle = lifecycle → lifecycle ≠ .accepted →
      operation.lifecycleViolations path target = [] →
      (operation.lifecycleViolations path target = [] ↔ PortableRequest target) := by
    intro lifecycle same other clear
    exact ⟨fun _ accepted => absurd (same.symm.trans accepted) other, fun _ => clear⟩
  have phase := ledger.phase eligible
  cases lifecycle : target.lifecycle with
  | accepted =>
    rw [PackageInstallReleaseOperation.lifecycleViolations, lifecycle]
    exact accepted_clear_iff path ledger header eligible lifecycle
  | proposed =>
    refine vacuous _ lifecycle (by decide) ?_
    rw [PackageInstallReleaseOperation.lifecycleViolations, lifecycle]
    exact proposed_clear path ledger eligible lifecycle
  | dispatched =>
    refine vacuous _ lifecycle (by decide) ?_
    rw [PackageInstallReleaseOperation.lifecycleViolations, lifecycle]
    exact dispatched_clear path ledger header eligible lifecycle
  | running =>
    refine vacuous _ lifecycle (by decide) ?_
    rw [PackageInstallReleaseOperation.lifecycleViolations, lifecycle]
    exact running_clear path ledger header eligible lifecycle
  | cancellationRequested =>
    refine vacuous _ lifecycle (by decide) ?_
    rw [PackageInstallReleaseOperation.lifecycleViolations, lifecycle]
    exact cancellation_clear path ledger eligible lifecycle
  | cancelled =>
    refine vacuous _ lifecycle (by decide) ?_
    rw [PackageInstallReleaseOperation.lifecycleViolations, lifecycle]
    exact cancelled_clear path ledger eligible lifecycle
  | applied =>
    refine vacuous _ lifecycle (by decide) ?_
    rw [PackageInstallReleaseOperation.lifecycleViolations, lifecycle]
    exact applied_clear path ledger eligible lifecycle
  | failed =>
    refine vacuous _ lifecycle (by decide) ?_
    rw [PackageInstallReleaseOperation.lifecycleViolations, lifecycle]
    exact failed_clear path ledger eligible lifecycle
  | expired =>
    refine vacuous _ lifecycle (by decide) ?_
    rw [PackageInstallReleaseOperation.lifecycleViolations, lifecycle]
    exact expired_clear path ledger eligible lifecycle
  | rejected => rw [PhaseFacts, lifecycle] at phase; exact phase.elim
  | cleanupPending => rw [PhaseFacts, lifecycle] at phase; exact phase.elim
  | cleaned => rw [PhaseFacts, lifecycle] at phase; exact phase.elim

theorem target_clear_iff (seen : List String) (index : Nat) (ledger : TargetLedger operation target)
    (header : FrozenHeader operation) (fresh : target.deviceId ∉ seen) :
    operation.targetViolations seen index target = [] ↔
      operation.createdAtMs ≤ target.lastTransitionMs ∧ PortableRequest target := by
  have base : ∀ path : String,
      violationIf (target.deviceId ∈ seen ∨ operation.previews[target.deviceId]? ≠ some target.preflight ∨
        target.identityRevision ≠ target.preflight.identityRevision ∨
        target.lastTransitionMs < operation.createdAtMs ∨ ¬ isPortableId target.reasonCode 256 ∨
        target.message.isEmpty) "invalid_target_ledger" path
        "target ledger must preserve one frozen preview target and bounded state" = [] ↔
      operation.createdAtMs ≤ target.lastTransitionMs := by
    intro path
    simp only [violationIf_nil, fresh, ledger.frozen, ledger.identity, ledger.reason, ledger.message,
      ne_eq, not_true, Bool.false_eq_true, false_or, or_false]
    omega
  simp only [PackageInstallReleaseOperation.targetViolations, List.append_eq_nil_iff, base]
  refine and_congr_right fun _ => ?_
  cases eligible : target.preflight.eligible with
  | true =>
    simp only [if_true, List.append_eq_nil_iff, claimEvidence_clear _ (ledger.claims eligible), true_and]
    exact lifecycle_clear_iff _ ledger header eligible
  | false =>
    obtain ⟨rejected, stage, unevidenced⟩ := ledger.excluded eligible
    simp only [Bool.false_eq_true, if_false, PackageInstallTargetLedger.ineligibleViolations,
      violationIf_nil, rejected, stage, unevidenced, ne_eq, not_true, or_self, not_false_eq_true, true_iff]
    intro accepted
    rw [rejected] at accepted
    cases accepted

theorem targets_clear_iff (header : FrozenHeader operation) (seen : List String) (index : Nat)
    (targets : List PackageInstallTargetLedger) (distinct : (targets.map (·.deviceId)).Nodup)
    (fresh : ∀ target ∈ targets, target.deviceId ∉ seen)
    (ledgers : ∀ target ∈ targets, TargetLedger operation target) :
    operation.targetsViolations seen index targets = [] ↔
      ∀ target ∈ targets, operation.createdAtMs ≤ target.lastTransitionMs ∧ PortableRequest target := by
  induction targets generalizing seen index with
  | nil => simp [PackageInstallReleaseOperation.targetsViolations]
  | cons target rest ih =>
    simp only [List.map_cons, List.nodup_cons] at distinct
    have later : ∀ other ∈ rest, other.deviceId ∉ target.deviceId :: seen := by
      intro other member known
      rcases List.mem_cons.mp known with same | earlier
      · exact distinct.1 (same ▸ List.mem_map_of_mem member)
      · exact fresh other (List.mem_cons_of_mem _ member) earlier
    rw [PackageInstallReleaseOperation.targetsViolations, List.append_eq_nil_iff,
      target_clear_iff seen index (ledgers target List.mem_cons_self) header
        (fresh target List.mem_cons_self),
      ih _ _ distinct.2 later fun other member => ledgers other (List.mem_cons_of_mem _ member),
      List.forall_mem_cons]

theorem OperationLedger.valid_iff (ledger : OperationLedger operation) :
    Valid operation ↔ InContract operation := by
  have header := ledger.header
  obtain ⟨action, created, length⟩ := header.bound
  have start := header.created
  have targets := targets_clear_iff header [] 0 operation.targets ledger.distinct
    (fun _ _ => List.not_mem_nil) ledger.targets
  constructor
  · intro valid
    simp only [Valid, violations, List.append_eq_nil_iff, violationIf_nil] at valid
    obtain ⟨⟨⟨_, clear⟩, _⟩, slots⟩ := valid
    exact
      { clock := fun target member => (targets.mp clear target member).1
        requests := fun target member => (targets.mp clear target member).2
        slots := by omega }
  · intro contract
    have slots := contract.slots
    have clear := targets.mpr fun target member =>
      ⟨contract.clock target member, contract.requests target member⟩
    have preview := header.preview
    simp only [Valid, violations, List.append_eq_nil_iff, violationIf_nil, List.map_eq_nil_iff]
      at preview ⊢
    refine ⟨⟨⟨⟨⟨?_, preview⟩, ?_⟩, clear⟩, fun changed => changed ledger.derived⟩, by omega⟩
    · simp only [header.schema, header.portable, header.action, header.parallelism, header.clean,
        ne_eq, not_true, Bool.false_eq_true, and_self, false_or, or_false]
      omega
    · simp only [header.named, action, created, length, ne_eq, not_true, or_self, not_false_eq_true]

end RustyFleet.PackageSafety

import RustyFleet.Safety.PackageCalls

namespace RustyFleet.PackageSafety

variable {hub : FleetHub} {operation : PackageInstallReleaseOperation}
  {target : PackageInstallTargetLedger}

theorem ready_portable (contract : InContract operation) (member : target ∈ operation.targets)
    (ready : target.dispatchReady) : ∀ invocation, target.invocation = some invocation →
      isPortableId invocation.ownerActionRequestId 256 = true :=
  contract.requests target member ready.1

theorem rewritten_valid_iff {deviceId : String}
    {rewrite : PackageInstallTargetLedger → PackageInstallTargetLedger} (ledger : OperationLedger operation)
    (valid : Valid operation) (found : operation.findTarget deviceId = some target)
    (step : OperationStep operation (operation.rewriteTarget deviceId rewrite).rederived) :
    Valid (operation.rewriteTarget deviceId rewrite).rederived ↔
      operation.createdAtMs ≤ (rewrite target).lastTransitionMs ∧ PortableRequest (rewrite target) ∧
        ((rewrite target).occupiesSlot = true → target.occupiesSlot = false →
          operation.occupiedDeliverySlots < operation.maxParallelism) := by
  have contract := ledger.valid_iff.mp valid
  have modified := Support.modified_mem _ rewrite _ target found
  have counted := Support.countP_modifyFirst _ (·.occupiesSlot) rewrite _ target found
  have own := contract.slots
  rw [(step.ledger ledger).valid_iff]
  constructor
  · intro next
    refine ⟨next.clock _ modified, next.requests _ modified, fun occupies free => ?_⟩
    have slots := next.slots
    simp only [PackageInstallReleaseOperation.occupiedDeliverySlots,
      PackageInstallReleaseOperation.rederived, PackageInstallReleaseOperation.rewriteTarget] at slots ⊢
    simp only [occupies, free, if_true, Bool.false_eq_true, if_false] at counted
    omega
  · rintro ⟨clock, request, slot⟩
    refine ⟨fun other member => ?_, fun other member => ?_, ?_⟩
    · rcases Support.mem_modifyFirst _ rewrite _ target other found member with kept | rfl
      · exact contract.clock other kept
      · exact clock
    · rcases Support.mem_modifyFirst _ rewrite _ target other found member with kept | rfl
      · exact contract.requests other kept
      · exact request
    · simp only [PackageInstallReleaseOperation.occupiedDeliverySlots,
        PackageInstallReleaseOperation.rederived, PackageInstallReleaseOperation.rewriteTarget] at own slot ⊢
      cases after : (rewrite target).occupiesSlot with
      | false =>
        simp only [after, Bool.false_eq_true, if_false] at counted
        omega
      | true =>
        cases before : target.occupiesSlot with
        | false =>
          have room := slot after before
          simp only [after, before, if_true, Bool.false_eq_true, if_false] at counted
          omega
        | true =>
          simp only [after, before, if_true] at counted
          omega

theorem confirmed_valid_iff {operationId previewId : String} {nowMs : Int}
    (ledger : OperationLedger operation)
    (checks : ConfirmChecks hub operationId previewId nowMs operation) (valid : Valid operation) :
    Valid (operation.confirmed nowMs) ↔ operation.createdAtMs ≤ nowMs := by
  have contract := ledger.valid_iff.mp valid
  have proposed := derived_proposed (ledger.derived ▸ checks.proposed)
  have together := ledger.together proposed
  rw [(checks.step.ledger ledger).valid_iff]
  constructor
  · intro next
    obtain ⟨pending, member, waiting⟩ := proposed
    have eligible := (ledger.targets pending member).eligible_of_lifecycle (by rw [waiting]; decide)
    have clock : operation.createdAtMs ≤ (pending.confirmed nowMs).lastTransitionMs :=
      next.clock _ (List.mem_map_of_mem member)
    simpa only [PackageInstallTargetLedger.confirmed, if_pos eligible] using clock
  · intro clock
    have unclaimed : ∀ other ∈ operation.targets,
        PortableRequest (other.confirmed nowMs) ∧ (other.confirmed nowMs).occupiesSlot = false := by
      intro other member
      have own := ledger.targets other member
      unfold PackageInstallTargetLedger.confirmed
      cases eligible : other.preflight.eligible with
      | true =>
        have phase := own.phase eligible
        simp only [PhaseFacts, together other member eligible,
          PackageInstallTargetLedger.hasOwnerEvidence, not_or, Option.not_isSome_iff_eq_none] at phase
        obtain ⟨_, unprepared, free, _⟩ := phase
        refine ⟨fun _ invocation bound => ?_, ?_⟩
        · cases unprepared.symm.trans bound
        · simp [PackageInstallTargetLedger.occupiesSlot, free]
      | false =>
        have rejected := (own.excluded eligible).1
        refine ⟨fun accepted => ?_, ?_⟩
        · cases rejected.symm.trans accepted
        · simp [PackageInstallTargetLedger.occupiesSlot, rejected]
    refine ⟨fun changed member => ?_, fun changed member => ?_, ?_⟩
    · obtain ⟨other, known, rfl⟩ := List.mem_map.mp member
      have before := contract.clock other known
      unfold PackageInstallTargetLedger.confirmed
      split
      · exact clock
      · exact before
    · obtain ⟨other, known, rfl⟩ := List.mem_map.mp member
      exact (unclaimed other known).1
    · have none : (operation.confirmed nowMs).occupiedDeliverySlots = 0 := by
        refine List.countP_eq_zero.mpr fun changed member => ?_
        obtain ⟨other, known, rfl⟩ := List.mem_map.mp member
        simp [(unclaimed other known).2]
      rw [none]
      exact Nat.zero_le _

theorem prepared_valid_iff {operationId deviceId : String} {nowMs : Int} (ownerActionRequestId : String)
    (ledger : OperationLedger operation)
    (checks : PrepareChecks hub operationId deviceId nowMs operation target) (valid : Valid operation) :
    Valid (operation.rewriteTarget deviceId
        (·.prepared (operation.invocationFor target ownerActionRequestId) nowMs)).rederived ↔
      operation.createdAtMs ≤ nowMs ∧ isPortableId ownerActionRequestId 256 = true := by
  rw [rewritten_valid_iff ledger valid checks.found (checks.step ownerActionRequestId)]
  have own := ledger.targets target (findTarget_some checks.found).1
  have eligible := own.eligible_of_lifecycle (by rw [checks.accepted]; decide)
  have phase := own.phase eligible
  simp only [PhaseFacts, checks.accepted, checks.approved] at phase
  obtain ⟨⟨_, _, free⟩ | ⟨other, _⟩, _⟩ := phase
  · refine and_congr_right fun _ => ⟨fun fits => fits.1 rfl _ rfl, fun portable => ⟨?_, ?_⟩⟩
    · intro _ invocation bound
      cases bound
      exact portable
    · intro occupies
      simp [PackageInstallTargetLedger.prepared, PackageInstallTargetLedger.occupiesSlot, free] at occupies
  · cases other

theorem offered_valid_iff {claim : PackageUpdaterClaim} {nowMs : Int} (ledger : OperationLedger operation)
    (checks : OfferChecks hub claim nowMs operation target) (valid : Valid operation) :
    Valid (operation.rewriteTarget claim.invocation.deviceId (·.offered claim nowMs)) ↔
      operation.createdAtMs ≤ nowMs ∧ operation.occupiedDeliverySlots < operation.maxParallelism := by
  have member := (findTarget_some checks.found).1
  have step := checks.step ledger
  rw [offered_rederived ledger claim nowMs target checks.found] at step ⊢
  rw [rewritten_valid_iff ledger valid checks.found step]
  have portable : PortableRequest (target.offered claim nowMs) :=
    (ledger.valid_iff.mp valid).requests target member
  have occupies : (target.offered claim nowMs).occupiesSlot = true := by
    simp [PackageInstallTargetLedger.offered, PackageInstallTargetLedger.occupiesSlot, checks.ready.1]
  have free : target.occupiesSlot = false := by
    simp [PackageInstallTargetLedger.occupiesSlot, checks.ready.1, checks.free]
  exact and_congr_right fun _ => ⟨fun fits => fits.2 occupies free, fun slot => ⟨portable, fun _ _ => slot⟩⟩

theorem acknowledged_valid_iff {acknowledgement : PackageUpdaterInvocationAcknowledgement} {nowMs : Int}
    {invocation : PackageUpdaterInvocation} (ledger : OperationLedger operation)
    (checks : AcknowledgementChecks hub acknowledgement nowMs operation target invocation)
    (valid : Valid operation) :
    Valid (operation.rewriteTarget acknowledgement.deviceId
        (·.acknowledged acknowledgement nowMs)).rederived ↔
      operation.createdAtMs ≤ nowMs ∧ (acknowledgement.accepted = true → target.ownerClaim = none →
        operation.occupiedDeliverySlots < operation.maxParallelism) := by
  rw [rewritten_valid_iff ledger valid checks.found checks.step]
  have before : target.occupiesSlot = false ↔ target.ownerClaim = none := by
    simp [PackageInstallTargetLedger.occupiesSlot, checks.ready.1]
  have after : (target.acknowledged acknowledgement nowMs).occupiesSlot = true ↔
      acknowledgement.accepted = true := by
    cases accepted : acknowledgement.accepted <;>
      simp [PackageInstallTargetLedger.acknowledged, PackageInstallTargetLedger.occupiesSlot, accepted]
  have portable : PortableRequest (target.acknowledged acknowledgement nowMs) := by
    intro waiting
    cases accepted : acknowledgement.accepted <;>
      simp [PackageInstallTargetLedger.acknowledged, accepted] at waiting
  rw [after, before]
  exact and_congr_right fun _ => ⟨And.right, fun slot => ⟨portable, slot⟩⟩

theorem received_valid_iff {receipt : PackageUpdaterEffectiveReceipt} {nowMs : Int}
    {invocation : PackageUpdaterInvocation} (ledger : OperationLedger operation)
    (checks : ReceiptChecks hub receipt nowMs operation target invocation) (valid : Valid operation) :
    Valid (operation.rewriteTarget receipt.deviceId (·.received receipt nowMs)).rederived ↔
      operation.createdAtMs ≤ nowMs := by
  rw [rewritten_valid_iff ledger valid checks.found checks.step]
  refine ⟨fun ⟨clock, _⟩ => clock, fun clock => ⟨clock, nofun, fun occupies => ?_⟩⟩
  cases occupies

theorem progressed_valid_iff {progress : PackageUpdaterProgress} {nowMs : Int}
    {invocation : PackageUpdaterInvocation} (ledger : OperationLedger operation)
    (checks : ReportChecks hub progress nowMs operation target invocation)
    (advance : AdvanceChecks progress target) (valid : Valid operation) :
    Valid (operation.rewriteTarget progress.deviceId (·.progressed progress nowMs)).rederived ↔
      operation.createdAtMs ≤ nowMs ∧ (target.stage = .cancellationRequested →
        progress.stage = .recoveryRequired →
        operation.occupiedDeliverySlots < operation.maxParallelism) := by
  rw [rewritten_valid_iff ledger valid checks.found (checks.step ledger advance)]
  have own := ledger.targets target (findTarget_some checks.found).1
  obtain ⟨eligible, inflight⟩ := own.inflight_of_transition progress.stage advance.allowed
  have phase := own.phase eligible
  have portable : PortableRequest (target.progressed progress nowMs) := by
    intro accepted
    cases stage : progress.stage <;>
      simp [PackageInstallTargetLedger.progressed, stage, progressStageToLifecycle] at accepted
  have occupied : (target.progressed progress nowMs).occupiesSlot = true →
      target.occupiesSlot = false →
      target.stage = .cancellationRequested ∧ progress.stage = .recoveryRequired := by
    intro after before
    rcases inflight with lifecycle | lifecycle | lifecycle
    · simp [PackageInstallTargetLedger.occupiesSlot, lifecycle] at before
    · simp [PackageInstallTargetLedger.occupiesSlot, lifecycle] at before
    · simp only [PhaseFacts, lifecycle] at phase
      have allowed := advance.allowed
      rw [phase.1] at allowed
      refine ⟨phase.1, ?_⟩
      cases stage : progress.stage <;> rw [stage] at allowed <;> first | rfl | cases allowed
      all_goals
        simp [PackageInstallTargetLedger.progressed, stage, progressStageToLifecycle,
          PackageInstallTargetLedger.occupiesSlot] at after
  have needs : target.stage = .cancellationRequested → progress.stage = .recoveryRequired →
      (target.progressed progress nowMs).occupiesSlot = true ∧ target.occupiesSlot = false := by
    intro stage recovering
    refine ⟨?_, ?_⟩
    · simp [PackageInstallTargetLedger.progressed, recovering, progressStageToLifecycle,
        PackageInstallTargetLedger.occupiesSlot]
    · rcases inflight with lifecycle | lifecycle | lifecycle
      · simp [PhaseFacts, lifecycle, stage] at phase
      · simp [PhaseFacts, lifecycle, stage] at phase
      · simp [PackageInstallTargetLedger.occupiesSlot, lifecycle]
  refine and_congr_right fun _ => ⟨fun fits stage recovering => ?_, fun slot => ⟨portable, ?_⟩⟩
  · obtain ⟨after, before⟩ := needs stage recovering
    exact fits.2 after before
  · intro after before
    obtain ⟨stage, recovering⟩ := occupied after before
    exact slot stage recovering

theorem claimsExpired_valid (nowMs : Int) (ledger : OperationLedger operation) (valid : Valid operation) :
    Valid (operation.claimsExpired nowMs) := by
  have contract := ledger.valid_iff.mp valid
  have step : OperationStep operation (operation.claimsExpired nowMs) := .expired nowMs
  have each : ∀ other ∈ operation.targets,
      operation.createdAtMs ≤ (other.claimExpired nowMs).lastTransitionMs ∧
        PortableRequest (other.claimExpired nowMs) ∧
        ((other.claimExpired nowMs).occupiesSlot = true → other.occupiesSlot = true) := by
    intro other member
    have own := ledger.targets other member
    have clock := contract.clock other member
    unfold PackageInstallTargetLedger.claimExpired
    split
    · rename_i prior expired
      unfold PackageInstallTargetLedger.expiredClaim at expired
      split at expired
      · rename_i ready
        obtain ⟨held, ended⟩ := Option.filter_eq_some_iff.mp expired
        have recent := (ready_phase own ready).2.2.1 prior held
        have late : prior.expiresAtMs ≤ nowMs := by simpa using ended
        have portable := ready_portable contract member ready
        unfold PackageInstallTargetLedger.claimReleased
        simp only
        split
        · exact ⟨by simp only; omega, nofun, nofun⟩
        · exact ⟨by simp only; omega, fun _ => portable, nofun⟩
      · cases expired
    · exact ⟨clock, contract.requests other member, id⟩
  rw [(step.ledger ledger).valid_iff]
  refine ⟨fun changed member => ?_, fun changed member => ?_, ?_⟩
  · obtain ⟨other, known, rfl⟩ := List.mem_map.mp member
    exact (each other known).1
  · obtain ⟨other, known, rfl⟩ := List.mem_map.mp member
    exact (each other known).2.1
  · have fewer : (operation.claimsExpired nowMs).occupiedDeliverySlots ≤
        operation.occupiedDeliverySlots := by
      unfold PackageInstallReleaseOperation.claimsExpired PackageInstallReleaseOperation.occupiedDeliverySlots
      simp only [PackageInstallReleaseOperation.rederived, List.countP_map]
      exact List.countP_mono_left fun other known => (each other known).2.2
    exact Nat.le_trans fewer contract.slots

end RustyFleet.PackageSafety

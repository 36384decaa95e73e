import RustyFleet.Hub.Packages

namespace RustyFleet.PackageSafety

structure ClaimEvidence (target : PackageInstallTargetLedger) : Prop where
  bounded : target.priorOwnerClaims.length ≤ maxPriorOwnerClaims
  prior : ∀ claim ∈ target.priorOwnerClaims,
    Valid claim ∧ target.invocation = some claim.invocation ∧ target.consumesClaim claim
  held : ∀ claim, target.ownerClaim = some claim →
    Valid claim ∧ target.invocation = some claim.invocation ∧ target.consumesClaim claim
  consumed : target.consumedIdentitiesValid

def Acknowledged (target : PackageInstallTargetLedger) : Prop :=
  ∃ invocation acknowledgement, target.invocation = some invocation ∧
    target.invocationAcknowledgement = some acknowledgement ∧ acknowledgement.accepts invocation

def Reported (target : PackageInstallTargetLedger) : Prop :=
  ∃ invocation progress, target.invocation = some invocation ∧ target.ownerProgress = some progress ∧
    progress.validateFor invocation = []

def ReportedStage (target : PackageInstallTargetLedger) : Prop :=
  ∃ invocation progress, target.invocation = some invocation ∧ target.ownerProgress = some progress ∧
    progress.validateFor invocation = [] ∧ progressStageToInstallStage progress.stage = target.stage

def Installed (target : PackageInstallTargetLedger) : Prop :=
  ∃ invocation receipt, target.invocation = some invocation ∧ target.effectiveReceipt = some receipt ∧
    receipt.validateFor invocation = []

def PhaseFacts (target : PackageInstallTargetLedger) : Prop :=
  match target.lifecycle with
  | .proposed => target.stage = .previewReady ∧ ¬ target.hasOwnerEvidence
  | .accepted =>
    ((target.stage = .approved ∧ target.invocation = none ∧ target.ownerClaim = none) ∨
      (target.stage = .dispatchReady ∧ target.invocation.isSome ∧
        ∀ claim, target.ownerClaim = some claim → target.lastTransitionMs < claim.expiresAtMs)) ∧
    target.invocationAcknowledgement = none ∧ target.ownerProgress = none ∧
    target.effectiveReceipt = none
  | .dispatched =>
    target.stage = .ownerAcknowledged ∧ Acknowledged target ∧ target.ownerProgress = none ∧
      target.effectiveReceipt = none
  | .running =>
    target.stage ∈ [.staged, .awaitingWearer, .recoveryRequired] ∧ Acknowledged target ∧
      ReportedStage target ∧ target.effectiveReceipt = none
  | .cancellationRequested =>
    target.stage = .cancellationRequested ∧ Acknowledged target ∧ ReportedStage target ∧
      target.effectiveReceipt = none
  | .cancelled =>
    target.stage = .cancelled ∧ Acknowledged target ∧ ReportedStage target ∧
      target.effectiveReceipt = none
  | .applied =>
    target.stage = .applied ∧ Acknowledged target ∧ Installed target ∧
      (target.ownerProgress = none ∨ Reported target)
  | .failed =>
    target.stage = .failed ∧ target.invocation.isSome ∧ target.effectiveReceipt = none ∧
      (target.ownerProgress = none ∨ ReportedStage target)
  | .expired =>
    target.stage = .expired ∧ target.invocation.isSome ∧ target.effectiveReceipt = none ∧
      ReportedStage target
  | .rejected | .cleanupPending | .cleaned => False

/-- What holds of every target of a stored operation in every reachable Hub. -/
structure TargetLedger (operation : PackageInstallReleaseOperation)
    (target : PackageInstallTargetLedger) : Prop where
  frozen : operation.previews[target.deviceId]? = some target.preflight
  identity : target.identityRevision = target.preflight.identityRevision
  positive : 0 < target.identityRevision
  portable : isPortableId target.deviceId 256 = true
  reason : isPortableId target.reasonCode 256 = true
  message : target.message.isEmpty = false
  invocation : ∀ invocation, target.invocation = some invocation →
    invocation = operation.invocationFor target invocation.ownerActionRequestId
  excluded : target.preflight.eligible = false →
    target.lifecycle = .rejected ∧ target.stage = .preflightRejected ∧ ¬ target.hasOwnerEvidence
  claims : target.preflight.eligible = true → ClaimEvidence target
  phase : target.preflight.eligible = true → PhaseFacts target

/-- The rewrites the package mutators make to one target, with what each of them checked first. -/
inductive TargetStep (operation : PackageInstallReleaseOperation) (target : PackageInstallTargetLedger) :
    PackageInstallTargetLedger → Prop
  | confirmed (nowMs : Int) (eligible : target.preflight.eligible = true)
      (proposed : target.lifecycle = .proposed) :
      TargetStep operation target (target.confirmed nowMs)
  | prepared (ownerActionRequestId : String) (nowMs : Int) (accepted : target.lifecycle = .accepted)
      (approved : target.stage = .approved) :
      TargetStep operation target
        (target.prepared (operation.invocationFor target ownerActionRequestId) nowMs)
  | offered (claim : PackageUpdaterClaim) (nowMs : Int) (ready : target.dispatchReady)
      (valid : Valid claim) (begun : claim.claimedAtMs ≤ nowMs) (alive : nowMs < claim.expiresAtMs)
      (bound : target.invocation = some claim.invocation) (free : target.ownerClaim = none)
      (room : target.consumedOwnerClaimIdentities.length < maxConsumedPackageOwnerClaims)
      (fresh : ∀ identity ∈ target.consumedOwnerClaimIdentities,
        identity.claimId ≠ claim.claimId ∧ identity.requestId ≠ claim.requestId) :
      TargetStep operation target (target.offered claim nowMs)
  | released (prior : PackageUpdaterClaim) (nowMs : Int)
      (expired : target.expiredClaim nowMs = some prior) :
      TargetStep operation target (target.claimReleased prior nowMs)
  | acknowledged (acknowledgement : PackageUpdaterInvocationAcknowledgement)
      (invocation : PackageUpdaterInvocation) (nowMs : Int) (ready : target.dispatchReady)
      (bound : target.invocation = some invocation) (valid : Valid acknowledgement)
      (operationId : acknowledgement.operationId = invocation.operationId)
      (deviceId : acknowledgement.deviceId = invocation.deviceId)
      (requestId : acknowledgement.ownerActionRequestId = invocation.ownerActionRequestId) :
      TargetStep operation target (target.acknowledged acknowledgement nowMs)
  | received (receipt : PackageUpdaterEffectiveReceipt) (invocation : PackageUpdaterInvocation)
      (nowMs : Int) (inflight : target.lifecycle ∈ [.dispatched, .running, .cancellationRequested])
      (bound : target.invocation = some invocation) (proves : receipt.validateFor invocation = []) :
      TargetStep operation target (target.received receipt nowMs)
  | progressed (progress : PackageUpdaterProgress) (invocation : PackageUpdaterInvocation) (nowMs : Int)
      (bound : target.invocation = some invocation) (reports : progress.validateFor invocation = [])
      (acknowledged : ∃ acknowledgement, target.invocationAcknowledgement = some acknowledgement ∧
        FleetHub.acknowledgesProgress progress acknowledgement)
      (newer : ∀ prior, target.ownerProgress = some prior → prior.observedAtMs < progress.observedAtMs)
      (allowed : packageProgressTransitionAllowed target.stage progress.stage = true) :
      TargetStep operation target (target.progressed progress nowMs)

variable {operation : PackageInstallReleaseOperation} {target next : PackageInstallTargetLedger}

theorem TargetLedger.inflight_of_transition (ledger : TargetLedger operation target)
    (stage : PackageUpdaterProgressStage)
    (allowed : packageProgressTransitionAllowed target.stage stage = true) :
    target.preflight.eligible = true ∧
      (target.lifecycle = .dispatched ∨ target.lifecycle = .running ∨
        target.lifecycle = .cancellationRequested) := by
  cases eligible : target.preflight.eligible with
  | false =>
    obtain ⟨_, rejected, _⟩ := ledger.excluded eligible
    rw [rejected] at allowed
    cases allowed
  | true =>
    refine ⟨rfl, ?_⟩
    have phase := ledger.phase eligible
    unfold PhaseFacts at phase
    split at phase
    case h_1 => rw [phase.1] at allowed; cases allowed
    case h_2 =>
      rcases phase.1 with ⟨approved, _⟩ | ⟨ready, _⟩
      · rw [approved] at allowed; cases allowed
      · rw [ready] at allowed; cases allowed
    case h_3 lifecycle => exact .inl lifecycle
    case h_4 lifecycle => exact .inr (.inl lifecycle)
    case h_5 lifecycle => exact .inr (.inr lifecycle)
    case h_6 => rw [phase.1] at allowed; cases allowed
    case h_7 => rw [phase.1] at allowed; cases allowed
    case h_8 => rw [phase.1] at allowed; cases allowed
    case h_9 => rw [phase.1] at allowed; cases allowed
    all_goals exact phase.elim

theorem TargetLedger.eligible_of_lifecycle (ledger : TargetLedger operation target)
    (live : target.lifecycle ≠ .rejected) : target.preflight.eligible = true := by
  cases eligible : target.preflight.eligible with
  | true => rfl
  | false => exact absurd (ledger.excluded eligible).1 live

theorem TargetStep.unsettled (ledger : TargetLedger operation target)
    (step : TargetStep operation target next) : target.lifecycle.isSettled = false := by
  cases step with
  | confirmed nowMs eligible proposed => rw [proposed]; rfl
  | prepared ownerActionRequestId nowMs accepted approved => rw [accepted]; rfl
  | offered claim nowMs ready => rw [ready.1]; rfl
  | released prior nowMs expired =>
    unfold PackageInstallTargetLedger.expiredClaim at expired
    split at expired
    · rename_i ready
      rw [ready.1]; rfl
    · cases expired
  | acknowledged acknowledgement invocation nowMs ready => rw [ready.1]; rfl
  | received receipt invocation nowMs inflight =>
    simp only [List.mem_cons, List.not_mem_nil, or_false] at inflight
    rcases inflight with lifecycle | lifecycle | lifecycle <;> rw [lifecycle] <;> rfl
  | progressed progress invocation nowMs bound reports acknowledged newer allowed =>
    obtain ⟨_, lifecycle | lifecycle | lifecycle⟩ := ledger.inflight_of_transition progress.stage allowed <;>
      rw [lifecycle] <;> rfl

theorem TargetStep.same_target (step : TargetStep operation target next) :
    next.deviceId = target.deviceId ∧ next.identityRevision = target.identityRevision ∧
      next.preflight = target.preflight := by
  cases step with
  | confirmed nowMs eligible proposed =>
    rw [PackageInstallTargetLedger.confirmed, if_pos eligible]
    exact ⟨rfl, rfl, rfl⟩
  | released prior nowMs expired =>
    unfold PackageInstallTargetLedger.claimReleased
    simp only
    split <;> exact ⟨rfl, rfl, rfl⟩
  | _ => exact ⟨rfl, rfl, rfl⟩

theorem claim_facts {claim : PackageUpdaterClaim} (valid : Valid claim) :
    isPortableId claim.claimId 256 = true ∧ isPortableId claim.requestId 256 = true ∧
      claim.claimedAtMs < claim.expiresAtMs ∧ claim.expiresAtMs ≤ claim.invocation.expiresAtMs ∧
      Valid claim.invocation := by
  simp only [Valid, violations, List.append_eq_nil_iff, violationIf_nil, identifierViolations_nil,
    List.forall_mem_cons] at valid
  obtain ⟨⟨⟨header, claimId, _, requestId, _⟩, _⟩, invocation⟩ := valid
  refine ⟨claimId, requestId, by omega, by omega, ?_⟩
  simpa only [Valid, violations, List.append_eq_nil_iff, violationIf_nil, identifierViolations_nil,
    List.forall_mem_cons] using invocation

theorem progress_facts {progress : PackageUpdaterProgress} {invocation : PackageUpdaterInvocation}
    (reports : progress.validateFor invocation = []) :
    isPortableId progress.code 256 = true ∧ progress.message.isEmpty = false ∧
      progress.operationId = invocation.operationId ∧ progress.deviceId = invocation.deviceId ∧
      progress.ownerActionRequestId = invocation.ownerActionRequestId ∧
      progress.observedAtMs ≤ invocation.expiresAtMs := by
  simp only [PackageUpdaterProgress.validateFor, violationIf_nil, not_or, not_not, ne_eq] at reports
  obtain ⟨_, operationId, deviceId, requestId, _, window, code, message, _⟩ := reports
  exact ⟨code, by simpa using message, operationId, deviceId, requestId, by omega⟩

theorem ClaimEvidence.prepared (claims : ClaimEvidence target) (unprepared : target.invocation = none)
    (free : target.ownerClaim = none) (invocation : PackageUpdaterInvocation) (nowMs : Int) :
    ClaimEvidence (target.prepared invocation nowMs) where
  bounded := claims.bounded
  prior := by
    intro claim member
    have bound := (claims.prior claim member).2.1
    rw [unprepared] at bound
    cases bound
  held := by
    intro claim held
    simp only [PackageInstallTargetLedger.prepared, free] at held
    cases held
  consumed := claims.consumed

theorem ClaimEvidence.offered (claims : ClaimEvidence target) {claim : PackageUpdaterClaim} (nowMs : Int)
    (valid : Valid claim) (bound : target.invocation = some claim.invocation)
    (room : target.consumedOwnerClaimIdentities.length < maxConsumedPackageOwnerClaims)
    (fresh : ∀ identity ∈ target.consumedOwnerClaimIdentities,
      identity.claimId ≠ claim.claimId ∧ identity.requestId ≠ claim.requestId) :
    ClaimEvidence (target.offered claim nowMs) where
  bounded := claims.bounded
  prior := by
    intro prior member
    obtain ⟨priorValid, priorBound, spent⟩ := claims.prior prior member
    exact ⟨priorValid, priorBound, List.mem_append_left _ spent⟩
  held := by
    intro held same
    cases same
    exact ⟨valid, bound, List.mem_append_right _ (List.mem_singleton_self _)⟩
  consumed := by
    obtain ⟨claimId, requestId, _⟩ := claim_facts valid
    obtain ⟨limit, portable, distinct⟩ := claims.consumed
    refine ⟨?_, ?_, Support.pairwise_snoc distinct fresh⟩
    · simp only [PackageInstallTargetLedger.offered, List.length_append, List.length_singleton]
      omega
    · intro identity member
      rcases List.mem_append.mp member with earlier | single
      · exact portable identity earlier
      · rw [List.mem_singleton.mp single]
        exact ⟨claimId, requestId⟩

theorem expiredClaim_held {prior : PackageUpdaterClaim} {nowMs : Int}
    (expired : target.expiredClaim nowMs = some prior) : target.ownerClaim = some prior := by
  unfold PackageInstallTargetLedger.expiredClaim at expired
  split at expired
  · exact (Option.filter_eq_some_iff.mp expired).1
  · cases expired

theorem ClaimEvidence.released (claims : ClaimEvidence target) {prior : PackageUpdaterClaim}
    (held : target.ownerClaim = some prior) (nowMs : Int) : ClaimEvidence (target.claimReleased prior nowMs) := by
  have retained : ∀ claim ∈ (if target.priorOwnerClaims.length ≥ maxPriorOwnerClaims
      then target.priorOwnerClaims.tail else target.priorOwnerClaims) ++ [prior],
      Valid claim ∧ target.invocation = some claim.invocation ∧ target.consumesClaim claim := by
    intro claim member
    rcases List.mem_append.mp member with earlier | single
    · split at earlier
      · exact claims.prior claim (List.mem_of_mem_tail earlier)
      · exact claims.prior claim earlier
    · rw [List.mem_singleton.mp single]
      exact claims.held prior held
  have length : ((if target.priorOwnerClaims.length ≥ maxPriorOwnerClaims
      then target.priorOwnerClaims.tail else target.priorOwnerClaims) ++ [prior]).length ≤
      maxPriorOwnerClaims := by
    have bounded := claims.bounded
    rw [List.length_append, List.length_singleton]
    split
    · rw [List.length_tail]
      unfold maxPriorOwnerClaims at *
      omega
    · omega
  unfold PackageInstallTargetLedger.claimReleased
  simp only
  split <;> exact ⟨length, retained, (fun claim none => nomatch none), claims.consumed⟩

theorem TargetStep.claims (ledger : TargetLedger operation target)
    (step : TargetStep operation target next) (eligible : target.preflight.eligible = true) :
    ClaimEvidence next := by
  have claims := ledger.claims eligible
  cases step with
  | confirmed nowMs _ proposed =>
    rw [PackageInstallTargetLedger.confirmed, if_pos eligible]
    exact ⟨claims.bounded, claims.prior, claims.held, claims.consumed⟩
  | prepared ownerActionRequestId nowMs accepted approved =>
    have phase := ledger.phase eligible
    simp only [PhaseFacts, accepted, approved] at phase
    obtain ⟨⟨_, unprepared, free⟩ | ⟨other, _⟩, _⟩ := phase
    · exact claims.prepared unprepared free _ nowMs
    · cases other
  | offered claim nowMs ready valid begun alive bound free room fresh =>
    exact claims.offered nowMs valid bound room fresh
  | released prior nowMs expired => exact claims.released (expiredClaim_held expired) nowMs
  | acknowledged acknowledgement invocation nowMs ready bound valid operationId deviceId requestId =>
    exact ⟨claims.bounded, claims.prior, claims.held, claims.consumed⟩
  | received receipt invocation nowMs inflight bound proves =>
    exact ⟨claims.bounded, claims.prior, claims.held, claims.consumed⟩
  | progressed progress invocation nowMs bound reports acknowledged newer allowed =>
    exact ⟨claims.bounded, claims.prior, claims.held, claims.consumed⟩

theorem ready_phase (ledger : TargetLedger operation target) (ready : target.dispatchReady) :
    target.preflight.eligible = true ∧ target.invocation.isSome ∧
      (∀ claim, target.ownerClaim = some claim → target.lastTransitionMs < claim.expiresAtMs) ∧
      target.invocationAcknowledgement = none ∧ target.ownerProgress = none ∧
      target.effectiveReceipt = none := by
  obtain ⟨accepted, stage⟩ := ready
  have eligible := ledger.eligible_of_lifecycle (by rw [accepted]; decide)
  have phase := ledger.phase eligible
  simp only [PhaseFacts, accepted, stage] at phase
  obtain ⟨⟨other, _⟩ | ⟨_, prepared, recent⟩, acknowledgement, progress, receipt⟩ := phase
  · cases other
  · exact ⟨eligible, prepared, recent, acknowledgement, progress, receipt⟩

theorem inflight_phase (ledger : TargetLedger operation target)
    (inflight : target.lifecycle = .dispatched ∨ target.lifecycle = .running ∨
      target.lifecycle = .cancellationRequested) :
    target.preflight.eligible = true ∧ Acknowledged target ∧
      (target.ownerProgress = none ∨ Reported target) ∧ target.effectiveReceipt = none := by
  have eligible := ledger.eligible_of_lifecycle (by
    rcases inflight with lifecycle | lifecycle | lifecycle <;> rw [lifecycle] <;> decide)
  have phase := ledger.phase eligible
  rcases inflight with lifecycle | lifecycle | lifecycle
  · simp only [PhaseFacts, lifecycle] at phase
    obtain ⟨_, acknowledged, progress, receipt⟩ := phase
    exact ⟨eligible, acknowledged, .inl progress, receipt⟩
  · simp only [PhaseFacts, lifecycle] at phase
    obtain ⟨_, acknowledged, ⟨invocation, progress, bound, retained, reports, _⟩, receipt⟩ := phase
    exact ⟨eligible, acknowledged, .inr ⟨invocation, progress, bound, retained, reports⟩, receipt⟩
  · simp only [PhaseFacts, lifecycle] at phase
    obtain ⟨_, acknowledged, ⟨invocation, progress, bound, retained, reports, _⟩, receipt⟩ := phase
    exact ⟨eligible, acknowledged, .inr ⟨invocation, progress, bound, retained, reports⟩, receipt⟩

theorem progressed_phase (ledger : TargetLedger operation target) (progress : PackageUpdaterProgress)
    (invocation : PackageUpdaterInvocation) (nowMs : Int) (bound : target.invocation = some invocation)
    (reports : progress.validateFor invocation = [])
    (allowed : packageProgressTransitionAllowed target.stage progress.stage = true) :
    PhaseFacts (target.progressed progress nowMs) := by
  obtain ⟨_, inflight⟩ := ledger.inflight_of_transition progress.stage allowed
  obtain ⟨_, acknowledged, _, receipt⟩ := inflight_phase ledger inflight
  have reported : ReportedStage (target.progressed progress nowMs) :=
    ⟨invocation, progress, bound, rfl, reports, rfl⟩
  have prepared : target.invocation.isSome := by rw [bound]; rfl
  cases stage : progress.stage <;>
    simp only [PhaseFacts, PackageInstallTargetLedger.progressed, stage, progressStageToLifecycle,
      progressStageToInstallStage] at reported ⊢
  · exact ⟨by simp, acknowledged, reported, receipt⟩
  · exact ⟨by simp, acknowledged, reported, receipt⟩
  · exact ⟨trivial, acknowledged, reported, receipt⟩
  · exact ⟨trivial, acknowledged, reported, receipt⟩
  · exact ⟨by simp, acknowledged, reported, receipt⟩
  · exact ⟨trivial, prepared, receipt, .inr reported⟩
  · exact ⟨trivial, prepared, receipt, reported⟩

theorem acknowledged_phase (ledger : TargetLedger operation target)
    (acknowledgement : PackageUpdaterInvocationAcknowledgement) (invocation : PackageUpdaterInvocation)
    (nowMs : Int) (ready : target.dispatchReady) (bound : target.invocation = some invocation)
    (valid : Valid acknowledgement) (operationId : acknowledgement.operationId = invocation.operationId)
    (deviceId : acknowledgement.deviceId = invocation.deviceId)
    (requestId : acknowledgement.ownerActionRequestId = invocation.ownerActionRequestId) :
    PhaseFacts (target.acknowledged acknowledgement nowMs) := by
  obtain ⟨_, prepared, _, _, progress, receipt⟩ := ready_phase ledger ready
  cases accepted : acknowledgement.accepted with
  | true =>
    simp only [PhaseFacts, PackageInstallTargetLedger.acknowledged, accepted, if_true]
    exact ⟨trivial, ⟨invocation, acknowledgement, bound, rfl, valid, accepted, operationId, deviceId,
      requestId⟩, progress, receipt⟩
  | false =>
    simp only [PhaseFacts, PackageInstallTargetLedger.acknowledged, accepted, Bool.false_eq_true,
      if_false]
    exact ⟨trivial, prepared, receipt, .inl progress⟩

theorem TargetStep.phase (ledger : TargetLedger operation target)
    (step : TargetStep operation target next) : PhaseFacts next := by
  cases step with
  | confirmed nowMs eligible proposed =>
    have phase := ledger.phase eligible
    simp only [PhaseFacts, proposed, PackageInstallTargetLedger.hasOwnerEvidence, not_or,
      Option.not_isSome_iff_eq_none] at phase
    obtain ⟨_, invocation, claim, acknowledgement, progress, receipt⟩ := phase
    simp only [PackageInstallTargetLedger.confirmed, if_pos eligible, PhaseFacts]
    exact ⟨.inl ⟨trivial, invocation, claim⟩, acknowledgement, progress, receipt⟩
  | prepared ownerActionRequestId nowMs accepted approved =>
    have eligible := ledger.eligible_of_lifecycle (by rw [accepted]; decide)
    have phase := ledger.phase eligible
    simp only [PhaseFacts, accepted, approved] at phase
    obtain ⟨⟨_, _, free⟩ | ⟨other, _⟩, evidence⟩ := phase
    · simp only [PackageInstallTargetLedger.prepared, PhaseFacts, free]
      exact ⟨.inr ⟨trivial, rfl, nofun⟩, evidence⟩
    · cases other
  | offered claim nowMs ready valid begun alive bound free room fresh =>
    obtain ⟨_, prepared, _, evidence⟩ := ready_phase ledger ready
    have recent : ∀ held, some claim = some held → nowMs < held.expiresAtMs := by
      intro held same
      cases same
      exact alive
    simp only [PackageInstallTargetLedger.offered, PhaseFacts, ready.1]
    exact ⟨.inr ⟨ready.2, prepared, recent⟩, evidence⟩
  | released prior nowMs expired =>
    have ready : target.dispatchReady := by
      unfold PackageInstallTargetLedger.expiredClaim at expired
      split at expired
      · assumption
      · cases expired
    obtain ⟨_, prepared, _, acknowledgement, progress, receipt⟩ := ready_phase ledger ready
    unfold PackageInstallTargetLedger.claimReleased
    simp only
    split
    · exact ⟨rfl, prepared, receipt, .inl progress⟩
    · exact ⟨.inr ⟨rfl, prepared, nofun⟩, acknowledgement, progress, receipt⟩
  | acknowledged acknowledgement invocation nowMs ready bound valid operationId deviceId requestId =>
    exact acknowledged_phase ledger acknowledgement invocation nowMs ready bound valid operationId deviceId
      requestId
  | received receipt invocation nowMs inflight bound proves =>
    have live : target.lifecycle = .dispatched ∨ target.lifecycle = .running ∨
        target.lifecycle = .cancellationRequested := by
      simpa using inflight
    obtain ⟨_, acknowledged, progress, _⟩ := inflight_phase ledger live
    simp only [PackageInstallTargetLedger.received, PhaseFacts]
    exact ⟨trivial, acknowledged, ⟨invocation, receipt, bound, rfl, proves⟩, progress⟩
  | progressed progress invocation nowMs bound reports acknowledged newer allowed =>
    exact progressed_phase ledger progress invocation nowMs bound reports allowed

theorem TargetStep.texts (step : TargetStep operation target next) :
    isPortableId next.reasonCode 256 = true ∧ next.message.isEmpty = false := by
  cases step with
  | confirmed nowMs eligible proposed =>
    simp only [PackageInstallTargetLedger.confirmed, if_pos eligible]
    exact ⟨by decide, by decide⟩
  | prepared =>
    simp only [PackageInstallTargetLedger.prepared]
    exact ⟨by decide, by decide⟩
  | offered =>
    simp only [PackageInstallTargetLedger.offered]
    exact ⟨by decide, by decide⟩
  | released prior nowMs expired =>
    simp only [PackageInstallTargetLedger.claimReleased]
    split
    · simp only
      exact ⟨by decide, by decide⟩
    · simp only
      exact ⟨by decide, by decide⟩
  | acknowledged acknowledgement =>
    simp only [PackageInstallTargetLedger.acknowledged]
    split <;> exact ⟨by decide, by decide⟩
  | received =>
    simp only [PackageInstallTargetLedger.received]
    exact ⟨by decide, by decide⟩
  | progressed progress invocation nowMs bound reports =>
    exact ⟨(progress_facts reports).1, (progress_facts reports).2.1⟩

theorem TargetStep.invocation (ledger : TargetLedger operation target)
    (step : TargetStep operation target next) :
    next.invocation = target.invocation ∨
      (target.invocation = none ∧
        ∃ requestId, next.invocation = some (operation.invocationFor target requestId)) := by
  cases step with
  | confirmed nowMs eligible proposed =>
    rw [PackageInstallTargetLedger.confirmed, if_pos eligible]
    exact .inl rfl
  | prepared ownerActionRequestId nowMs accepted approved =>
    have eligible := ledger.eligible_of_lifecycle (by rw [accepted]; decide)
    have phase := ledger.phase eligible
    simp only [PhaseFacts, accepted, approved] at phase
    obtain ⟨⟨_, unprepared, _⟩ | ⟨other, _⟩, _⟩ := phase
    · exact .inr ⟨unprepared, ownerActionRequestId, rfl⟩
    · cases other
  | released prior nowMs expired =>
    unfold PackageInstallTargetLedger.claimReleased
    simp only
    split <;> exact .inl rfl
  | _ => exact .inl rfl

theorem TargetStep.invocation_frozen (ledger : TargetLedger operation target)
    (step : TargetStep operation target next) (invocation : PackageUpdaterInvocation)
    (bound : next.invocation = some invocation) :
    invocation = operation.invocationFor next invocation.ownerActionRequestId := by
  obtain ⟨deviceId, identityRevision, _⟩ := step.same_target
  have same : ∀ requestId, operation.invocationFor next requestId =
      operation.invocationFor target requestId := by
    intro requestId
    simp only [PackageInstallReleaseOperation.invocationFor, deviceId, identityRevision]
  rcases step.invocation ledger with kept | ⟨_, requestId, prepared⟩
  · rw [same]
    exact ledger.invocation invocation (kept ▸ bound)
  · rw [prepared] at bound
    cases bound
    rw [same]
    rfl

theorem TargetStep.ledger (ledger : TargetLedger operation target)
    (step : TargetStep operation target next) : TargetLedger operation next := by
  obtain ⟨deviceId, identityRevision, preflight⟩ := step.same_target
  obtain ⟨reason, message⟩ := step.texts
  have unsettled := step.unsettled ledger
  have eligible : target.preflight.eligible = true :=
    ledger.eligible_of_lifecycle fun rejected => by rw [rejected] at unsettled; cases unsettled
  refine
    { frozen := ?_, identity := ?_, positive := ?_, portable := ?_, reason := reason, message := message,
      invocation := step.invocation_frozen ledger, excluded := ?_,
      claims := fun _ => step.claims ledger eligible, phase := fun _ => step.phase ledger }
  · rw [deviceId, preflight]; exact ledger.frozen
  · rw [identityRevision, preflight]; exact ledger.identity
  · rw [identityRevision]; exact ledger.positive
  · rw [deviceId]; exact ledger.portable
  · intro excluded
    rw [preflight, eligible] at excluded
    cases excluded

end RustyFleet.PackageSafety

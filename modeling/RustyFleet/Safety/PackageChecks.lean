import RustyFleet.Hub.Packages

namespace RustyFleet.PackageSafety

variable (hub : FleetHub)

/-- What `confirm_package_install_release` checks before it edits the stored operation. -/
structure ConfirmChecks (operationId previewId : String) (nowMs : Int)
    (operation : PackageInstallReleaseOperation) : Prop where
  stored : hub.packageOperations[operationId]? = some operation
  preview : operation.preview.previewId = previewId
  proposed : operation.lifecycle = .proposed
  unexpired : nowMs ≤ operation.preview.expiresAtMs
  current : hub.requirePackageTargetsCurrent operation nowMs operation.targets = .ok ()

structure PreviewChecks (plan : PackageInstallReleasePreviewPlan)
    (preflights : List PackageInstallTargetPreflight) : Prop where
  bounded : plan.validatePackagePreviewPlan = .ok ()
  unused : hub.packageOperations[plan.operationId]? = none
  unarchived : hub.packageOperationArchives[plan.operationId]? = none
  frozen : hub.requestedPreflights packageTargetTexts
    (fun _ record => .ok (hub.packageUpdaterPreflight record plan.createdAtMs))
    plan.request.targets.toList = .ok preflights
  admitted : Valid (plan.proposedOperation hub.resultRevision preflights)
  room : hub.packageOperations.size < maxPackageOperations

structure PrepareChecks (operationId deviceId : String) (nowMs : Int)
    (operation : PackageInstallReleaseOperation) (target : PackageInstallTargetLedger) : Prop where
  stored : hub.packageOperations[operationId]? = some operation
  unexpired : nowMs ≤ operation.preview.expiresAtMs
  current : hub.requirePackageTargetCurrent operation deviceId nowMs = .ok ()
  found : operation.findTarget deviceId = some target
  accepted : target.lifecycle = .accepted
  approved : target.stage = .approved

structure OfferChecks (claim : PackageUpdaterClaim) (nowMs : Int)
    (operation : PackageInstallReleaseOperation) (target : PackageInstallTargetLedger) : Prop where
  valid : Valid claim
  begun : claim.claimedAtMs ≤ nowMs
  alive : nowMs < claim.expiresAtMs
  fresh : hub.replaysConsumedClaim claim = false
  stored : hub.packageOperations[claim.invocation.operationId]? = some operation
  slot : operation.activeClaims nowMs < operation.maxParallelism
  found : operation.findTarget claim.invocation.deviceId = some target
  ready : target.dispatchReady
  bound : target.invocation = some claim.invocation
  free : target.ownerClaim = none
  room : target.consumedOwnerClaimIdentities.length < maxConsumedPackageOwnerClaims

structure AcknowledgementChecks (acknowledgement : PackageUpdaterInvocationAcknowledgement)
    (nowMs : Int) (operation : PackageInstallReleaseOperation) (target : PackageInstallTargetLedger)
    (invocation : PackageUpdaterInvocation) : Prop where
  stored : hub.packageOperations[acknowledgement.operationId]? = some operation
  found : operation.findTarget acknowledgement.deviceId = some target
  bound : target.invocation = some invocation
  valid : Valid acknowledgement
  operationId : acknowledgement.operationId = invocation.operationId
  deviceId : acknowledgement.deviceId = invocation.deviceId
  requestId : acknowledgement.ownerActionRequestId = invocation.ownerActionRequestId
  past : acknowledgement.acknowledgedAtMs ≤ nowMs
  unexpired : nowMs ≤ invocation.expiresAtMs
  ready : target.dispatchReady

structure ReceiptChecks (receipt : PackageUpdaterEffectiveReceipt) (nowMs : Int)
    (operation : PackageInstallReleaseOperation) (target : PackageInstallTargetLedger)
    (invocation : PackageUpdaterInvocation) : Prop where
  stored : hub.packageOperations[receipt.operationId]? = some operation
  found : operation.findTarget receipt.deviceId = some target
  bound : target.invocation = some invocation
  inflight : target.lifecycle ∈ [.dispatched, .running, .cancellationRequested]
  unexpired : nowMs ≤ invocation.expiresAtMs
  proves : receipt.validateFor invocation = []

/-- The report is bound, not future-dated, and follows an accepted acknowledgement. -/
structure ReportChecks (progress : PackageUpdaterProgress) (nowMs : Int)
    (operation : PackageInstallReleaseOperation) (target : PackageInstallTargetLedger)
    (invocation : PackageUpdaterInvocation) : Prop where
  stored : hub.packageOperations[progress.operationId]? = some operation
  found : operation.findTarget progress.deviceId = some target
  bound : target.invocation = some invocation
  reports : progress.validateFor invocation = []
  past : progress.observedAtMs ≤ nowMs
  acknowledged : ∃ acknowledgement, target.invocationAcknowledgement = some acknowledgement ∧
    FleetHub.acknowledgesProgress progress acknowledgement

/-- The report is news, and its stage follows the retained one. -/
structure AdvanceChecks (progress : PackageUpdaterProgress) (target : PackageInstallTargetLedger) :
    Prop where
  news : target.ownerProgress ≠ some progress
  newer : ∀ prior, target.ownerProgress = some prior → prior.observedAtMs < progress.observedAtMs
  allowed : packageProgressTransitionAllowed target.stage progress.stage = true

theorem packageOperation_ok (operationId : String) (operation : PackageInstallReleaseOperation) :
    hub.packageOperation operationId = .ok operation ↔
      hub.packageOperations[operationId]? = some operation ∨
        (hub.packageOperations[operationId]? = none ∧
          ∃ archive, hub.packageOperationArchives[operationId]? = some archive ∧
            archive.operation = operation) := by
  unfold FleetHub.packageOperation
  rw [orError_ok]
  cases stored : hub.packageOperations[operationId]? with
  | some active => simp
  | none => simp

theorem confirmEdit_rewritten (operationId previewId : String) (nowMs : Int)
    (next : PackageInstallReleaseOperation) :
    hub.packageConfirmEdit operationId previewId nowMs = .ok (.rewritten next) ↔
      ∃ operation, ConfirmChecks hub operationId previewId nowMs operation ∧
        next = operation.confirmed nowMs := by
  unfold FleetHub.packageConfirmEdit
  simp only [exceptBind_ok, errorIf_ok, packageOperation_ok]
  constructor
  · rintro ⟨existing, known, _, bound, edit⟩
    split at edit
    · cases edit
    · rename_i proposed
      simp only [exceptBind_ok, errorIf_ok, FleetHub.expectedPackageOperation, orError_ok, exceptPure_ok] at edit
      obtain ⟨_, unexpired, _, current, operation, stored, same⟩ := edit
      cases same
      rcases known with active | ⟨inactive, _⟩
      · cases active.symm.trans stored
        exact ⟨existing, ⟨stored, not_not.mp bound, not_not.mp proposed, by omega, current⟩, rfl⟩
      · rw [inactive] at stored
        cases stored
  · rintro ⟨operation, checks, rfl⟩
    refine ⟨operation, .inl checks.stored, (), not_not.mpr checks.preview, ?_⟩
    rw [if_neg (not_not.mpr checks.proposed)]
    simp only [exceptBind_ok, errorIf_ok, FleetHub.expectedPackageOperation, orError_ok, exceptPure_ok]
    have unexpired := checks.unexpired
    exact ⟨(), by omega, (), checks.current, operation, checks.stored, rfl⟩

theorem prepareEdit_rewritten (operationId deviceId ownerActionRequestId : String) (nowMs : Int)
    (next : PackageInstallReleaseOperation) :
    hub.packagePrepareEdit operationId deviceId ownerActionRequestId nowMs = .ok (.rewritten next) ↔
      ∃ operation target, PrepareChecks hub operationId deviceId nowMs operation target ∧
        next = (operation.rewriteTarget deviceId
          (·.prepared (operation.invocationFor target ownerActionRequestId) nowMs)).rederived := by
  unfold FleetHub.packagePrepareEdit
  simp only [exceptBind_ok, errorIf_ok, packageOperation_ok, FleetHub.expectedPackageOperation, orError_ok,
    exceptPure_ok, FleetHub.packageTarget, not_or, not_not, LedgerEdit.rewritten.injEq]
  constructor
  · rintro ⟨existing, known, _, unexpired, _, current, operation, stored, target, found, _,
      ⟨accepted, approved⟩, rfl⟩
    rcases known with active | ⟨inactive, _⟩
    · cases active.symm.trans stored
      exact ⟨existing, target, ⟨stored, by omega, current, found, accepted, approved⟩, rfl⟩
    · rw [inactive] at stored
      cases stored
  · rintro ⟨operation, target, checks, rfl⟩
    have unexpired := checks.unexpired
    exact ⟨operation, .inl checks.stored, (), by omega, (), checks.current, operation, checks.stored,
      target, checks.found, (), ⟨checks.accepted, checks.approved⟩, rfl⟩

theorem offerEdit_ok (claim : PackageUpdaterClaim) (nowMs : Int)
    (edit : LedgerEdit PackageInstallReleaseOperation) :
    hub.packageOfferEdit claim nowMs = .ok edit ↔
      ∃ operation target, OfferChecks hub claim nowMs operation target ∧
        edit = .rewritten (operation.rewriteTarget claim.invocation.deviceId (·.offered claim nowMs)) := by
  unfold FleetHub.packageOfferEdit
  simp only [exceptBind_ok, errorIf_ok, exceptPure_ok, FleetHub.packageTarget, orError_ok, not_or, not_not,
    Bool.not_eq_true, Option.isSome_eq_false_iff, Option.isNone_iff_eq_none, ne_eq]
  constructor
  · rintro ⟨_, ⟨valid, begun, alive⟩, _, fresh, operation, stored, _, slot, target, found, _,
      ⟨accepted, stage, bound, free⟩, _, room, rfl⟩
    exact ⟨operation, target, ⟨valid, by omega, by omega, fresh, stored, by omega, found,
      ⟨accepted, stage⟩, bound, free, by omega⟩, rfl⟩
  · rintro ⟨operation, target, checks, rfl⟩
    have begun := checks.begun
    have alive := checks.alive
    have slot := checks.slot
    have room := checks.room
    exact ⟨(), ⟨checks.valid, by omega, by omega⟩, (), checks.fresh, operation, checks.stored, (),
      by omega, target, checks.found, (), ⟨checks.ready.1, checks.ready.2, checks.bound, checks.free⟩, (),
      by omega, rfl⟩

theorem acknowledgementEdit_rewritten (acknowledgement : PackageUpdaterInvocationAcknowledgement)
    (nowMs : Int) (next : PackageInstallReleaseOperation) :
    hub.packageAcknowledgementEdit acknowledgement nowMs = .ok (.rewritten next) ↔
      ∃ operation target invocation,
        AcknowledgementChecks hub acknowledgement nowMs operation target invocation ∧
        next = (operation.rewriteTarget acknowledgement.deviceId
          (·.acknowledged acknowledgement nowMs)).rederived := by
  unfold FleetHub.packageAcknowledgementEdit
  simp only [exceptBind_ok, errorIf_ok, exceptPure_ok, FleetHub.packageTarget, FleetHub.packageInvocation,
    orError_ok, not_or, not_not, LedgerEdit.rewritten.injEq, ne_eq]
  constructor
  · rintro ⟨operation, stored, target, found, invocation, bound, _,
      ⟨valid, operationId, deviceId, requestId, past, unexpired⟩, _, ready, rfl⟩
    exact ⟨operation, target, invocation, ⟨stored, found, bound, valid, operationId, deviceId, requestId,
      by omega, by omega, ready⟩, rfl⟩
  · rintro ⟨operation, target, invocation, checks, rfl⟩
    have past := checks.past
    have unexpired := checks.unexpired
    exact ⟨operation, checks.stored, target, checks.found, invocation, checks.bound, (),
      ⟨checks.valid, checks.operationId, checks.deviceId, checks.requestId, by omega, by omega⟩, (),
      checks.ready, rfl⟩

theorem receiptEdit_rewritten (receipt : PackageUpdaterEffectiveReceipt) (nowMs : Int)
    (next : PackageInstallReleaseOperation) :
    hub.packageReceiptEdit receipt nowMs = .ok (.rewritten next) ↔
      ∃ operation target invocation, ReceiptChecks hub receipt nowMs operation target invocation ∧
        next = (operation.rewriteTarget receipt.deviceId (·.received receipt nowMs)).rederived := by
  unfold FleetHub.packageReceiptEdit
  simp only [exceptBind_ok, errorIf_ok, exceptPure_ok, FleetHub.packageTarget, FleetHub.packageInvocation,
    orError_ok, not_or, not_not, LedgerEdit.rewritten.injEq, ne_eq]
  constructor
  · rintro ⟨operation, stored, target, found, invocation, bound, _, inflight, _, ⟨unexpired, proves⟩, rfl⟩
    exact ⟨operation, target, invocation, ⟨stored, found, bound, inflight, by omega, proves⟩, rfl⟩
  · rintro ⟨operation, target, invocation, checks, rfl⟩
    have unexpired := checks.unexpired
    exact ⟨operation, checks.stored, target, checks.found, invocation, checks.bound, (), checks.inflight,
      (), ⟨by omega, checks.proves⟩, rfl⟩

theorem progressEdit_ok (progress : PackageUpdaterProgress) (nowMs : Int)
    (edit : LedgerEdit PackageInstallReleaseOperation) :
    hub.packageProgressEdit progress nowMs = .ok edit ↔
      ∃ operation target invocation, ReportChecks hub progress nowMs operation target invocation ∧
        ((target.ownerProgress = some progress ∧ edit = .unchanged operation) ∨
          (AdvanceChecks progress target ∧ edit = .rewritten (operation.rewriteTarget progress.deviceId
            (·.progressed progress nowMs)).rederived)) := by
  unfold FleetHub.packageProgressEdit
  simp only [exceptBind_ok, errorIf_ok, FleetHub.packageTarget, FleetHub.packageInvocation, orError_ok, not_or,
    not_not, ne_eq]
  constructor
  · rintro ⟨operation, stored, target, found, invocation, bound, _, ⟨reports, past, acknowledged⟩, edited⟩
    refine ⟨operation, target, invocation, ⟨stored, found, bound, reports, by omega, acknowledged⟩, ?_⟩
    split at edited
    · rename_i replayed
      rw [exceptPure_ok] at edited
      exact .inl ⟨replayed, edited.symm⟩
    · rename_i news
      simp only [exceptBind_ok, errorIf_ok, exceptPure_ok, not_or, not_exists, not_and, not_not] at edited
      obtain ⟨_, ⟨newer, allowed⟩, same⟩ := edited
      refine .inr ⟨⟨news, fun prior retained => ?_, allowed⟩, same.symm⟩
      have after := newer prior retained
      omega
  · rintro ⟨operation, target, invocation, checks, change⟩
    have past := checks.past
    refine ⟨operation, checks.stored, target, checks.found, invocation, checks.bound, (),
      ⟨checks.reports, by omega, checks.acknowledged⟩, ?_⟩
    rcases change with ⟨replayed, rfl⟩ | ⟨advance, rfl⟩
    · rw [if_pos replayed, exceptPure_ok]
    · rw [if_neg advance.news]
      simp only [exceptBind_ok, errorIf_ok, exceptPure_ok, not_or, not_exists, not_and, not_not]
      refine ⟨(), ⟨fun prior retained => ?_, advance.allowed⟩, trivial⟩
      have after := advance.newer prior retained
      omega

@[simp] theorem validatePackageOperation_ok (operation : PackageInstallReleaseOperation) (done : Unit) :
    validatePackageOperation operation = .ok done ↔ Valid operation := by
  rw [validatePackageOperation, errorIf_ok, not_not]

theorem previewEdit_ok (plan : PackageInstallReleasePreviewPlan)
    (edit : LedgerEdit PackageInstallReleaseOperation) :
    hub.packagePreviewEdit plan = .ok edit ↔
      plan.validatePackagePreviewPlan = .ok () ∧
        ((∃ existing, hub.packageOperations[plan.operationId]? = some existing ∧
            plan.matchesOperation existing ∧ edit = .unchanged existing) ∨
          (hub.packageOperations[plan.operationId]? = none ∧
            ∃ archive, hub.packageOperationArchives[plan.operationId]? = some archive ∧
              plan.matchesOperation archive.operation ∧ edit = .unchanged archive.operation) ∨
          ∃ preflights, PreviewChecks hub plan preflights ∧
            edit = .rewritten (plan.proposedOperation hub.resultRevision preflights)) := by
  unfold FleetHub.packagePreviewEdit
  rw [exceptBind_ok]
  cases active : hub.packageOperations[plan.operationId]? with
  | some existing =>
    simp only [exceptBind_ok, errorIf_ok, exceptPure_ok, not_not]
    constructor
    · rintro ⟨_, valid, _, agrees, rfl⟩
      exact ⟨valid, .inl ⟨existing, rfl, agrees, rfl⟩⟩
    · rintro ⟨valid, ⟨_, ⟨⟩, agrees, rfl⟩ | ⟨⟨⟩, _⟩ | ⟨_, checks, _⟩⟩
      · exact ⟨(), valid, (), agrees, rfl⟩
      · cases active.symm.trans checks.unused
  | none =>
    cases archived : hub.packageOperationArchives[plan.operationId]? with
    | some archive =>
      simp only [exceptBind_ok, errorIf_ok, exceptPure_ok, not_not]
      constructor
      · rintro ⟨_, valid, _, agrees, rfl⟩
        exact ⟨valid, .inr (.inl ⟨trivial, archive, rfl, agrees, rfl⟩)⟩
      · rintro ⟨valid, ⟨_, ⟨⟩, _⟩ | ⟨_, _, ⟨⟩, agrees, rfl⟩ | ⟨_, checks, _⟩⟩
        · exact ⟨(), valid, (), agrees, rfl⟩
        · cases archived.symm.trans checks.unarchived
    | none =>
      simp only [exceptBind_ok, errorIf_ok, exceptPure_ok, validatePackageOperation_ok]
      constructor
      · rintro ⟨_, valid, preflights, current, _, admitted, _, room, rfl⟩
        exact ⟨valid, .inr (.inr ⟨preflights, ⟨valid, active, archived, current, admitted, by omega⟩, rfl⟩)⟩
      · rintro ⟨valid, ⟨_, ⟨⟩, _⟩ | ⟨_, _, ⟨⟩, _⟩ | ⟨preflights, checks, rfl⟩⟩
        have room := checks.room
        exact ⟨(), valid, preflights, checks.frozen, (), checks.admitted, (), by omega, rfl⟩

section Archive

variable [OperationDigest]

structure ArchiveChecks (request : PackageOperationArchiveRequest) (nowMs : Int)
    (operation : PackageInstallReleaseOperation) : Prop where
  unarchived : hub.packageOperationArchives[request.operationId]? = none
  stored : hub.packageOperations[request.operationId]? = some operation
  terminal : operation.isTerminal = true
  digest : operation.operationSha256 = request.expectedOperationSha256
  room : hub.packageOperationArchives.size < maxArchivedPackageOperations
  late : operation.latestTransitionMs ≤ nowMs
  admitted : Valid (FleetHub.archiveRecord operation nowMs)

theorem archiveEdit_ok (request : PackageOperationArchiveRequest) (nowMs : Int)
    (edit : LedgerEdit PackageInstallReleaseArchive) :
    hub.packageArchiveEdit request nowMs = .ok edit ↔
      (Valid request ∧ 0 ≤ nowMs) ∧
        ((∃ existing, hub.packageOperationArchives[request.operationId]? = some existing ∧
            existing.operationSha256 = request.expectedOperationSha256 ∧ edit = .unchanged existing) ∨
          ∃ operation, ArchiveChecks hub request nowMs operation ∧
            edit = .rewritten (FleetHub.archiveRecord operation nowMs)) := by
  unfold FleetHub.packageArchiveEdit
  rw [exceptBind_ok]
  simp only [errorIf_ok, not_or, not_not, Int.not_lt]
  cases archived : hub.packageOperationArchives[request.operationId]? with
  | some existing =>
    simp only [exceptBind_ok, errorIf_ok, exceptPure_ok, not_not]
    constructor
    · rintro ⟨_, valid, _, digest, rfl⟩
      exact ⟨valid, .inl ⟨existing, rfl, digest, rfl⟩⟩
    · rintro ⟨valid, ⟨_, ⟨⟩, digest, rfl⟩ | ⟨_, checks, _⟩⟩
      · exact ⟨(), valid, (), digest, rfl⟩
      · cases archived.symm.trans checks.unarchived
  | none =>
    simp only [exceptBind_ok, errorIf_ok, exceptPure_ok, orError_ok, not_not]
    constructor
    · rintro ⟨_, valid, operation, stored, _, terminal, _, digest, _, room, _, late, _, admitted, rfl⟩
      exact ⟨valid, .inr ⟨operation, ⟨archived, stored, terminal, digest, by omega, by omega, admitted⟩,
        rfl⟩⟩
    · rintro ⟨valid, ⟨_, ⟨⟩, _⟩ | ⟨operation, checks, rfl⟩⟩
      have room := checks.room
      have late := checks.late
      exact ⟨(), valid, operation, checks.stored, (), checks.terminal, (), checks.digest, (), by omega, (),
        by omega, (), checks.admitted, rfl⟩

end Archive

end RustyFleet.PackageSafety

import RustyFleet.Safety.PackageCalls

namespace RustyFleet.PackageSafety

variable {hub : FleetHub} {operation : PackageInstallReleaseOperation}
  {target : PackageInstallTargetLedger}

/-- The evidence behind an applied target: its frozen invocation, the owner's acceptance, the installed version. -/
def ProvenInstall (operation : PackageInstallReleaseOperation) (target : PackageInstallTargetLedger) : Prop :=
  ∃ invocation acknowledgement receipt,
    target.invocation = some invocation ∧ operation.freezes target invocation ∧
    target.invocationAcknowledgement = some acknowledgement ∧ acknowledgement.accepts invocation ∧
    target.effectiveReceipt = some receipt ∧ receipt.validateFor invocation = [] ∧
    receipt.updaterReceipt.stage = .installCommit ∧ receipt.updaterReceipt.decision = .accepted ∧
    receipt.updaterReceipt.packageName = some operation.preview.expectedPackageName ∧
    receipt.updaterReceipt.rolloutRing = some operation.preview.expectedRolloutRing

theorem proves_installed {receipt : PackageUpdateReceipt} {packageName rolloutRing : String}
    (proves : receipt.provesInstalledVersion packageName rolloutRing = true) :
    receipt.stage = .installCommit ∧ receipt.decision = .accepted ∧
      receipt.packageName = some packageName ∧ receipt.rolloutRing = some rolloutRing := by
  unfold PackageUpdateReceipt.provesInstalledVersion at proves
  split at proves
  · cases proves
  · simp only [Bool.and_eq_true, beq_iff_eq] at proves
    obtain ⟨⟨⟨⟨⟨⟨⟨⟨⟨⟨⟨⟨_, stage⟩, decision⟩, package⟩, ring⟩, _⟩, _⟩, _⟩, _⟩, _⟩, _⟩, _⟩, _⟩ := proves
    exact ⟨stage, decision, package, ring⟩

theorem applied_proven (ledger : OperationLedger operation) (member : target ∈ operation.targets)
    (applied : target.lifecycle = .applied) : ProvenInstall operation target := by
  have own := ledger.targets target member
  have eligible := own.eligible_of_lifecycle (by rw [applied]; decide)
  have phase := own.phase eligible
  simp only [PhaseFacts, applied] at phase
  obtain ⟨_, ⟨invocation, acknowledgement, bound, retained, accepts⟩, installed, _⟩ := phase
  obtain ⟨same, receipt, also, kept, valid⟩ := installed
  cases bound.symm.trans also
  have frozen := own.freezes invocation bound
  have proves := valid
  simp only [PackageUpdaterEffectiveReceipt.validateFor, List.append_eq_nil_iff, violationIf_nil, not_not]
    at proves
  obtain ⟨stage, decision, package, ring⟩ := proves_installed proves.2
  obtain ⟨_, _, _, _, _, samePackage, sameRing⟩ := id frozen
  exact ⟨invocation, acknowledgement, receipt, bound, frozen, retained, accepts, kept, valid, stage,
    decision, samePackage ▸ package, sameRing ▸ ring⟩

theorem packageOperation_ledger [OperationDigest] (packages : PackageHub hub) {operationId : String}
    (known : hub.packageOperation operationId = .ok operation) : OperationLedger operation := by
  rcases (packageOperation_ok hub operationId operation).mp known with
    active | ⟨_, archive, archived, rfl⟩
  · exact packages.ledger active
  · exact (packages.holds.2 operationId archive archived).ledger.2

theorem archived_readable [OperationDigest] (packages : PackageHub hub) {operationId : String}
    {archive : PackageInstallReleaseArchive}
    (archived : hub.packageOperationArchives[operationId]? = some archive) :
    hub.packageOperation operationId = .ok archive.operation ∧
      hub.packageOperationProgress operationId = .ok archive.progress := by
  have inactive : hub.packageOperations[operationId]? = none := by
    cases active : hub.packageOperations[operationId]? with
    | none => rfl
    | some operation => cases (packages.apart operationId operation active).symm.trans archived
  refine ⟨(packageOperation_ok hub operationId archive.operation).mpr (.inr ⟨inactive, archive, archived,
    rfl⟩), ?_⟩
  rw [FleetHub.packageOperationProgress, orError_ok, inactive, archived]
  rfl

section Runs

variable [HubEnvironment]

theorem packageOperation_later (packages : PackageHub hub) (further : List HubCall) {operationId : String}
    (known : hub.packageOperation operationId = .ok operation) :
    ∃ next, (fleetHubMachine.run hub further).packageOperation operationId = .ok next ∧
      LaterOperation operation next := by
  have keeps := run_keeps packages further
  have later := fleetHubMachine.run_invariant (fun _ _ => True) PackageHub
    (fun _ call _ inv => call_keeps_packages inv call) hub further (fleetHubMachine.admits_true _ _) packages
  rcases (packageOperation_ok hub operationId operation).mp known with
    active | ⟨_, archive, archived, rfl⟩
  · rcases keeps.active operationId operation active with ⟨next, live, after⟩ | ⟨record, retired, after⟩
    · exact ⟨next, (packageOperation_ok _ _ _).mpr (.inl live), after⟩
    · exact ⟨record.operation, (archived_readable later retired).1, after⟩
  · exact ⟨archive.operation, (archived_readable later (keeps.archived operationId archive archived)).1,
      .refl _⟩

/-- In every reachable Hub an applied target is proven, and no prepared invocation is replaced or removed. -/
theorem installed_means_proven (policy : AssertedPolicy) (calls : List HubCall) :
    let hub := fleetHubMachine.run (.new policy) calls
    (∀ operationId operation, hub.packageOperation operationId = .ok operation →
      ∀ target ∈ operation.targets, target.lifecycle = .applied → ProvenInstall operation target) ∧
      ∀ further operationId operation, hub.packageOperation operationId = .ok operation →
        ∃ next, (fleetHubMachine.run hub further).packageOperation operationId = .ok next ∧
          List.Forall₂ (fun before after : PackageInstallTargetLedger =>
            after.deviceId = before.deviceId ∧
              ∀ invocation, before.invocation = some invocation → after.invocation = some invocation)
            operation.targets next.targets := by
  intro hub
  have packages : PackageHub hub := run_packages policy calls
  refine ⟨?_, ?_⟩
  · intro operationId operation known target member applied
    exact applied_proven (packageOperation_ledger packages known) member applied
  · intro further operationId operation known
    obtain ⟨next, readable, later⟩ := packageOperation_later packages further known
    exact ⟨next, readable, later.targets.imp fun before after change => ⟨change.same.1, change.invoked⟩⟩

/-- Settled targets stay as they are, reports only get newer, and what was previewed never changes. -/
theorem settled_targets_absorb (policy : AssertedPolicy) (calls : List HubCall) :
    let hub := fleetHubMachine.run (.new policy) calls
    (∀ further operationId operation, hub.packageOperation operationId = .ok operation →
      ∃ next, (fleetHubMachine.run hub further).packageOperation operationId = .ok next ∧
        List.Forall₂ (fun before after : PackageInstallTargetLedger => before.lifecycle.isSettled = true →
            after.lifecycle = before.lifecycle ∧ after.stage = before.stage ∧
              after.invocationAcknowledgement = before.invocationAcknowledgement ∧
              after.ownerProgress = before.ownerProgress ∧ after.effectiveReceipt = before.effectiveReceipt)
          operation.targets next.targets) ∧
      (∀ further operationId operation, hub.packageOperation operationId = .ok operation →
        ∃ next, (fleetHubMachine.run hub further).packageOperation operationId = .ok next ∧
          List.Forall₂ (fun before after : PackageInstallTargetLedger =>
              after.ownerProgress = before.ownerProgress ∨
                ∃ progress, after.ownerProgress = some progress ∧
                  ∀ prior, before.ownerProgress = some prior → prior.observedAtMs < progress.observedAtMs)
            operation.targets next.targets) ∧
      ∀ further operationId operation, hub.packageOperation operationId = .ok operation →
        ∃ next, (fleetHubMachine.run hub further).packageOperation operationId = .ok next ∧
          next.preview = operation.preview ∧ next.maxParallelism = operation.maxParallelism ∧
          next.createdAtMs = operation.createdAtMs ∧
          List.Forall₂ (fun before after : PackageInstallTargetLedger => after.deviceId = before.deviceId ∧
              after.identityRevision = before.identityRevision ∧ after.preflight = before.preflight)
            operation.targets next.targets := by
  intro hub
  have packages : PackageHub hub := run_packages policy calls
  refine ⟨?_, ?_, ?_⟩
  · intro further operationId operation known
    obtain ⟨next, readable, later⟩ := packageOperation_later packages further known
    exact ⟨next, readable, later.targets.imp fun before after change => change.settled⟩
  · intro further operationId operation known
    obtain ⟨next, readable, later⟩ := packageOperation_later packages further known
    exact ⟨next, readable, later.targets.imp fun before after change => change.reported⟩
  · intro further operationId operation known
    obtain ⟨next, readable, later⟩ := packageOperation_later packages further known
    refine ⟨next, readable, ?_, ?_, ?_, later.targets.imp fun before after change => change.same⟩ <;>
      rw [later.frozen]

end Runs

end RustyFleet.PackageSafety

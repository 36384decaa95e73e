import RustyFleet.Safety.PackageAtomicity

namespace RustyFleet.PackageSafety

variable {hub : FleetHub}

/-- What a progress report must satisfy to be admitted: it is bound, timely, acknowledged, and a replay or news. -/
def ProgressRule (hub : FleetHub) (progress : PackageUpdaterProgress) (nowMs : Int) : Prop :=
  ∃ operation target invocation acknowledgement,
    hub.packageOperations[progress.operationId]? = some operation ∧
    operation.findTarget progress.deviceId = some target ∧
    target.invocation = some invocation ∧ progress.validateFor invocation = [] ∧
    progress.observedAtMs ≤ nowMs ∧
    target.invocationAcknowledgement = some acknowledgement ∧
    FleetHub.acknowledgesProgress progress acknowledgement ∧
    (target.ownerProgress = some progress ∨
      ((∀ prior, target.ownerProgress = some prior → prior.observedAtMs < progress.observedAtMs) ∧
        packageProgressTransitionAllowed target.stage progress.stage = true))

/-- The report takes its target back from a requested cancellation while every delivery slot is occupied. -/
def ReclaimsOccupiedSlot (hub : FleetHub) (progress : PackageUpdaterProgress) : Prop :=
  ∃ operation target, hub.packageOperations[progress.operationId]? = some operation ∧
    operation.findTarget progress.deviceId = some target ∧
    target.stage = .cancellationRequested ∧ progress.stage = .recoveryRequired ∧
    target.ownerProgress ≠ some progress ∧
    operation.maxParallelism ≤ operation.occupiedDeliverySlots

theorem advanceChecks_iff (progress : PackageUpdaterProgress) (target : PackageInstallTargetLedger) :
    AdvanceChecks progress target ↔
      (∀ prior, target.ownerProgress = some prior → prior.observedAtMs < progress.observedAtMs) ∧
        packageProgressTransitionAllowed target.stage progress.stage = true := by
  refine ⟨fun advance => ⟨advance.newer, advance.allowed⟩, fun ⟨newer, allowed⟩ =>
    ⟨fun replayed => ?_, newer, allowed⟩⟩
  have before := newer progress replayed
  omega

theorem progressRule_iff (progress : PackageUpdaterProgress) (nowMs : Int) :
    ProgressRule hub progress nowMs ↔
      ∃ operation target invocation, ReportChecks hub progress nowMs operation target invocation ∧
        (target.ownerProgress = some progress ∨ AdvanceChecks progress target) := by
  constructor
  · rintro ⟨operation, target, invocation, acknowledgement, stored, found, bound, reports, past, retained,
      acknowledges, news⟩
    exact ⟨operation, target, invocation,
      ⟨stored, found, bound, reports, past, acknowledgement, retained, acknowledges⟩,
      news.imp_right (advanceChecks_iff progress target).mpr⟩
  · rintro ⟨operation, target, invocation, checks, news⟩
    obtain ⟨acknowledgement, retained, acknowledges⟩ := checks.acknowledged
    exact ⟨operation, target, invocation, acknowledgement, checks.stored, checks.found, checks.bound,
      checks.reports, checks.past, retained, acknowledges,
      news.imp_right (advanceChecks_iff progress target).mp⟩

theorem progress_ok_iff [OperationDigest] (sound : ValidPackages hub) (progress : PackageUpdaterProgress)
    (nowMs : Int)
    (created : ∀ operation, hub.packageOperations[progress.operationId]? = some operation →
      operation.createdAtMs ≤ nowMs) :
    (∃ result, (hub.admitAuthenticatedPackageUpdaterProgress progress nowMs).1 = .ok result) ↔
      ProgressRule hub progress nowMs ∧ ¬ ReclaimsOccupiedSlot hub progress := by
  simp only [FleetHub.admitAuthenticatedPackageUpdaterProgress, settle_ok_iff]
  rw [progressRule_iff]
  constructor
  · rintro ⟨result, unchanged | ⟨rewritten, admitted⟩⟩
    · obtain ⟨operation, target, invocation, checks, ⟨replayed, _⟩ | ⟨_, ⟨⟩⟩⟩ :=
        (progressEdit_ok hub _ _ _).mp unchanged
      refine ⟨⟨operation, target, invocation, checks, .inl replayed⟩, ?_⟩
      rintro ⟨same, other, stored, found, _, _, news, _⟩
      cases checks.stored.symm.trans stored
      cases checks.found.symm.trans found
      exact news replayed
    · obtain ⟨operation, target, invocation, checks, ⟨_, ⟨⟩⟩ | ⟨advance, ⟨⟩⟩⟩ :=
        (progressEdit_ok hub _ _ _).mp rewritten
      refine ⟨⟨operation, target, invocation, checks, .inr advance⟩, ?_⟩
      rintro ⟨same, other, stored, found, waiting, recovering, _, full⟩
      cases checks.stored.symm.trans stored
      cases checks.found.symm.trans found
      have room := ((progressed_valid_iff (sound.packages.ledger checks.stored) checks advance
        (sound.valid _ _ checks.stored)).mp admitted).2 waiting recovering
      omega
  · rintro ⟨⟨operation, target, invocation, checks, replayed | advance⟩, free⟩
    · exact ⟨operation, .inl ((progressEdit_ok hub _ _ _).mpr
        ⟨operation, target, invocation, checks, .inl ⟨replayed, rfl⟩⟩)⟩
    · refine ⟨_, .inr ⟨(progressEdit_ok hub _ _ _).mpr
        ⟨operation, target, invocation, checks, .inr ⟨advance, rfl⟩⟩, ?_⟩⟩
      refine (progressed_valid_iff (sound.packages.ledger checks.stored) checks advance
        (sound.valid _ _ checks.stored)).mpr ⟨created operation checks.stored, fun waiting recovering => ?_⟩
      by_contra full
      exact free ⟨operation, target, checks.stored, checks.found, waiting, recovering, advance.news,
        by omega⟩

section Runs

variable [HubEnvironment]

/-- Progress admission is exactly its rule, unless a permitted report takes an occupied slot back. -/
theorem progress_admission_exact (policy : AssertedPolicy) (calls : List HubCall)
    (progress : PackageUpdaterProgress) (nowMs : Int)
    (valid : ∀ (operationId : String) (operation : PackageInstallReleaseOperation),
      (fleetHubMachine.run (.new policy) calls).packageOperations[operationId]? = some operation →
        Valid operation)
    (created : ∀ operation : PackageInstallReleaseOperation,
      (fleetHubMachine.run (.new policy) calls).packageOperations[progress.operationId]? = some operation →
        operation.createdAtMs ≤ nowMs) :
    ((∃ result, ((fleetHubMachine.run (.new policy) calls).admitAuthenticatedPackageUpdaterProgress
          progress nowMs).1 = .ok result) ↔
        ProgressRule (fleetHubMachine.run (.new policy) calls) progress nowMs) ↔
      ¬ (ProgressRule (fleetHubMachine.run (.new policy) calls) progress nowMs ∧
        ReclaimsOccupiedSlot (fleetHubMachine.run (.new policy) calls) progress) := by
  rw [progress_ok_iff ⟨run_packages policy calls, valid⟩ progress nowMs created]
  constructor
  · rintro agree ⟨rule, reclaims⟩
    exact (agree.mpr rule).2 reclaims
  · intro free
    exact ⟨fun both => both.1, fun rule => ⟨rule, fun reclaims => free ⟨rule, reclaims⟩⟩⟩

end Runs

section Samples

def reassignedSlotCalls : List HubCall :=
  previewedCalls ["d1", "d2"] 1 ++
    [confirmCall "op-1", samplePrepare "op-1" "d1",
      .package (.acknowledgement (sampleAcknowledgement "op-1" "d1" true) 1004),
      .package (.progress (sampleProgress "d1" .staged 1005) 1005),
      .package (.progress (sampleProgress "d1" .cancellationRequested 1006) 1006),
      samplePrepare "op-1" "d2",
      .package (.acknowledgement (sampleAcknowledgement "op-1" "d2" true) 1007)]

theorem stored_valid_of_clear
    (clear : BTreeMap.anyEntry hub.packageOperations (fun _ operation => !decide (Valid operation)) = false) :
    ∀ (operationId : String) (operation : PackageInstallReleaseOperation),
      hub.packageOperations[operationId]? = some operation → Valid operation := by
  intro operationId operation stored
  simpa using (BTreeMap.anyEntry_false_iff _ _).mp clear operationId operation stored

set_option maxRecDepth 30000 in
theorem reassignedSlot_valid :
    ∀ (operationId : String) (operation : PackageInstallReleaseOperation),
      ((@fleetHubMachine sampleEnvironment).run (.new samplePolicy)
        reassignedSlotCalls).packageOperations[operationId]? = some operation → Valid operation := by
  refine stored_valid_of_clear ?_
  decide

set_option maxRecDepth 30000 in
theorem reassignedSlot_created :
    ∀ operation : PackageInstallReleaseOperation,
      ((@fleetHubMachine sampleEnvironment).run (.new samplePolicy)
        reassignedSlotCalls).packageOperations["op-1"]? = some operation → operation.createdAtMs ≤ 1008 := by
  intro operation stored
  have created : ((@fleetHubMachine sampleEnvironment).run (.new samplePolicy)
      reassignedSlotCalls).packageOperations["op-1"]?.map (·.createdAtMs) = some 1000 := by decide
  rw [stored] at created
  have start : operation.createdAtMs = 1000 := Option.some.inj created
  omega

theorem staged_report_admitted :
    ((∃ result, (((@fleetHubMachine sampleEnvironment).run (.new samplePolicy)
          reassignedSlotCalls).admitAuthenticatedPackageUpdaterProgress
            (sampleProgress "d2" .staged 1008) 1008).1 = .ok result) ↔
        ProgressRule ((@fleetHubMachine sampleEnvironment).run (.new samplePolicy) reassignedSlotCalls)
          (sampleProgress "d2" .staged 1008) 1008) ↔
      ¬ (ProgressRule ((@fleetHubMachine sampleEnvironment).run (.new samplePolicy) reassignedSlotCalls)
          (sampleProgress "d2" .staged 1008) 1008 ∧
        ReclaimsOccupiedSlot ((@fleetHubMachine sampleEnvironment).run (.new samplePolicy)
          reassignedSlotCalls) (sampleProgress "d2" .staged 1008)) :=
  @progress_admission_exact sampleEnvironment samplePolicy reassignedSlotCalls
    (sampleProgress "d2" .staged 1008) 1008 reassignedSlot_valid reassignedSlot_created

set_option maxRecDepth 30000 in
/-- A permitted report of the first headset is refused because the second one occupies the slot. -/
theorem recovery_report_refused :
    ∃ (_ : HubEnvironment) (policy : AssertedPolicy) (calls : List HubCall)
      (progress : PackageUpdaterProgress) (nowMs : Int),
      (∀ (operationId : String) (operation : PackageInstallReleaseOperation),
        (fleetHubMachine.run (.new policy) calls).packageOperations[operationId]? = some operation →
          Valid operation) ∧
      (∀ operation : PackageInstallReleaseOperation,
        (fleetHubMachine.run (.new policy) calls).packageOperations[progress.operationId]? = some operation →
          operation.createdAtMs ≤ nowMs) ∧
      ProgressRule (fleetHubMachine.run (.new policy) calls) progress nowMs ∧
      returnsErr ((fleetHubMachine.run (.new policy) calls).admitAuthenticatedPackageUpdaterProgress
        progress nowMs).1 = true := by
  refine ⟨sampleEnvironment, samplePolicy, reassignedSlotCalls, sampleProgress "d1" .recoveryRequired 1008,
    1008, reassignedSlot_valid, reassignedSlot_created, ?_, by decide⟩
  have edits : (((@fleetHubMachine sampleEnvironment).run (.new samplePolicy)
      reassignedSlotCalls).packageProgressEdit (sampleProgress "d1" .recoveryRequired 1008) 1008).isOk =
        true := by
    decide
  cases decided : ((@fleetHubMachine sampleEnvironment).run (.new samplePolicy)
      reassignedSlotCalls).packageProgressEdit (sampleProgress "d1" .recoveryRequired 1008) 1008 with
  | error fault =>
    rw [decided] at edits
    cases edits
  | ok edit =>
    obtain ⟨operation, target, invocation, checks, news⟩ := (progressEdit_ok _ _ _ _).mp decided
    exact (progressRule_iff _ _).mpr ⟨operation, target, invocation, checks,
      news.imp And.left And.left⟩

end Samples

end RustyFleet.PackageSafety

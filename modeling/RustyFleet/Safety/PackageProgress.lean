import RustyFleet.Safety.PackageAtomicity

namespace RustyFleet.PackageSafety

variable {operation : PackageInstallReleaseOperation} {target : PackageInstallTargetLedger}

def Staged (target : PackageInstallTargetLedger) : Prop :=
  match target.lifecycle with
  | .proposed => target.stage = .previewReady ∧ target.ownerClaim = none
  | .accepted => target.stage = .approved ∧ target.ownerClaim = none ∨ target.stage = .dispatchReady
  | .dispatched => target.stage = .ownerAcknowledged
  | .running => target.stage ∈ [.staged, .awaitingWearer, .cancellationRequested, .recoveryRequired]
  | .applied => target.stage = .applied
  | .failed => target.stage = .failed
  | .expired => target.stage = .expired
  | .cancellationRequested => target.stage = .cancellationRequested
  | .cancelled => target.stage = .cancelled
  | .rejected | .cleanupPending | .cleaned => False

structure TargetStaged (target : PackageInstallTargetLedger) : Prop where
  eligible : target.preflight.eligible = true → Staged target
  excluded : target.preflight.eligible = false →
    target.lifecycle = .rejected ∧ target.stage = .preflightRejected

theorem accepted_staged (path : String) (clear : operation.acceptedViolations path target = []) :
    target.stage = .approved ∧ target.ownerClaim = none ∨ target.stage = .dispatchReady := by
  simp only [PackageInstallReleaseOperation.acceptedViolations, List.append_eq_nil_iff, violationIf_nil, not_or,
    not_not, not_exists, not_and, ne_eq] at clear
  obtain ⟨⟨⟨stage, _⟩, claims⟩, _⟩ := clear
  unfold PackageInstallTargetLedger.acceptedStageValid at stage
  cases staged : target.stage with
  | approved =>
    left
    refine ⟨rfl, ?_⟩
    rw [staged] at stage
    have unprepared : target.invocation = none := Option.isNone_iff_eq_none.mp stage
    cases claimed : target.ownerClaim with
    | none => rfl
    | some claim =>
      have bound := (claims claim (Option.mem_def.mpr claimed)).2
      rw [unprepared] at bound
      cases bound
  | dispatchReady => exact .inr rfl
  | _ =>
    rw [staged] at stage
    cases stage

theorem lifecycle_staged (path : String) (clear : operation.lifecycleViolations path target = []) :
    Staged target := by
  unfold PackageInstallReleaseOperation.lifecycleViolations at clear
  unfold Staged
  cases lifecycle : target.lifecycle with
  | proposed =>
    rw [lifecycle] at clear
    have fresh := (violationIf_nil _ _ _ _).mp clear
    simp only [PackageInstallTargetLedger.hasOwnerEvidence, not_or, not_not, ne_eq,
      Option.not_isSome_iff_eq_none] at fresh
    exact ⟨fresh.1, fresh.2.2.1⟩
  | accepted =>
    simp only [lifecycle] at clear
    exact accepted_staged path clear
  | dispatched =>
    simp only [lifecycle, PackageInstallReleaseOperation.dispatchedViolations, List.append_eq_nil_iff,
      violationIf_nil, not_not, ne_eq] at clear
    exact clear.1
  | running =>
    simp only [lifecycle, PackageInstallReleaseOperation.runningViolations, List.append_eq_nil_iff,
      violationIf_nil, not_not] at clear
    exact clear.1
  | applied =>
    simp only [lifecycle, PackageInstallTargetLedger.appliedViolations, List.append_eq_nil_iff, violationIf_nil,
      not_not, ne_eq] at clear
    exact clear.1
  | failed =>
    simp only [lifecycle, PackageInstallTargetLedger.terminalFailureViolations, List.append_eq_nil_iff,
      violationIf_nil, not_or, not_not, ne_eq] at clear
    exact clear.1.1
  | expired =>
    simp only [lifecycle, PackageInstallTargetLedger.terminalFailureViolations, List.append_eq_nil_iff,
      violationIf_nil, not_or, not_not, ne_eq] at clear
    exact clear.1.1
  | cancellationRequested =>
    simp only [lifecycle, PackageInstallTargetLedger.cancellationViolations, violationIf_nil, not_or, not_not,
      ne_eq] at clear
    exact clear.1
  | cancelled =>
    simp only [lifecycle, PackageInstallTargetLedger.cancelledViolations, violationIf_nil, not_or, not_not,
      ne_eq] at clear
    exact clear.1
  | rejected =>
    simp only [lifecycle] at clear
    cases clear
  | cleanupPending =>
    simp only [lifecycle] at clear
    cases clear
  | cleaned =>
    simp only [lifecycle] at clear
    cases clear

theorem targets_staged (seen : List String) (index : Nat) (targets : List PackageInstallTargetLedger)
    (clear : operation.targetsViolations seen index targets = []) : ∀ target ∈ targets, TargetStaged target := by
  induction targets generalizing seen index with
  | nil => intro target member; cases member
  | cons first rest ih =>
    rw [PackageInstallReleaseOperation.targetsViolations, List.append_eq_nil_iff] at clear
    intro target member
    rcases List.mem_cons.mp member with rfl | later
    · have own := clear.1
      simp only [PackageInstallReleaseOperation.targetViolations, List.append_eq_nil_iff] at own
      have judged := own.2
      constructor
      · intro eligible
        rw [if_pos eligible, List.append_eq_nil_iff] at judged
        exact lifecycle_staged _ judged.2
      · intro ineligible
        rw [if_neg (by rw [ineligible]; exact Bool.false_ne_true)] at judged
        simp only [PackageInstallTargetLedger.ineligibleViolations, violationIf_nil, not_or, not_not,
          ne_eq] at judged
        exact ⟨judged.1, judged.2.1⟩
    · exact ih _ _ clear.2 target later

theorem valid_staged (valid : Valid operation) : ∀ target ∈ operation.targets, TargetStaged target :=
  targets_staged [] 0 operation.targets (valid_targets valid)

def atStage (stage : PackageInstallStage) (target : PackageInstallTargetLedger) : Bool := target.stage == stage

/-- The counters of the eligible targets. -/
def stageCounters : List (PackageInstallTargetLedger → Bool) :=
  [atStage .previewReady, atStage .approved,
    fun target => target.stage == .dispatchReady && target.ownerClaim.isNone,
    fun target => target.lifecycle == .accepted && target.ownerClaim.isSome,
    atStage .ownerAcknowledged, atStage .staged, atStage .awaitingWearer, atStage .cancellationRequested,
    atStage .recoveryRequired, atStage .applied, atStage .failed, atStage .expired, atStage .cancelled]

/-- The counters of the settled targets. -/
def settledCounters : List (PackageInstallTargetLedger → Bool) :=
  [fun target => !target.preflight.eligible, atStage .applied, atStage .failed, atStage .expired,
    atStage .cancelled]

theorem counted_once (staged : TargetStaged target) :
    stageCounters.countP (fun counter => counter target) = if target.preflight.eligible then 1 else 0 := by
  cases eligible : target.preflight.eligible with
  | true =>
    have own := staged.eligible eligible
    unfold Staged at own
    cases lifecycle : target.lifecycle with
    | accepted =>
      simp only [lifecycle] at own
      rcases own with ⟨stage, unclaimed⟩ | stage
      · simp [stageCounters, atStage, stage, lifecycle, unclaimed]
      · cases claimed : target.ownerClaim <;> simp [stageCounters, atStage, stage, lifecycle, claimed]
    | proposed =>
      simp only [lifecycle] at own
      simp [stageCounters, atStage, lifecycle, own.1]
    | running =>
      simp only [lifecycle, List.mem_cons, List.not_mem_nil, or_false] at own
      rcases own with stage | stage | stage | stage <;> simp [stageCounters, atStage, lifecycle, stage]
    | rejected | cleanupPending | cleaned =>
      simp only [lifecycle] at own
    | dispatched | applied | failed | expired | cancellationRequested | cancelled =>
      simp only [lifecycle] at own
      simp [stageCounters, atStage, lifecycle, own]
  | false =>
    obtain ⟨lifecycle, stage⟩ := staged.excluded eligible
    simp [stageCounters, atStage, lifecycle, stage]

theorem settled_once (staged : TargetStaged target) :
    settledCounters.countP (fun counter => counter target) = if target.lifecycle.isSettled then 1 else 0 := by
  cases eligible : target.preflight.eligible with
  | true =>
    have own := staged.eligible eligible
    unfold Staged at own
    cases lifecycle : target.lifecycle with
    | accepted =>
      simp only [lifecycle] at own
      rcases own with ⟨stage, unclaimed⟩ | stage <;>
        simp [settledCounters, atStage, eligible, stage, CommandLifecycle.isSettled]
    | proposed =>
      simp only [lifecycle] at own
      simp [settledCounters, atStage, eligible, own.1, CommandLifecycle.isSettled]
    | running =>
      simp only [lifecycle, List.mem_cons, List.not_mem_nil, or_false] at own
      rcases own with stage | stage | stage | stage <;>
        simp [settledCounters, atStage, eligible, stage, CommandLifecycle.isSettled]
    | rejected | cleanupPending | cleaned =>
      simp only [lifecycle] at own
    | dispatched | applied | failed | expired | cancellationRequested | cancelled =>
      simp only [lifecycle] at own
      simp [settledCounters, atStage, eligible, own, CommandLifecycle.isSettled]
  | false =>
    obtain ⟨lifecycle, stage⟩ := staged.excluded eligible
    simp [settledCounters, atStage, eligible, lifecycle, stage, CommandLifecycle.isSettled]

/-- What each number of a progress record counts among the operation's targets. -/
structure CountsTargets (operation : PackageInstallReleaseOperation) (progress : PackageInstallReleaseProgress) :
    Prop where
  totalTargets : progress.totalTargets = operation.targets.length
  eligibleTargets : progress.eligibleTargets = operation.targets.countP fun target => target.preflight.eligible
  excludedTargets : progress.excludedTargets = operation.targets.countP fun target => !target.preflight.eligible
  stages :
    [progress.previewReady, progress.approved, progress.dispatchReady, progress.claimed,
      progress.ownerAcknowledged, progress.staged, progress.awaitingWearer, progress.cancellationRequested,
      progress.recoveryRequired, progress.applied, progress.failed, progress.expired, progress.cancelled] =
      stageCounters.map operation.targets.countP
  settled :
    [progress.excludedTargets, progress.applied, progress.failed, progress.expired, progress.cancelled] =
      settledCounters.map operation.targets.countP
  terminalTargets : progress.terminalTargets = operation.targets.countP fun target =>
    target.lifecycle ∈ [.rejected, .applied, .failed, .expired, .cancelled]
  terminal : progress.terminal = true ↔
    ∀ target ∈ operation.targets, target.lifecycle ∈ [.rejected, .applied, .failed, .expired, .cancelled]
  retainedOwnerClaims : progress.retainedOwnerClaims = operation.targets.countP fun target =>
    target.lifecycle ∈ [.dispatched, .running] ∨ target.lifecycle = .accepted ∧ target.ownerClaim.isSome = true
  maxParallelism : progress.maxParallelism = operation.maxParallelism

theorem isSettled_iff (lifecycle : CommandLifecycle) :
    lifecycle.isSettled = true ↔ lifecycle ∈ [.rejected, .applied, .failed, .expired, .cancelled] := by
  cases lifecycle <;> decide

theorem occupies_iff (target : PackageInstallTargetLedger) :
    target.occupiesSlot = true ↔ target.lifecycle ∈ [.dispatched, .running] ∨
      target.lifecycle = .accepted ∧ target.ownerClaim.isSome = true := by
  simp [PackageInstallTargetLedger.occupiesSlot, or_assoc]

theorem excluded_counted (targets : List PackageInstallTargetLedger) :
    targets.length - targets.countP (·.preflight.eligible) =
      targets.countP fun target => !target.preflight.eligible := by
  have halves := List.length_eq_countP_add_countP (fun target => target.preflight.eligible) (l := targets)
  have negated : targets.countP (fun target => !target.preflight.eligible) =
      targets.countP fun target => decide ¬ target.preflight.eligible = true := by
    apply List.countP_congr
    intro target _
    cases target.preflight.eligible <;> rfl
  omega

theorem progress_counts [OperationDigest] (retention : PackageOperationRetention) (archivedAtMs : Option Int) :
    CountsTargets operation (operation.progress retention archivedAtMs) where
  totalTargets := rfl
  eligibleTargets := rfl
  excludedTargets := excluded_counted operation.targets
  stages := rfl
  settled := congrArg (· :: _) (excluded_counted operation.targets)
  terminalTargets := by
    apply List.countP_congr
    intro target _
    rw [decide_eq_true_eq]
    exact isSettled_iff target.lifecycle
  terminal := by
    show operation.targets.all _ = true ↔ _
    rw [List.all_eq_true]
    exact forall₂_congr fun target _ => isSettled_iff target.lifecycle
  retainedOwnerClaims := by
    apply List.countP_congr
    intro target _
    rw [decide_eq_true_eq]
    exact occupies_iff target
  maxParallelism := rfl

/-- The counts of a valid operation partition its targets; none is cut by the cast to `u32`. -/
theorem progress_counts_partition [OperationDigest] (valid : Valid operation)
    (retention : PackageOperationRetention) (archivedAtMs : Option Int) :
    let progress := operation.progress retention archivedAtMs
    progress.previewReady + progress.approved + progress.dispatchReady + progress.claimed +
        progress.ownerAcknowledged + progress.staged + progress.awaitingWearer + progress.cancellationRequested +
        progress.recoveryRequired + progress.applied + progress.failed + progress.expired + progress.cancelled =
      progress.eligibleTargets ∧
    progress.eligibleTargets + progress.excludedTargets = progress.totalTargets ∧
    progress.terminalTargets =
      progress.excludedTargets + progress.applied + progress.failed + progress.expired + progress.cancelled ∧
    (progress.terminal = true ↔ progress.terminalTargets = progress.totalTargets) ∧
    progress.retainedOwnerClaims ≤ progress.maxParallelism ∧ progress.totalTargets ≤ 10000 ∧
    CountsTargets operation progress ∧
    ∀ target ∈ operation.targets,
      stageCounters.countP (fun counter => counter target) = (if target.preflight.eligible then 1 else 0) ∧
      settledCounters.countP (fun counter => counter target) = if target.lifecycle.isSettled then 1 else 0 := by
  intro progress
  have staged := valid_staged valid
  have within : progress.eligibleTargets ≤ progress.totalTargets := List.countP_le_length
  have rest : progress.excludedTargets = progress.totalTargets - progress.eligibleTargets := rfl
  have eligible := Support.countP_partition stageCounters _ operation.targets
    fun target member => counted_once (staged target member)
  have settled := Support.countP_partition settledCounters _ operation.targets
    fun target member => settled_once (staged target member)
  have counts : CountsTargets operation progress := progress_counts retention archivedAtMs
  rw [← counts.stages] at eligible
  rw [← counts.settled] at settled
  simp only [List.sum_cons, List.sum_nil] at eligible settled
  have header := FrozenHeader.of_valid valid
  refine ⟨?_, by omega, ?_, ?_, ?_, ?_, counts,
    fun target member => ⟨counted_once (staged target member), settled_once (staged target member)⟩⟩
  · rw [counts.eligibleTargets, ← eligible]
    omega
  · change operation.targets.countP _ = _
    rw [← settled]
    omega
  · show operation.targets.all _ = true ↔ operation.targets.countP _ = operation.targets.length
    rw [List.countP_eq_length, List.all_eq_true]
  · have parts : (_ ++ _ : List ContractViolation) = [] := valid
    rw [List.append_eq_nil_iff, violationIf_nil] at parts
    exact Nat.le_of_not_lt parts.2
  · have preview : (_ ++ _ : List ContractViolation) = [] := header.preview
    simp only [packagePreflightsViolations, List.append_eq_nil_iff, violationIf_nil, not_or] at preview
    have few := preview.2.1.2
    have same : progress.totalTargets = operation.preview.targets.length := header.bound.2.2
    omega

def claimedOperations : BTreeMap String PackageInstallReleaseOperation :=
  ((@fleetHubMachine sampleEnvironment).run (.new samplePolicy)
    [.observe (readyObservation "d1") 1000, .observe (readyObservation "d2") 1000,
      .observe { readyObservation "d3" with capabilities := { capabilities := ∅, extensions := ∅ } } 1000,
      .package (.preview (readyPlan "op-1" ["d1", "d2", "d3"] 2)), confirmCall "op-1",
      samplePrepare "op-1" "d1",
      .package (.offer (sampleClaim "op-1" "d1" "claim-1" "request-1") 1003)]).packageOperations

def sampleNumbers (operation : PackageInstallReleaseOperation) : List Nat :=
  let progress := @PackageInstallReleaseOperation.progress sampleEnvironment.toOperationDigest operation .active none
  [progress.totalTargets, progress.eligibleTargets, progress.excludedTargets, progress.approved,
    progress.claimed, progress.retainedOwnerClaims, progress.maxParallelism, progress.terminalTargets]

theorem claimed_operation_sound :
    claimedOperations["op-1"]?.any (fun operation =>
      decide (Valid operation ∧ sampleNumbers operation = [3, 2, 1, 1, 1, 1, 2, 1])) = true := by
  decide +kernel

theorem claimed_counts : ∃ operation, claimedOperations["op-1"]? = some operation ∧ Valid operation ∧
    sampleNumbers operation = [3, 2, 1, 1, 1, 1, 2, 1] ∧
    let progress :=
      @PackageInstallReleaseOperation.progress sampleEnvironment.toOperationDigest operation .active none
    CountsTargets operation progress ∧ progress.eligibleTargets + progress.excludedTargets = 3 ∧
      progress.retainedOwnerClaims ≤ progress.maxParallelism := by
  obtain ⟨operation, stored, holds⟩ := (Option.any_eq_true _ _).mp claimed_operation_sound
  obtain ⟨valid, numbers⟩ := of_decide_eq_true holds
  have partition := @progress_counts_partition operation sampleEnvironment.toOperationDigest valid .active none
  refine ⟨operation, stored, valid, numbers, partition.2.2.2.2.2.2.1, ?_, partition.2.2.2.2.1⟩
  exact partition.2.1.trans (List.cons.inj numbers).1

end RustyFleet.PackageSafety

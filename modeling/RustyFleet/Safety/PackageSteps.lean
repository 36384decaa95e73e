import RustyFleet.Safety.PackageOperations

namespace RustyFleet.PackageSafety

/-- What one call can do to one stored operation. -/
inductive OperationStep (operation : PackageInstallReleaseOperation) :
    PackageInstallReleaseOperation → Prop
  | confirmed (nowMs : Int) (proposed : operation.lifecycle = .proposed) :
      OperationStep operation (operation.confirmed nowMs)
  | rewritten (deviceId : String) (rewrite : PackageInstallTargetLedger → PackageInstallTargetLedger)
      (target : PackageInstallTargetLedger) (found : operation.findTarget deviceId = some target)
      (confirmed : target.lifecycle ≠ .proposed) (step : TargetStep operation target (rewrite target)) :
      OperationStep operation (operation.rewriteTarget deviceId rewrite).rederived
  | expired (nowMs : Int) : OperationStep operation (operation.claimsExpired nowMs)

def Advances (operation : PackageInstallReleaseOperation) (before after : PackageInstallTargetLedger) : Prop :=
  after = before ∨ TargetStep operation before after

variable {operation next : PackageInstallReleaseOperation} {target : PackageInstallTargetLedger}

theorem derived_proposed (proposed : operation.derivedLifecycle = .proposed) :
    ∃ target ∈ operation.targets, target.lifecycle = .proposed := by
  unfold PackageInstallReleaseOperation.derivedLifecycle at proposed
  simp only at proposed
  split at proposed
  · cases proposed
  split at proposed
  · cases proposed
  split at proposed
  · cases proposed
  split at proposed
  · rename_i found
    obtain ⟨target, member, lifecycle⟩ := List.any_eq_true.mp found
    exact ⟨target, (List.mem_filter.mp member).1, by simpa using lifecycle⟩
  split at proposed
  · cases proposed
  split at proposed
  · cases proposed
  split at proposed <;> cases proposed

def aggregate (lifecycles : List CommandLifecycle) : CommandLifecycle :=
  if lifecycles.isEmpty then .rejected
  else if lifecycles.any (· == .running) then .running
  else if lifecycles.any (· == .dispatched) then .dispatched
  else if lifecycles.any (· == .proposed) then .proposed
  else if lifecycles.any (· == .accepted) then .accepted
  else if lifecycles.all (· == .applied) then .applied
  else if lifecycles.all (· == .expired) then .expired
  else .failed

theorem derived_aggregate (operation : PackageInstallReleaseOperation) :
    operation.derivedLifecycle = aggregate (operation.eligibleTargets.map (·.lifecycle)) := by
  simp only [PackageInstallReleaseOperation.derivedLifecycle, aggregate, List.isEmpty_map, List.any_map,
    List.all_map]
  rfl

theorem derived_congr (alike : List.Forall₂ (fun before after : PackageInstallTargetLedger =>
      after.preflight.eligible = before.preflight.eligible ∧ after.lifecycle = before.lifecycle)
      operation.targets next.targets) :
    next.derivedLifecycle = operation.derivedLifecycle := by
  rw [derived_aggregate, derived_aggregate]
  congr 1
  unfold PackageInstallReleaseOperation.eligibleTargets
  generalize operation.targets = before at alike ⊢
  generalize next.targets = after at alike ⊢
  induction alike with
  | nil => rfl
  | @cons old new _ _ head _ ih =>
    obtain ⟨eligible, lifecycle⟩ := head
    cases kept : old.preflight.eligible with
    | true => simp only [List.filter_cons, eligible, kept, if_true, List.map_cons, lifecycle, ih]
    | false => simp only [List.filter_cons, eligible, kept, Bool.false_eq_true, if_false, ih]

theorem findTarget_some {deviceId : String} (found : operation.findTarget deviceId = some target) :
    target ∈ operation.targets ∧ target.deviceId = deviceId := by
  obtain ⟨member, named⟩ := Support.find?_mem_of_some found
  exact ⟨member, by simpa using named⟩

theorem OperationStep.frozen (step : OperationStep operation next) :
    next = { operation with targets := next.targets, lifecycle := next.lifecycle } := by
  cases step <;> rfl

theorem OperationStep.derived (step : OperationStep operation next) :
    next.lifecycle = next.derivedLifecycle := by
  cases step <;> rfl

theorem OperationStep.targets (ledger : OperationLedger operation)
    (step : OperationStep operation next) :
    List.Forall₂ (Advances operation) operation.targets next.targets := by
  cases step with
  | confirmed nowMs proposed =>
    have together := ledger.together (derived_proposed (ledger.derived ▸ proposed))
    refine List.forall₂_map_right_iff.mpr (List.forall₂_same.mpr fun target member => ?_)
    by_cases eligible : target.preflight.eligible = true
    · exact .inr (.confirmed nowMs eligible (together target member eligible))
    · exact .inl (if_neg eligible)
  | rewritten deviceId rewrite target found confirmed step =>
    refine (Support.modifyFirst_forall₂ _ rewrite _ target found).imp fun before after change => ?_
    rcases change with same | ⟨rfl, rfl⟩
    · exact .inl same
    · exact .inr step
  | expired nowMs =>
    refine List.forall₂_map_right_iff.mpr (List.forall₂_same.mpr fun target member => ?_)
    unfold PackageInstallTargetLedger.claimExpired
    split
    · rename_i prior expired
      exact .inr (.released prior nowMs expired)
    · exact .inl rfl

theorem TargetStep.leaves_proposed {before after : PackageInstallTargetLedger}
    (step : TargetStep operation before after) :
    after.lifecycle ≠ .proposed := by
  intro proposed
  cases step with
  | confirmed nowMs eligible _ =>
    rw [PackageInstallTargetLedger.confirmed, if_pos eligible] at proposed
    cases proposed
  | prepared => cases proposed
  | offered claim nowMs ready =>
    exact absurd (ready.1.symm.trans proposed) (by decide)
  | released prior nowMs expired =>
    simp only [PackageInstallTargetLedger.claimReleased] at proposed
    split at proposed <;> cases proposed
  | acknowledged acknowledgement =>
    simp only [PackageInstallTargetLedger.acknowledged] at proposed
    split at proposed <;> cases proposed
  | received => cases proposed
  | progressed progress =>
    simp only [PackageInstallTargetLedger.progressed] at proposed
    cases stage : progress.stage <;> rw [stage] at proposed <;> cases proposed

theorem confirmed_settles (nowMs : Int) (ledger : TargetLedger operation target) :
    (target.confirmed nowMs).lifecycle ≠ .proposed := by
  unfold PackageInstallTargetLedger.confirmed
  split
  · nofun
  · rename_i excluded
    rw [(ledger.excluded (by simpa using excluded)).1]
    decide

theorem claimExpired_pending (nowMs : Int) (proposed : target.lifecycle = .proposed) :
    target.claimExpired nowMs = target := by
  have waiting : ¬ (target.lifecycle = .accepted ∧ target.stage = .dispatchReady) := by
    rw [proposed]
    exact fun ready => absurd ready.1 (by decide)
  simp only [PackageInstallTargetLedger.claimExpired, PackageInstallTargetLedger.expiredClaim, if_neg waiting]

theorem claimExpired_proposed (nowMs : Int)
    (proposed : (target.claimExpired nowMs).lifecycle = .proposed) : target.lifecycle = .proposed := by
  unfold PackageInstallTargetLedger.claimExpired at proposed
  split at proposed
  · simp only [PackageInstallTargetLedger.claimReleased] at proposed
    split at proposed <;> cases proposed
  · exact proposed

theorem claimExpired_preflight (nowMs : Int) :
    (target.claimExpired nowMs).preflight = target.preflight := by
  unfold PackageInstallTargetLedger.claimExpired
  split
  · simp only [PackageInstallTargetLedger.claimReleased]
    split <;> rfl
  · rfl

theorem OperationStep.together (ledger : OperationLedger operation)
    (step : OperationStep operation next) :
    (∃ target ∈ next.targets, target.lifecycle = .proposed) →
      ∀ target ∈ next.targets, target.preflight.eligible = true → target.lifecycle = .proposed := by
  rintro ⟨pending, member, proposed⟩
  cases step with
  | confirmed nowMs confirming =>
    obtain ⟨origin, known, rfl⟩ := List.mem_map.mp member
    exact absurd proposed (confirmed_settles nowMs (ledger.targets origin known))
  | rewritten deviceId rewrite other found confirmed step =>
    have known := (findTarget_some found).1
    have own := ledger.targets other known
    have eligible := own.eligible_of_lifecycle fun rejected => by
      have unsettled := step.unsettled own
      rw [rejected] at unsettled
      cases unsettled
    rcases Support.mem_modifyFirst _ rewrite _ other pending found member with before | rfl
    · exact absurd (ledger.together ⟨pending, before, proposed⟩ other known eligible) confirmed
    · exact absurd proposed step.leaves_proposed
  | expired nowMs =>
    obtain ⟨origin, known, rfl⟩ := List.mem_map.mp member
    have together := ledger.together ⟨origin, known, claimExpired_proposed nowMs proposed⟩
    intro target later eligible
    obtain ⟨earlier, also, rfl⟩ := List.mem_map.mp later
    rw [claimExpired_preflight] at eligible
    have waiting := together earlier also eligible
    rw [claimExpired_pending nowMs waiting]
    exact waiting

theorem TargetLedger.transfer {other : PackageInstallReleaseOperation}
    (ledger : TargetLedger operation target) (operationId : other.operationId = operation.operationId)
    (preview : other.preview = operation.preview) : TargetLedger other target := by
  have previews : other.previews = operation.previews := by
    rw [PackageInstallReleaseOperation.previews, preview]
    rfl
  have invocationFor : ∀ requestId, other.invocationFor target requestId =
      operation.invocationFor target requestId := by
    intro requestId
    simp only [PackageInstallReleaseOperation.invocationFor, operationId, preview]
  exact
    { ledger with
      frozen := previews ▸ ledger.frozen
      invocation := fun invocation bound => by
        rw [invocationFor]
        exact ledger.invocation invocation bound }

theorem OperationStep.ledger (ledger : OperationLedger operation)
    (step : OperationStep operation next) : OperationLedger next := by
  have advances := step.targets ledger
  have derived := step.derived
  have together := step.together ledger
  have header := ledger.header
  have length := advances.length_eq
  have devices : next.targets.map (·.deviceId) = operation.targets.map (·.deviceId) := by
    refine Support.forall₂_map_congr _ (fun before after change => ?_) advances
    rcases change with rfl | step
    · rfl
    · exact step.same_target.1
  have targets : ∀ target ∈ next.targets, TargetLedger operation target := by
    intro target member
    obtain ⟨before, known, same | step⟩ := Support.forall₂_right advances target member
    · rw [same]
      exact ledger.targets before known
    · exact step.ledger (ledger.targets before known)
  have frozen := step.frozen
  refine ⟨?_, by rw [devices]; exact ledger.distinct, ?_, derived, together⟩
  · rw [frozen]
    exact { header with bound := ⟨header.bound.1, header.bound.2.1, length ▸ header.bound.2.2⟩ }
  · intro target member
    refine (targets target member).transfer ?_ ?_ <;> rw [frozen]

structure LaterTarget (before after : PackageInstallTargetLedger) : Prop where
  same : after.deviceId = before.deviceId ∧ after.identityRevision = before.identityRevision ∧
    after.preflight = before.preflight
  settled : before.lifecycle.isSettled = true →
    after.lifecycle = before.lifecycle ∧ after.stage = before.stage ∧
      after.invocationAcknowledgement = before.invocationAcknowledgement ∧
      after.ownerProgress = before.ownerProgress ∧ after.effectiveReceipt = before.effectiveReceipt
  reported : after.ownerProgress = before.ownerProgress ∨
    ∃ progress, after.ownerProgress = some progress ∧
      ∀ prior, before.ownerProgress = some prior → prior.observedAtMs < progress.observedAtMs
  invoked : ∀ invocation, before.invocation = some invocation → after.invocation = some invocation
  consumed : ∀ identity ∈ before.consumedOwnerClaimIdentities,
    identity ∈ after.consumedOwnerClaimIdentities

theorem LaterTarget.refl (target : PackageInstallTargetLedger) : LaterTarget target target where
  same := ⟨rfl, rfl, rfl⟩
  settled := fun _ => ⟨rfl, rfl, rfl, rfl, rfl⟩
  reported := .inl rfl
  invoked := fun _ bound => bound
  consumed := fun _ member => member

theorem LaterTarget.trans {a b c : PackageInstallTargetLedger} (first : LaterTarget a b)
    (second : LaterTarget b c) : LaterTarget a c where
  same := by
    obtain ⟨deviceId, identity, preflight⟩ := first.same
    obtain ⟨deviceId', identity', preflight'⟩ := second.same
    exact ⟨deviceId'.trans deviceId, identity'.trans identity, preflight'.trans preflight⟩
  settled := by
    intro settled
    obtain ⟨lifecycle, stage, acknowledgement, progress, receipt⟩ := first.settled settled
    obtain ⟨lifecycle', stage', acknowledgement', progress', receipt'⟩ :=
      second.settled (lifecycle ▸ settled)
    exact ⟨lifecycle'.trans lifecycle, stage'.trans stage, acknowledgement'.trans acknowledgement,
      progress'.trans progress, receipt'.trans receipt⟩
  reported := by
    rcases second.reported with same | ⟨progress, retained, newer⟩
    · rw [same]
      exact first.reported
    · refine .inr ⟨progress, retained, fun prior known => ?_⟩
      rcases first.reported with same | ⟨between, kept, older⟩
      · exact newer prior (same.trans known)
      · exact Int.lt_trans (older prior known) (newer between kept)
  invoked := fun invocation bound => second.invoked invocation (first.invoked invocation bound)
  consumed := fun identity member => second.consumed identity (first.consumed identity member)

theorem TargetStep.reported {before after : PackageInstallTargetLedger}
    (step : TargetStep operation before after) :
    after.ownerProgress = before.ownerProgress ∨
      ∃ progress, after.ownerProgress = some progress ∧
        ∀ prior, before.ownerProgress = some prior → prior.observedAtMs < progress.observedAtMs := by
  cases step with
  | confirmed nowMs eligible proposed =>
    rw [PackageInstallTargetLedger.confirmed, if_pos eligible]
    exact .inl rfl
  | released prior nowMs expired =>
    simp only [PackageInstallTargetLedger.claimReleased]
    split <;> exact .inl rfl
  | progressed progress invocation nowMs bound reports acknowledged newer allowed =>
    exact .inr ⟨progress, rfl, newer⟩
  | _ => exact .inl rfl

theorem TargetStep.consumed {before after : PackageInstallTargetLedger}
    (step : TargetStep operation before after) :
    ∀ identity ∈ before.consumedOwnerClaimIdentities, identity ∈ after.consumedOwnerClaimIdentities := by
  intro identity member
  cases step with
  | confirmed nowMs eligible proposed =>
    rw [PackageInstallTargetLedger.confirmed, if_pos eligible]
    exact member
  | offered claim => exact List.mem_append_left _ member
  | released prior nowMs expired =>
    simp only [PackageInstallTargetLedger.claimReleased]
    split <;> exact member
  | _ => exact member

theorem TargetStep.later {before after : PackageInstallTargetLedger}
    (ledger : TargetLedger operation before) (step : TargetStep operation before after) :
    LaterTarget before after where
  same := step.same_target
  settled := by
    intro settled
    rw [step.unsettled ledger] at settled
    cases settled
  reported := step.reported
  invoked := by
    intro invocation bound
    rcases step.invocation ledger with kept | ⟨unprepared, _⟩
    · exact kept.trans bound
    · rw [unprepared] at bound
      cases bound
  consumed := step.consumed

/-- What an operation's later state keeps of its earlier one. -/
structure LaterOperation (before after : PackageInstallReleaseOperation) : Prop where
  frozen : after = { before with targets := after.targets, lifecycle := after.lifecycle }
  targets : List.Forall₂ LaterTarget before.targets after.targets

theorem LaterOperation.refl (operation : PackageInstallReleaseOperation) :
    LaterOperation operation operation where
  frozen := rfl
  targets := List.forall₂_same.mpr fun target _ => .refl target

theorem LaterOperation.trans {a b c : PackageInstallReleaseOperation} (first : LaterOperation a b)
    (second : LaterOperation b c) : LaterOperation a c where
  frozen := by
    have earlier := first.frozen
    have later := second.frozen
    rw [earlier] at later
    exact later
  targets := Support.forall₂_comp (fun _ _ _ before after => before.trans after) first.targets second.targets

theorem OperationStep.later (ledger : OperationLedger operation)
    (step : OperationStep operation next) : LaterOperation operation next where
  frozen := step.frozen
  targets := by
    have paired : List.Forall₂ (fun before after => before ∈ operation.targets ∧
        Advances operation before after) operation.targets next.targets :=
      (List.forall₂_and_left (p := fun before => before ∈ operation.targets) _ _).mpr
        ⟨fun _ member => member, step.targets ledger⟩
    refine paired.imp fun before after ⟨member, change⟩ => ?_
    rcases change with rfl | moved
    · exact .refl _
    · exact moved.later (ledger.targets before member)

end RustyFleet.PackageSafety

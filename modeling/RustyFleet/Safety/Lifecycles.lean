import RustyFleet.Safety.KioskLedger
import RustyFleet.Safety.PackageHistory
import RustyFleet.Safety.PackageAtomicity

namespace RustyFleet

def CommandLifecycle.isOpen : CommandLifecycle → Bool
  | .proposed | .accepted | .dispatched | .running => true
  | _ => false

theorem pending_branch {lifecycles : List CommandLifecycle} {value : CommandLifecycle}
    {waits branch : CommandLifecycle → Bool} (unsettled : value.isSettled = false)
    (waited : ∀ lifecycle, branch lifecycle = true → waits lifecycle = true)
    (taken : lifecycles.any branch = true) :
    value.isSettled = true ↔ ∀ lifecycle ∈ lifecycles, waits lifecycle = false := by
  obtain ⟨lifecycle, member, holds⟩ := List.any_eq_true.mp taken
  have waiting := waited lifecycle holds
  constructor
  · intro settled
    rw [unsettled] at settled
    cases settled
  · intro idle
    rw [idle lifecycle member] at waiting
    cases waiting

theorem settled_branch {lifecycles : List CommandLifecycle} {value : CommandLifecycle}
    {waits : CommandLifecycle → Bool} (settled : value.isSettled = true)
    (idle : ∀ lifecycle ∈ lifecycles, waits lifecycle = false) :
    value.isSettled = true ↔ ∀ lifecycle ∈ lifecycles, waits lifecycle = false :=
  ⟨fun _ => idle, fun _ => settled⟩

namespace PackageSafety

variable {operation : PackageInstallReleaseOperation} {target : PackageInstallTargetLedger}

/-- A target waits for its cancellation and no other target has work ahead. -/
def WaitsForCancellation (operation : PackageInstallReleaseOperation) : Prop :=
  (∃ target ∈ operation.targets, target.lifecycle = .cancellationRequested) ∧
    ∀ target ∈ operation.targets, target.lifecycle.isOpen = false

theorem aggregate_settled_iff (lifecycles : List CommandLifecycle) :
    (aggregate lifecycles).isSettled = true ↔ ∀ lifecycle ∈ lifecycles, lifecycle.isOpen = false := by
  have opens : ∀ pending : CommandLifecycle, pending.isOpen = true →
      ∀ lifecycle : CommandLifecycle, (lifecycle == pending) = true → lifecycle.isOpen = true := by
    intro pending isOpen lifecycle same
    rw [beq_iff_eq.mp same]
    exact isOpen
  unfold aggregate
  split
  · rename_i none
    rw [List.isEmpty_iff.mp none]
    exact settled_branch rfl fun _ member => by cases member
  split
  · exact pending_branch rfl (opens .running rfl) ‹_›
  split
  · exact pending_branch rfl (opens .dispatched rfl) ‹_›
  split
  · exact pending_branch rfl (opens .proposed rfl) ‹_›
  split
  · exact pending_branch rfl (opens .accepted rfl) ‹_›
  rename_i running dispatched proposed accepted
  simp only [List.any_eq_true, beq_iff_eq, not_exists, not_and] at running dispatched proposed accepted
  refine settled_branch (by (repeat' split) <;> rfl) fun lifecycle member => ?_
  cases lifecycle with
  | proposed => exact absurd rfl (proposed _ member)
  | accepted => exact absurd rfl (accepted _ member)
  | dispatched => exact absurd rfl (dispatched _ member)
  | running => exact absurd rfl (running _ member)
  | _ => rfl

theorem open_eligible (ledger : TargetLedger operation target) (unsettled : target.lifecycle.isSettled = false) :
    target.preflight.eligible = true := by
  refine ledger.eligible_of_lifecycle fun rejected => ?_
  rw [rejected] at unsettled
  cases unsettled

theorem derived_settled_iff (ledger : OperationLedger operation) :
    operation.derivedLifecycle.isSettled = true ↔
      ∀ target ∈ operation.targets, target.lifecycle.isOpen = false := by
  rw [derived_aggregate, aggregate_settled_iff]
  constructor
  · intro closed target member
    by_contra isOpen
    have unsettled : target.lifecycle.isSettled = false := by
      cases lifecycle : target.lifecycle <;> rw [lifecycle] at isOpen <;> first | rfl | exact absurd rfl isOpen
    have eligible := open_eligible (ledger.targets target member) unsettled
    exact isOpen (closed _ (List.mem_map.mpr ⟨target, List.mem_filter.mpr ⟨member, eligible⟩, rfl⟩))
  · intro closed lifecycle member
    obtain ⟨target, eligible, rfl⟩ := List.mem_map.mp member
    exact closed target (List.mem_filter.mp eligible).1

theorem settled_iff (ledger : TargetLedger operation target) :
    target.lifecycle.isSettled = true ↔
      target.lifecycle.isOpen = false ∧ target.lifecycle ≠ .cancellationRequested := by
  cases eligible : target.preflight.eligible with
  | false =>
    rw [(ledger.excluded eligible).1]
    decide
  | true =>
    have phase := ledger.phase eligible
    unfold PhaseFacts at phase
    cases lifecycle : target.lifecycle <;> rw [lifecycle] at phase <;>
      first | exact phase.elim | decide

theorem lifecycle_agrees_iff (ledger : OperationLedger operation) :
    (operation.derivedLifecycle.isSettled = true ↔ operation.isTerminal = true) ↔
      ¬ WaitsForCancellation operation := by
  have terminal : operation.isTerminal = true ↔ ∀ target ∈ operation.targets,
      target.lifecycle.isOpen = false ∧ target.lifecycle ≠ .cancellationRequested := by
    rw [PackageInstallReleaseOperation.isTerminal, List.all_eq_true]
    exact forall₂_congr fun target member => settled_iff (ledger.targets target member)
  rw [derived_settled_iff ledger, terminal]
  constructor
  · rintro agree ⟨⟨target, member, requested⟩, closed⟩
    exact (agree.mp closed target member).2 requested
  · intro free
    refine ⟨fun closed target member => ⟨closed target member, fun requested => ?_⟩,
      fun ended target member => (ended target member).1⟩
    exact free ⟨⟨target, member, requested⟩, closed⟩

end PackageSafety

namespace KioskSafety

variable {operation : KioskShowControlsOperation}

def kioskPending (lifecycle : CommandLifecycle) : Bool :=
  lifecycle.isOpen || lifecycle == .cancellationRequested

def kioskAggregate (lifecycles : List CommandLifecycle) : CommandLifecycle :=
  if lifecycles.isEmpty then .rejected
  else if lifecycles.any fun lifecycle => lifecycle == .dispatched || lifecycle == .running then .running
  else if lifecycles.any (· == .cancellationRequested) then .cancellationRequested
  else if lifecycles.any (· == .proposed) then .proposed
  else if lifecycles.any (· == .accepted) then .accepted
  else if lifecycles.all (· == .applied) then .applied
  else if lifecycles.all (· == .cancelled) then .cancelled
  else if lifecycles.all (· == .expired) then .expired
  else .failed

theorem derived_kioskAggregate (operation : KioskShowControlsOperation) :
    operation.derivedLifecycle =
      kioskAggregate ((operation.targets.filter (·.preflight.eligible)).map (·.lifecycle)) := by
  simp only [KioskShowControlsOperation.derivedLifecycle, kioskAggregate, List.isEmpty_map, List.any_map,
    List.all_map]
  rfl

theorem kioskAggregate_settled_iff (lifecycles : List CommandLifecycle) :
    (kioskAggregate lifecycles).isSettled = true ↔
      ∀ lifecycle ∈ lifecycles, kioskPending lifecycle = false := by
  have waits : ∀ pending : CommandLifecycle, kioskPending pending = true →
      ∀ lifecycle : CommandLifecycle, (lifecycle == pending) = true → kioskPending lifecycle = true := by
    intro pending waited lifecycle same
    rw [beq_iff_eq.mp same]
    exact waited
  unfold kioskAggregate
  split
  · rename_i none
    rw [List.isEmpty_iff.mp none]
    exact settled_branch rfl fun _ member => by cases member
  split
  · refine pending_branch rfl (fun lifecycle inflight => ?_) ‹_›
    rcases Bool.or_eq_true_iff.mp inflight with dispatched | running
    · exact waits .dispatched rfl lifecycle dispatched
    · exact waits .running rfl lifecycle running
  split
  · exact pending_branch rfl (waits .cancellationRequested rfl) ‹_›
  split
  · exact pending_branch rfl (waits .proposed rfl) ‹_›
  split
  · exact pending_branch rfl (waits .accepted rfl) ‹_›
  rename_i inflight requested proposed accepted
  simp only [List.any_eq_true, Bool.or_eq_true, beq_iff_eq, not_exists, not_and, not_or]
    at inflight requested proposed accepted
  refine settled_branch (by (repeat' split) <;> rfl) fun lifecycle member => ?_
  cases lifecycle with
  | proposed => exact absurd rfl (proposed _ member)
  | accepted => exact absurd rfl (accepted _ member)
  | dispatched => exact absurd rfl (inflight _ member).1
  | running => exact absurd rfl (inflight _ member).2
  | cancellationRequested => exact absurd rfl (requested _ member)
  | _ => rfl

theorem lifecycle_agrees (valid : Valid operation) :
    operation.derivedLifecycle.isSettled = true ↔
      ∀ target ∈ operation.targets, target.lifecycle.isSettled = true := by
  rw [derived_kioskAggregate, kioskAggregate_settled_iff]
  constructor
  · intro idle target member
    obtain ⟨rejected, live⟩ := valid_lifecycle (target_valid valid target member)
    cases eligible : target.preflight.eligible with
    | false =>
      rw [rejected eligible]
      rfl
    | true =>
      have waited := idle target.lifecycle
        (List.mem_map.mpr ⟨target, List.mem_filter.mpr ⟨member, eligible⟩, rfl⟩)
      have known := live eligible
      revert waited known
      cases target.lifecycle <;> decide
  · intro settled lifecycle member
    obtain ⟨target, known, rfl⟩ := List.mem_map.mp member
    have ended := settled target (List.mem_filter.mp known).1
    revert ended
    cases target.lifecycle <;> decide

end KioskSafety

section Runs

variable [HubEnvironment]

/-- An operation's end is read off its targets, except where a package target's cancellation is all that is left. -/
theorem lifecycles_agree_with_targets (policy : AssertedPolicy) (calls : List HubCall) :
    let hub := fleetHubMachine.run (.new policy) calls
    (∀ operationId operation, hub.packageOperation operationId = .ok operation →
      ((operation.derivedLifecycle.isSettled = true ↔ operation.isTerminal = true) ↔
        ¬ PackageSafety.WaitsForCancellation operation)) ∧
      ∀ operationId operation, hub.kioskOperation operationId = .ok operation →
        (operation.derivedLifecycle.isSettled = true ↔
          ∀ target ∈ operation.targets, target.lifecycle.isSettled = true) := by
  intro hub
  refine ⟨fun operationId operation known => ?_, fun operationId operation known => ?_⟩
  · have ledger := PackageSafety.packageOperation_ledger (PackageSafety.run_packages policy calls) known
    exact PackageSafety.lifecycle_agrees_iff ledger
  · have stored := (KioskSafety.kioskOperation_ok operationId).mp known
    exact KioskSafety.lifecycle_agrees
      ((KioskSafety.run_kioskLedger policy calls).accepted operationId operation stored).1

end Runs

section Samples

open PackageSafety

def cancellingCalls : List HubCall :=
  previewedCalls ["d1"] 1 ++
    [confirmCall "op-1", samplePrepare "op-1" "d1",
      .package (.acknowledgement (sampleAcknowledgement "op-1" "d1" true) 1004),
      .package (.progress (sampleProgress "d1" .staged 1005) 1005),
      .package (.progress (sampleProgress "d1" .cancellationRequested 1006) 1006)]

set_option maxRecDepth 4000 in
/-- A package operation whose only target waits for its cancellation already reads as failed. -/
theorem cancellation_read_as_failed :
    ∃ (_ : HubEnvironment) (policy : AssertedPolicy) (calls : List HubCall) (operationId : String)
      (operation : PackageInstallReleaseOperation),
      (fleetHubMachine.run (.new policy) calls).packageOperation operationId = .ok operation ∧
        operation.derivedLifecycle.isSettled = true ∧ operation.isTerminal = false := by
  have read : ((@fleetHubMachine sampleEnvironment).run (.new samplePolicy)
      cancellingCalls).packageOperations["op-1"]?.map (fun operation =>
        (operation.derivedLifecycle.isSettled, operation.isTerminal)) = some (true, false) := by
    decide
  obtain ⟨operation, stored, both⟩ := Option.map_eq_some_iff.mp read
  obtain ⟨settled, unfinished⟩ := Prod.mk.inj both
  exact ⟨sampleEnvironment, samplePolicy, cancellingCalls, "op-1", operation,
    (packageOperation_ok _ _ _).mpr (.inl stored), settled, unfinished⟩

end Samples

end RustyFleet

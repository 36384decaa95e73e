import RustyFleet.Safety.KioskLedger

namespace RustyFleet.KioskSafety

variable {hub : FleetHub} {operation next : KioskShowControlsOperation}
  {target before after : KioskShowControlsTargetLedger}

/-- The evidence behind an applied target: a valid receipt for its last owner request. -/
def ProvenApplied (operationId : String) (target : KioskShowControlsTargetLedger) : Prop :=
  ∃ receipt, target.effectiveReceipt = some receipt ∧ Valid receipt ∧ receipt.operationId = operationId ∧
    receipt.deviceId = target.deviceId ∧ receipt.identityRevision = target.identityRevision ∧
    target.ownerRequestIds.getLast? = some receipt.ownerActionRequestId

structure TargetFacts (operation : KioskShowControlsOperation) (target : KioskShowControlsTargetLedger) :
    Prop where
  attempts : target.attemptCount = target.ownerRequestIds.length
  bounded : target.attemptCount ≤ operation.maxAttemptsPerTarget
  distinct : target.ownerRequestIds.Nodup
  excluded : target.preflight.eligible = false → target.lifecycle = .rejected
  live : target.preflight.eligible = true → target.lifecycle ≠ .rejected
  attempted : target.lifecycle = .dispatched → target.attemptCount ≠ 0
  untouched : target.lifecycle ∈ [.cancellationRequested, .cancelled] → target.attemptCount = 0
  proven : target.lifecycle = .applied → ProvenApplied operation.operationId target

theorem lifecycle_attempts {maxAttempts : Nat} (valid : target.lifecycleViolations maxAttempts = []) :
    (target.lifecycle = .dispatched → target.attemptCount ≠ 0) ∧
      (target.lifecycle ∈ [.cancellationRequested, .cancelled] → target.attemptCount = 0) := by
  unfold KioskShowControlsTargetLedger.lifecycleViolations at valid
  refine ⟨fun dispatched => ?_, fun cancelled => ?_⟩
  · rw [dispatched] at valid
    simp only [violationIf_nil, not_not] at valid
    exact valid.1.1
  · simp only [List.mem_cons, List.not_mem_nil, or_false] at cancelled
    rcases cancelled with requested | completed
    · rw [requested] at valid
      simp only [violationIf_nil, not_not] at valid
      exact valid.1.1
    · rw [completed] at valid
      simp only [violationIf_nil, not_not] at valid
      exact valid.1.1

theorem applied_received {maxAttempts : Nat} (valid : target.lifecycleViolations maxAttempts = [])
    (applied : target.lifecycle = .applied) : ∃ receipt, target.effectiveReceipt = some receipt := by
  unfold KioskShowControlsTargetLedger.lifecycleViolations at valid
  rw [applied] at valid
  simp only [violationIf_nil, not_not] at valid
  exact Option.isSome_iff_exists.mp valid.2.1

theorem target_facts (valid : Valid operation) (member : target ∈ operation.targets) :
    TargetFacts operation target := by
  have checked := target_valid valid target member
  obtain ⟨excluded, live⟩ := valid_lifecycle checked
  simp only [KioskShowControlsTargetLedger.validateForOperation, List.append_eq_nil_iff, violationIf_nil,
    not_or, Nat.not_lt, gt_iff_lt, ne_eq, not_not] at checked
  obtain ⟨⟨⟨⟨⟨⟨⟨⟨⟨_, bounded⟩, _⟩, _⟩, length, _⟩, distinct, _⟩, _⟩, current⟩, _⟩, own⟩ := checked
  have notRejected : target.preflight.eligible = true → target.lifecycle ≠ .rejected := by
    intro eligible rejected
    exact live eligible (by rw [rejected]; decide)
  refine ⟨length.symm, bounded, distinct, excluded, notRejected, ?_, ?_, ?_⟩
  all_goals
    intro phase
    have eligible : target.preflight.eligible = true := by
      by_contra ineligible
      rw [excluded (Bool.not_eq_true _ ▸ ineligible)] at phase
      revert phase
      decide
    rw [if_pos eligible, List.append_eq_nil_iff] at own
  · exact (lifecycle_attempts own.1).1 phase
  · exact (lifecycle_attempts own.1).2 phase
  · obtain ⟨receipt, received⟩ := applied_received own.1 phase
    have bound := own.2
    simp only [received, Option.map_some, Option.getD_some, KioskShowControlsTargetLedger.receiptViolations,
      List.append_eq_nil_iff, List.map_eq_nil_iff, violationIf_nil, not_or, ne_eq, not_not] at bound
    obtain ⟨sound, sameOperation, sameDevice, sameIdentity, sameRequest⟩ := bound
    exact ⟨receipt, received, sound, sameOperation, sameDevice, sameIdentity, current ▸ sameRequest⟩

def Together (operation : KioskShowControlsOperation) : Prop :=
  ∀ target ∈ operation.targets, target.lifecycle = .proposed →
    ∀ other ∈ operation.targets, other.preflight.eligible = true → other.lifecycle = .proposed

/-- At most one more request id, and never one used before. -/
def AppendsFresh (before after : List String) : Prop :=
  after = before ∨ ∃ fresh, fresh ∉ before ∧ after = before ++ [fresh]

structure TargetLater (before after : KioskShowControlsTargetLedger) : Prop where
  same : after.deviceId = before.deviceId ∧ after.identityRevision = before.identityRevision ∧
    after.preflight = before.preflight
  requests : before.ownerRequestIds <+: after.ownerRequestIds
  settled : before.lifecycle ∈ [.applied, .cancelled, .rejected] → after = before
  clock : before.lastTransitionMs ≤ after.lastTransitionMs

structure OperationLater (operation next : KioskShowControlsOperation) : Prop where
  frozen : next = { operation with targets := next.targets, lifecycle := next.lifecycle }
  targets : List.Forall₂ TargetLater operation.targets next.targets

theorem TargetLater.refl (target : KioskShowControlsTargetLedger) : TargetLater target target :=
  ⟨⟨rfl, rfl, rfl⟩, List.prefix_rfl, fun _ => rfl, Int.le_refl _⟩

theorem TargetLater.trans {first second third : KioskShowControlsTargetLedger}
    (earlier : TargetLater first second) (later : TargetLater second third) : TargetLater first third where
  same := ⟨later.same.1.trans earlier.same.1, later.same.2.1.trans earlier.same.2.1,
    later.same.2.2.trans earlier.same.2.2⟩
  requests := earlier.requests.trans later.requests
  settled := by
    intro ended
    have kept := earlier.settled ended
    rw [← kept] at ended
    exact (later.settled ended).trans kept
  clock := Int.le_trans earlier.clock later.clock

theorem OperationLater.refl (operation : KioskShowControlsOperation) : OperationLater operation operation :=
  ⟨rfl, List.forall₂_same.mpr fun target _ => .refl target⟩

theorem OperationLater.trans {first second third : KioskShowControlsOperation}
    (earlier : OperationLater first second) (later : OperationLater second third) :
    OperationLater first third where
  frozen := by rw [later.frozen, earlier.frozen]
  targets := Support.forall₂_comp (fun _ _ _ one two => one.trans two) earlier.targets later.targets

theorem TargetStep.unsettled {nowMs : Int} (step : TargetStep operation nowMs before after)
    (waiting : operation.lifecycle = .proposed → before.preflight.eligible = true →
      before.lifecycle = .proposed) :
    before.lifecycle ∉ [.applied, .cancelled, .rejected] := by
  cases step with
  | confirmed eligible proposed =>
    rw [waiting proposed eligible]
    decide
  | dispatched ownerRequestId ready fresh =>
    revert ready
    cases before.lifecycle <;> decide
  | running reasonCode message inflight =>
    rw [inflight]
    decide
  | received receipt inflight =>
    revert inflight
    cases before.lifecycle <;> decide
  | finished lifecycle reasonCode message ended inflight =>
    revert inflight
    cases before.lifecycle <;> decide
  | cancellationRequested accepted =>
    rw [accepted]
    decide
  | cancellationCompleted requested =>
    rw [requested]
    decide

theorem TargetStep.appends {nowMs : Int} (step : TargetStep operation nowMs before after) :
    AppendsFresh before.ownerRequestIds after.ownerRequestIds := by
  cases step with
  | confirmed eligible proposed => exact .inl (by rw [KioskShowControlsTargetLedger.confirmed, if_pos eligible])
  | dispatched ownerRequestId ready fresh => exact .inr ⟨ownerRequestId, fresh, rfl⟩
  | _ => exact .inl rfl

theorem TargetStep.confirms {nowMs : Int} (step : TargetStep operation nowMs before after) :
    after.lifecycle ≠ .proposed := by
  cases step with
  | confirmed eligible proposed =>
    rw [KioskShowControlsTargetLedger.confirmed, if_pos eligible]
    exact fun same => by cases same
  | finished lifecycle reasonCode message ended inflight =>
    intro same
    rcases ended with rfl | rfl <;> cases same
  | _ => exact fun same => by cases same

theorem TargetStep.stamped {nowMs : Int} (step : TargetStep operation nowMs before after) :
    (after.deviceId = before.deviceId ∧ after.identityRevision = before.identityRevision ∧
      after.preflight = before.preflight) ∧ after.lastTransitionMs = nowMs := by
  cases step with
  | confirmed eligible proposed =>
    rw [KioskShowControlsTargetLedger.confirmed, if_pos eligible]
    exact ⟨⟨rfl, rfl, rfl⟩, rfl⟩
  | _ => exact ⟨⟨rfl, rfl, rfl⟩, rfl⟩

theorem AppendsFresh.grows {earlier later : List String} (appends : AppendsFresh earlier later) :
    earlier <+: later := by
  rcases appends with same | ⟨fresh, _, grown⟩
  · exact same ▸ List.prefix_rfl
  · rw [grown]
    exact List.prefix_append _ _

theorem TargetStep.later {nowMs : Int} (step : TargetStep operation nowMs before after)
    (waiting : operation.lifecycle = .proposed → before.preflight.eligible = true →
      before.lifecycle = .proposed)
    (clock : before.lastTransitionMs ≤ nowMs) : TargetLater before after where
  same := step.stamped.1
  requests := step.appends.grows
  settled := fun ended => absurd ended (step.unsettled waiting)
  clock := by
    rw [step.stamped.2]
    exact clock

theorem waiting_together (valid : Valid operation) (together : Together operation)
    (proposed : operation.lifecycle = .proposed) (member : target ∈ operation.targets)
    (eligible : target.preflight.eligible = true) : target.lifecycle = .proposed := by
  have derived : operation.derivedLifecycle = .proposed := by
    have read := valid
    simp only [Valid, violations, List.append_eq_nil_iff, violationIf_nil, ne_eq, not_not] at read
    exact read.1.2.symm.trans proposed
  simp only [KioskShowControlsOperation.derivedLifecycle] at derived
  split at derived
  · cases derived
  split at derived
  · cases derived
  split at derived
  · cases derived
  split at derived
  · rename_i found
    obtain ⟨waiter, known, waits⟩ := List.any_eq_true.mp found
    exact together waiter (List.mem_filter.mp known).1 (beq_iff_eq.mp waits) target member eligible
  split at derived
  · cases derived
  split at derived
  · cases derived
  split at derived
  · cases derived
  split at derived <;> cases derived

def CallStep (before after : KioskShowControlsTargetLedger) : Prop :=
  TargetLater before after ∧ AppendsFresh before.ownerRequestIds after.ownerRequestIds ∧
    (after.lifecycle = .proposed → after = before ∧ before.lifecycle = .proposed)

theorem CallStep.refl (target : KioskShowControlsTargetLedger) : CallStep target target :=
  ⟨.refl target, .inl rfl, fun proposed => ⟨rfl, proposed⟩⟩

theorem TargetStep.call {nowMs : Int} (step : TargetStep operation nowMs before after)
    (valid : Valid operation) (together : Together operation) (clock : Monotonic operation nowMs)
    (member : before ∈ operation.targets) : CallStep before after :=
  ⟨step.later (fun proposed eligible => waiting_together valid together proposed member eligible)
    (clock.2 before member), step.appends, fun proposed => absurd proposed step.confirms⟩

theorem OperationStep.targets (step : OperationStep operation next) (valid : Valid operation)
    (together : Together operation) : List.Forall₂ CallStep operation.targets next.targets := by
  cases step with
  | confirmed nowMs clock proposed =>
    simp only [KioskShowControlsOperation.confirmed, KioskShowControlsOperation.rederived,
      List.forall₂_map_right_iff]
    refine List.forall₂_same.mpr fun target member => ?_
    cases eligible : target.preflight.eligible with
    | true => exact (TargetStep.confirmed eligible proposed).call valid together clock member
    | false =>
      rw [KioskShowControlsTargetLedger.confirmed, if_neg (by rw [eligible]; decide)]
      exact .refl target
  | rewritten deviceId nowMs clock rewrite target found confirmed step =>
    have member := (Support.find?_mem_of_some found).1
    refine (Support.modifyFirst_forall₂ _ rewrite operation.targets target found).imp ?_
    rintro before after (same | ⟨rfl, rfl⟩)
    · rw [same]
      exact .refl before
    · exact step.call valid together clock member

theorem OperationStep.together (step : OperationStep operation next) (valid : Valid operation)
    (together : Together operation) : Together next := by
  have advanced := step.targets valid together
  cases step with
  | confirmed nowMs clock proposed =>
    intro target member waits
    simp only [KioskShowControlsOperation.confirmed, KioskShowControlsOperation.rederived, List.mem_map]
      at member
    obtain ⟨prior, known, rfl⟩ := member
    cases eligible : prior.preflight.eligible with
    | true =>
      rw [KioskShowControlsTargetLedger.confirmed, if_pos eligible] at waits
      cases waits
    | false =>
      rw [KioskShowControlsTargetLedger.confirmed, if_neg (by rw [eligible]; decide),
        (target_facts valid known).excluded eligible] at waits
      cases waits
  | rewritten deviceId nowMs clock rewrite rewritten found confirmed step =>
    intro target member waits
    obtain ⟨prior, known, moved⟩ := Support.forall₂_right advanced target member
    have stillWaits := (moved.2.2 waits).2
    have eligible : rewritten.preflight.eligible = true := by
      by_contra ineligible
      have rejected := (target_facts valid (Support.find?_mem_of_some found).1).excluded
        (Bool.not_eq_true _ ▸ ineligible)
      refine step.unsettled (fun proposed eligible => absurd eligible ineligible) ?_
      rw [rejected]
      decide
    exact absurd (together prior known stillWaits rewritten (Support.find?_mem_of_some found).1 eligible)
      confirmed

theorem OperationStep.later (step : OperationStep operation next) (valid : Valid operation)
    (together : Together operation) : OperationLater operation next where
  frozen := by cases step <;> rfl
  targets := (step.targets valid together).imp fun _ _ moved => moved.1

theorem proposed_together (plan : KioskShowControlsPreviewPlan) (fleetRevision : Nat)
    (preflights : List KioskShowControlsTargetPreflight) :
    Together (plan.proposedOperation fleetRevision preflights) := by
  intro target member waits other also eligible
  simp only [KioskShowControlsPreviewPlan.proposedOperation, KioskShowControlsOperation.rederived,
    List.mem_map] at also
  obtain ⟨preflight, known, rfl⟩ := also
  exact if_pos eligible

def KioskHub (hub : FleetHub) : Prop :=
  ∀ (operationId : String) operation, hub.kioskOperations[operationId]? = some operation →
    Valid operation ∧ operation.operationId = operationId ∧ Together operation

def KeepsKiosk (hub next : FleetHub) : Prop :=
  ∀ (operationId : String) operation, hub.kioskOperations[operationId]? = some operation →
    ∃ later, next.kioskOperations[operationId]? = some later ∧ OperationLater operation later ∧
      List.Forall₂ CallStep operation.targets later.targets

theorem KeepsKiosk.of_same {other : FleetHub} (same : other.kioskOperations = hub.kioskOperations) :
    KeepsKiosk hub other := by
  intro operationId operation stored
  refine ⟨operation, by rw [same, stored], .refl operation, ?_⟩
  exact List.forall₂_same.mpr fun target _ => .refl target

theorem handleKiosk_keeps (sound : KioskHub hub) (call : KioskCall) :
    KioskHub (hub.handleKiosk call).2 ∧ KeepsKiosk hub (hub.handleKiosk call).2 := by
  rcases kiosk_call_cases hub call with same | ⟨operationId, next, stores, admitted, changed⟩
  · rw [same]
    exact ⟨sound, .of_same rfl⟩
  rw [changed]
  have named : next.operationId = operationId ∧ Together next := by
    rcases stores with ⟨_, _, plan, preflights, rfl, rfl⟩ | ⟨operation, stored, step⟩
    · exact ⟨rfl, proposed_together plan _ preflights⟩
    · obtain ⟨valid, own, together⟩ := sound operationId operation stored
      exact ⟨step.keeps.1.trans own, step.together valid together⟩
  refine ⟨?_, ?_⟩
  · exact BTreeMap.insert_forall hub.kioskOperations operationId next
      (fun key kept => Valid kept ∧ kept.operationId = key ∧ Together kept) sound ⟨admitted, named⟩
  · intro other operation stored
    by_cases own : other = operationId
    · subst own
      refine ⟨next, BTreeMap.lookup_insert_self _ _ _, ?_⟩
      rcases stores with ⟨unused, _⟩ | ⟨prior, found, step⟩
      · cases unused.symm.trans stored
      · cases found.symm.trans stored
        obtain ⟨valid, _, together⟩ := sound other operation stored
        exact ⟨step.later valid together, step.targets valid together⟩
    · refine ⟨operation, (BTreeMap.lookup_insert_of_ne _ _ own).trans stored, .refl operation, ?_⟩
      exact List.forall₂_same.mpr fun target _ => .refl target

theorem kiosk_errors_atomic (call : KioskCall) (err : returnsErr (hub.handleKiosk call).1 = true) :
    (hub.handleKiosk call).2 = hub := by
  rcases kiosk_call_cases hub call with same | ⟨operationId, next, _, _, changed⟩
  · exact same
  · rw [changed] at err
    cases err

theorem kioskHub_new (policy : AssertedPolicy) : KioskHub (.new policy) := by
  intro operationId operation stored
  simp [FleetHub.new] at stored

theorem dispatched_uncancellable {later : KioskShowControlsOperation} (moved : TargetLater before after)
    (first : TargetFacts operation before) (last : TargetFacts later after)
    (sent : before.lifecycle = .dispatched) :
    after.lifecycle ∉ [.cancellationRequested, .cancelled] := by
  intro cancelled
  have none := last.untouched cancelled
  have some := first.attempted sent
  have grown := moved.requests.length_le
  have before := first.attempts
  have after := last.attempts
  omega

section Runs

variable [HubEnvironment]

theorem call_keeps_kiosk (sound : KioskHub hub) (call : HubCall) :
    KioskHub (hub.handle call).1 ∧ KeepsKiosk hub (hub.handle call).1 := by
  by_cases own : ∃ kiosk, call = .kiosk kiosk
  · obtain ⟨kiosk, rfl⟩ := own
    rw [FleetHub.handle_kiosk]
    exact handleKiosk_keeps sound kiosk
  · have same := (hub.handle_leaves_others call).kiosk fun kiosk same => own ⟨kiosk, same⟩
    refine ⟨?_, .of_same same⟩
    rw [KioskHub, same]
    exact sound

theorem run_kiosk (policy : AssertedPolicy) (calls : List HubCall) :
    KioskHub (fleetHubMachine.run (.new policy) calls) :=
  fleetHubMachine.run_invariant (fun _ _ => True) KioskHub
    (fun _ call _ sound => (call_keeps_kiosk sound call).1) (.new policy) calls
    (fleetHubMachine.admits_true _ _) (kioskHub_new policy)

theorem run_kiosk_later (sound : KioskHub hub) (further : List HubCall) (operationId : String)
    (stored : hub.kioskOperations[operationId]? = some operation) :
    ∃ later, (fleetHubMachine.run hub further).kioskOperations[operationId]? = some later ∧
      OperationLater operation later := by
  refine fleetHubMachine.run_relation (fun _ _ => True) KioskHub
    (fun hub next => ∀ operation, hub.kioskOperations[operationId]? = some operation →
      ∃ later, next.kioskOperations[operationId]? = some later ∧ OperationLater operation later)
    (fun _ call _ sound => (call_keeps_kiosk sound call).1)
    (fun _ operation stored => ⟨operation, stored, .refl operation⟩) ?_ ?_ hub further
    (fleetHubMachine.admits_true _ _) sound operation stored
  · intro first second third earlier later operation stored
    obtain ⟨middle, between, moved⟩ := earlier operation stored
    obtain ⟨last, final, on⟩ := later middle between
    exact ⟨last, final, moved.trans on⟩
  · intro hub call _ sound operation stored
    obtain ⟨later, kept, moved, _⟩ := (call_keeps_kiosk sound call).2 operationId operation stored
    exact ⟨later, kept, moved⟩

/-- Every stored Kiosk operation is sound, moves forward only, and is untouched by a call that errs. -/
theorem kiosk_run_sound (policy : AssertedPolicy) (calls : List HubCall) :
    let hub := fleetHubMachine.run (.new policy) calls
    (∀ (operationId : String) operation, hub.kioskOperations[operationId]? = some operation →
      Valid operation ∧ operation.operationId = operationId ∧
        operation.inflight ≤ operation.maxParallelism ∧
        ∀ target ∈ operation.targets, target.attemptCount = target.ownerRequestIds.length ∧
          target.attemptCount ≤ operation.maxAttemptsPerTarget ∧ target.ownerRequestIds.Nodup ∧
          (target.lifecycle = .applied → ProvenApplied operationId target)) ∧
      (∀ call (operationId : String) operation, hub.kioskOperations[operationId]? = some operation →
        ∃ next, (fleetHubMachine.next hub call).kioskOperations[operationId]? = some next ∧
          List.Forall₂ (fun before after : KioskShowControlsTargetLedger =>
              after.deviceId = before.deviceId ∧
                AppendsFresh before.ownerRequestIds after.ownerRequestIds)
            operation.targets next.targets) ∧
      (∀ further (operationId : String) operation, hub.kioskOperations[operationId]? = some operation →
        ∃ later, (fleetHubMachine.run hub further).kioskOperations[operationId]? = some later ∧
          later.maxAttemptsPerTarget = operation.maxAttemptsPerTarget ∧
          later.maxParallelism = operation.maxParallelism ∧
          List.Forall₂ (fun before after : KioskShowControlsTargetLedger =>
              after.deviceId = before.deviceId ∧ before.ownerRequestIds <+: after.ownerRequestIds ∧
                (before.lifecycle ∈ [.applied, .cancelled, .rejected] → after = before) ∧
                (before.lifecycle = .dispatched →
                  after.lifecycle ∉ [.cancellationRequested, .cancelled]) ∧
                before.lastTransitionMs ≤ after.lastTransitionMs)
            operation.targets later.targets) ∧
      (∀ call, (fleetHubMachine.answer hub (.kiosk call)).isErr = true →
        fleetHubMachine.next hub (.kiosk call) = hub) ∧
      ∀ call, (fleetHubMachine.answer hub call).isErr = true →
        (fleetHubMachine.next hub call).kioskOperations = hub.kioskOperations := by
  intro hub
  have sound : KioskHub hub := run_kiosk policy calls
  have atomic : ∀ call, (fleetHubMachine.answer hub (.kiosk call)).isErr = true →
      fleetHubMachine.next hub (.kiosk call) = hub :=
    fun call err => kiosk_errors_atomic call err
  refine ⟨?_, ?_, ?_, atomic, ?_⟩
  · intro operationId operation stored
    obtain ⟨valid, named, _⟩ := sound operationId operation stored
    refine ⟨valid, named, ?_, fun target member => ?_⟩
    · have read := valid
      simp only [Valid, violations, List.append_eq_nil_iff, violationIf_nil, gt_iff_lt, Nat.not_lt] at read
      exact read.2
    · have facts := target_facts valid member
      exact ⟨facts.attempts, facts.bounded, facts.distinct, fun applied => named ▸ facts.proven applied⟩
  · intro call operationId operation stored
    obtain ⟨later, kept, _, steps⟩ := (call_keeps_kiosk sound call).2 operationId operation stored
    exact ⟨later, kept, steps.imp fun before after step => ⟨step.1.same.1, step.2.1⟩⟩
  · intro further operationId operation stored
    obtain ⟨later, kept, moved⟩ := run_kiosk_later sound further operationId stored
    have final : KioskHub (fleetHubMachine.run hub further) :=
      fleetHubMachine.run_invariant (fun _ _ => True) KioskHub
        (fun _ call _ sound => (call_keeps_kiosk sound call).1) hub further
        (fleetHubMachine.admits_true _ _) sound
    refine ⟨later, kept, by rw [moved.frozen], by rw [moved.frozen], ?_⟩
    refine Support.forall₂_mem_imp moved.targets fun before after first last step => ?_
    have early := target_facts (sound operationId operation stored).1 first
    have late := target_facts (final operationId later kept).1 last
    exact ⟨step.same.1, step.requests, step.settled, dispatched_uncancellable step early late, step.clock⟩
  · intro call err
    by_cases own : ∃ kiosk, call = .kiosk kiosk
    · obtain ⟨kiosk, rfl⟩ := own
      rw [atomic kiosk err]
    · exact (hub.handle_leaves_others call).kiosk fun kiosk same => own ⟨kiosk, same⟩

end Runs

end RustyFleet.KioskSafety

import RustyFleet.Hub.Frames

namespace RustyFleet.KioskSafety

/-- The rewrites the Kiosk mutators make to one target, with what each of them checked first. -/
inductive TargetStep (operation : KioskShowControlsOperation) (nowMs : Int)
    (target : KioskShowControlsTargetLedger) : KioskShowControlsTargetLedger → Prop
  | confirmed (eligible : target.preflight.eligible = true) (proposed : operation.lifecycle = .proposed) :
      TargetStep operation nowMs target (target.confirmed nowMs)
  | dispatched (ownerRequestId : String) (ready : target.lifecycle ∈ [.accepted, .failed, .expired])
      (fresh : ownerRequestId ∉ target.ownerRequestIds) :
      TargetStep operation nowMs target (target.dispatchStarted ownerRequestId
        operation.preview.expiresAtMs operation.maxAttemptsPerTarget nowMs)
  | running (reasonCode message : String) (inflight : target.lifecycle = .dispatched) :
      TargetStep operation nowMs target (target.transitioned .running reasonCode message nowMs)
  | received (receipt : KioskEffectiveReceipt) (inflight : target.lifecycle ∈ [.dispatched, .running]) :
      TargetStep operation nowMs target (target.received receipt nowMs)
  | finished (lifecycle : CommandLifecycle) (reasonCode message : String)
      (ended : lifecycle = .failed ∨ lifecycle = .expired)
      (inflight : target.lifecycle ∈ [.dispatched, .running]) :
      TargetStep operation nowMs target (target.attemptFinished lifecycle operation.maxAttemptsPerTarget
        reasonCode message nowMs)
  | cancellationRequested (accepted : target.lifecycle = .accepted) :
      TargetStep operation nowMs target (target.cancellationRequested nowMs)
  | cancellationCompleted (requested : target.lifecycle = .cancellationRequested) :
      TargetStep operation nowMs target (target.cancellationCompleted nowMs)

def Monotonic (operation : KioskShowControlsOperation) (nowMs : Int) : Prop :=
  operation.createdAtMs ≤ nowMs ∧ ∀ target ∈ operation.targets, target.lastTransitionMs ≤ nowMs

/-- What one call can do to one stored Kiosk operation. -/
inductive OperationStep (operation : KioskShowControlsOperation) : KioskShowControlsOperation → Prop
  | confirmed (nowMs : Int) (clock : Monotonic operation nowMs)
      (proposed : operation.lifecycle = .proposed) :
      OperationStep operation (operation.confirmed nowMs)
  | rewritten (deviceId : String) (nowMs : Int) (clock : Monotonic operation nowMs)
      (rewrite : KioskShowControlsTargetLedger → KioskShowControlsTargetLedger)
      (target : KioskShowControlsTargetLedger)
      (found : operation.targets.find? (·.deviceId == deviceId) = some target)
      (confirmed : target.lifecycle ≠ .proposed)
      (step : TargetStep operation nowMs target (rewrite target)) :
      OperationStep operation (operation.rewriteTarget deviceId rewrite)

def Advances (operation : KioskShowControlsOperation) (before after : KioskShowControlsTargetLedger) :
    Prop :=
  after = before ∨ ∃ nowMs, Monotonic operation nowMs ∧ TargetStep operation nowMs before after

variable {hub : FleetHub} {operation next : KioskShowControlsOperation}

theorem kioskOperation_ok (operationId : String) :
    hub.kioskOperation operationId = .ok operation ↔ hub.kioskOperations[operationId]? = some operation := by
  rw [FleetHub.kioskOperation, orError_ok]

theorem requireMonotonicTime_ok (nowMs : Int) (done : Unit) :
    operation.requireMonotonicTime nowMs = .ok done ↔ Monotonic operation nowMs := by
  simp only [KioskShowControlsOperation.requireMonotonicTime, errorIf_ok, Monotonic, not_or, not_exists,
    not_and, Int.not_lt]

theorem target_ok (deviceId : String) (target : KioskShowControlsTargetLedger) :
    operation.target deviceId = .ok target ↔
      operation.targets.find? (·.deviceId == deviceId) = some target := by
  rw [KioskShowControlsOperation.target, orError_ok]

def EditSteps (hub : FleetHub) (operationId : String) (next : KioskShowControlsOperation) : Prop :=
  ∃ operation, hub.kioskOperations[operationId]? = some operation ∧ OperationStep operation next

theorem confirmEdit_steps (operationId previewId : String) (nowMs : Int)
    (rewritten : hub.kioskConfirmEdit operationId previewId nowMs = .ok (.rewritten next)) :
    EditSteps hub operationId next := by
  simp only [FleetHub.kioskConfirmEdit, exceptBind_ok, kioskOperation_ok, requireMonotonicTime_ok] at rewritten
  obtain ⟨operation, stored, _, _, _, clock, settled⟩ := rewritten
  split at settled
  · cases settled
  · rename_i proposed
    simp only [exceptBind_ok, exceptPure_ok, LedgerEdit.rewritten.injEq] at settled
    obtain ⟨_, _, _, _, rfl⟩ := settled
    exact ⟨operation, stored, .confirmed nowMs clock (not_not.mp proposed)⟩

theorem dispatchEdit_steps (operationId deviceId ownerRequestId : String) (nowMs : Int)
    (rewritten : hub.kioskDispatchEdit operationId deviceId ownerRequestId nowMs = .ok (.rewritten next)) :
    EditSteps hub operationId next := by
  simp only [FleetHub.kioskDispatchEdit, FleetHub.kioskDispatchChecks, exceptBind_ok, kioskOperation_ok,
    requireMonotonicTime_ok, target_ok] at rewritten
  obtain ⟨operation, stored, _, clock, target, found, settled⟩ := rewritten
  split at settled
  · cases settled
  · simp only [exceptBind_ok, errorIf_ok, exceptPure_ok, LedgerEdit.rewritten.injEq, not_not] at settled
    obtain ⟨_, ⟨_, _, _, ready, _, _, _, fresh, _⟩, rfl⟩ := settled
    refine ⟨operation, stored, .rewritten deviceId nowMs clock _ target found ?_
      (.dispatched ownerRequestId ready fresh)⟩
    rintro proposed
    rw [proposed] at ready
    revert ready
    decide

theorem inflightEdit_steps (operationId deviceId : String) (nowMs : Int) (reasonCode message : String)
    (rewritten : hub.kioskInflightEdit operationId deviceId nowMs .running reasonCode message =
      .ok (.rewritten next)) :
    EditSteps hub operationId next := by
  simp only [FleetHub.kioskInflightEdit, exceptBind_ok, kioskOperation_ok, requireMonotonicTime_ok, target_ok]
    at rewritten
  obtain ⟨operation, stored, _, clock, target, found, settled⟩ := rewritten
  split at settled
  · cases settled
  · simp only [exceptBind_ok, errorIf_ok, exceptPure_ok, LedgerEdit.rewritten.injEq, not_not] at settled
    obtain ⟨_, inflight, rfl⟩ := settled
    exact ⟨operation, stored, .rewritten deviceId nowMs clock _ target found (by rw [inflight]; decide)
      (.running reasonCode message inflight)⟩

theorem inflight_confirmed {target : KioskShowControlsTargetLedger}
    (inflight : target.lifecycle ∈ [.dispatched, .running]) : target.lifecycle ≠ .proposed := by
  intro proposed
  rw [proposed] at inflight
  revert inflight
  decide

theorem receiptEdit_steps (receipt : KioskEffectiveReceipt) (nowMs : Int)
    (rewritten : hub.kioskReceiptEdit receipt nowMs = .ok (.rewritten next)) :
    EditSteps hub receipt.operationId next := by
  simp only [FleetHub.kioskReceiptEdit, exceptBind_ok, kioskOperation_ok, requireMonotonicTime_ok, target_ok]
    at rewritten
  obtain ⟨operation, stored, _, clock, target, found, settled⟩ := rewritten
  split at settled
  · cases settled
  · simp only [exceptBind_ok, errorIf_ok, exceptPure_ok, LedgerEdit.rewritten.injEq, not_not] at settled
    obtain ⟨_, inflight, _, _, _, _, rfl⟩ := settled
    exact ⟨operation, stored, .rewritten receipt.deviceId nowMs clock _ target found
      (inflight_confirmed inflight) (.received receipt inflight)⟩

theorem finishEdit_steps (operationId deviceId reasonCode message : String) (nowMs : Int)
    (lifecycle : CommandLifecycle) (ended : lifecycle = .failed ∨ lifecycle = .expired)
    (rewritten : hub.kioskFinishEdit operationId deviceId reasonCode message nowMs lifecycle =
      .ok (.rewritten next)) :
    EditSteps hub operationId next := by
  simp only [FleetHub.kioskFinishEdit, exceptBind_ok, kioskOperation_ok, requireMonotonicTime_ok, target_ok]
    at rewritten
  obtain ⟨_, _, operation, stored, _, clock, target, found, settled⟩ := rewritten
  split at settled
  · cases settled
  · simp only [exceptBind_ok, errorIf_ok, exceptPure_ok, LedgerEdit.rewritten.injEq, not_not] at settled
    obtain ⟨_, inflight, rfl⟩ := settled
    exact ⟨operation, stored, .rewritten deviceId nowMs clock _ target found (inflight_confirmed inflight)
      (.finished lifecycle reasonCode message ended inflight)⟩

theorem cancellationRequestEdit_steps (operationId deviceId : String) (nowMs : Int)
    (rewritten : hub.kioskCancellationRequestEdit operationId deviceId nowMs = .ok (.rewritten next)) :
    EditSteps hub operationId next := by
  simp only [FleetHub.kioskCancellationRequestEdit, exceptBind_ok, kioskOperation_ok, requireMonotonicTime_ok,
    target_ok] at rewritten
  obtain ⟨operation, stored, _, clock, target, found, settled⟩ := rewritten
  split at settled
  · cases settled
  · simp only [exceptBind_ok, errorIf_ok, exceptPure_ok, LedgerEdit.rewritten.injEq, not_not] at settled
    obtain ⟨_, accepted, rfl⟩ := settled
    exact ⟨operation, stored, .rewritten deviceId nowMs clock _ target found (by rw [accepted]; decide)
      (.cancellationRequested accepted)⟩

theorem cancellationCompleteEdit_steps (operationId deviceId : String) (nowMs : Int)
    (rewritten : hub.kioskCancellationCompleteEdit operationId deviceId nowMs = .ok (.rewritten next)) :
    EditSteps hub operationId next := by
  simp only [FleetHub.kioskCancellationCompleteEdit, exceptBind_ok, kioskOperation_ok, requireMonotonicTime_ok,
    target_ok] at rewritten
  obtain ⟨operation, stored, _, clock, target, found, settled⟩ := rewritten
  split at settled
  · cases settled
  · simp only [exceptBind_ok, errorIf_ok, exceptPure_ok, LedgerEdit.rewritten.injEq, not_not] at settled
    obtain ⟨_, requested, rfl⟩ := settled
    exact ⟨operation, stored, .rewritten deviceId nowMs clock _ target found (by rw [requested]; decide)
      (.cancellationCompleted requested)⟩

def Stores (hub : FleetHub) (operationId : String) (next : KioskShowControlsOperation) : Prop :=
  (hub.kioskOperations[operationId]? = none ∧ hub.kioskOperations.size < maxKioskOperations ∧
      ∃ (plan : KioskShowControlsPreviewPlan) (preflights : List KioskShowControlsTargetPreflight),
        plan.operationId = operationId ∧
        next = plan.proposedOperation hub.resultRevision preflights) ∨
    EditSteps hub operationId next

theorem previewEdit_stores (plan : KioskShowControlsPreviewPlan)
    (rewritten : hub.kioskPreviewEdit plan = .ok (.rewritten next)) :
    Stores hub plan.operationId next := by
  simp only [FleetHub.kioskPreviewEdit, exceptBind_ok] at rewritten
  obtain ⟨_, _, settled⟩ := rewritten
  split at settled
  · simp only [exceptBind_ok, exceptPure_ok] at settled
    obtain ⟨_, _, ⟨⟩⟩ := settled
  · rename_i unused
    simp only [exceptBind_ok, errorIf_ok, exceptPure_ok, LedgerEdit.rewritten.injEq] at settled
    obtain ⟨preflights, _, _, _, _, room, rfl⟩ := settled
    exact .inl ⟨unused, by omega, plan, preflights, rfl, rfl⟩

theorem kiosk_stores (hub : FleetHub) (call : KioskCall) :
    (∃ operationId edit, hub.handleKiosk call = hub.settleKiosk operationId edit ∧
        ∀ next, edit = .ok (.rewritten next) → Stores hub operationId next) ∨
      ∃ code message, hub.handleKiosk call = (refuse code message, hub) := by
  cases call with
  | preview plan =>
    simp only [FleetHub.handleKiosk, FleetHub.previewKioskShowControls]
    exact .inl ⟨_, _, rfl, fun _ => previewEdit_stores plan⟩
  | confirm operationId previewId nowMs =>
    simp only [FleetHub.handleKiosk, FleetHub.confirmKioskShowControls]
    exact .inl ⟨_, _, rfl, fun _ rewritten => .inr (confirmEdit_steps operationId previewId nowMs rewritten)⟩
  | confirmRequest request nowMs =>
    simp only [FleetHub.handleKiosk, FleetHub.confirmKioskShowControlsRequest,
      FleetHub.confirmKioskShowControls]
    split
    · exact .inl ⟨_, _, rfl, fun _ rewritten => .inr (confirmEdit_steps _ _ nowMs rewritten)⟩
    · exact .inr ⟨_, _, rfl⟩
  | dispatch operationId deviceId ownerRequestId nowMs =>
    simp only [FleetHub.handleKiosk, FleetHub.dispatchKioskShowControls]
    exact .inl ⟨_, _, rfl, fun _ rewritten =>
      .inr (dispatchEdit_steps operationId deviceId ownerRequestId nowMs rewritten)⟩
  | running operationId deviceId nowMs =>
    simp only [FleetHub.handleKiosk, FleetHub.markKioskShowControlsRunning, FleetHub.transitionInflight]
    exact .inl ⟨_, _, rfl, fun _ rewritten => .inr (inflightEdit_steps operationId deviceId nowMs _ _ rewritten)⟩
  | receipt receipt nowMs =>
    simp only [FleetHub.handleKiosk, FleetHub.applyKioskShowControlsReceipt]
    exact .inl ⟨_, _, rfl, fun _ rewritten => .inr (receiptEdit_steps receipt nowMs rewritten)⟩
  | fail operationId deviceId reasonCode message nowMs =>
    simp only [FleetHub.handleKiosk, FleetHub.failKioskShowControls, FleetHub.finishOwnerAttempt]
    exact .inl ⟨_, _, rfl, fun _ rewritten =>
      .inr (finishEdit_steps operationId deviceId reasonCode message nowMs .failed (.inl rfl) rewritten)⟩
  | expire operationId deviceId reasonCode message nowMs =>
    simp only [FleetHub.handleKiosk, FleetHub.expireKioskShowControls, FleetHub.finishOwnerAttempt]
    exact .inl ⟨_, _, rfl, fun _ rewritten =>
      .inr (finishEdit_steps operationId deviceId reasonCode message nowMs .expired (.inr rfl) rewritten)⟩
  | requestCancellation operationId deviceId nowMs =>
    simp only [FleetHub.handleKiosk, FleetHub.requestKioskShowControlsCancellation]
    exact .inl ⟨_, _, rfl, fun _ rewritten =>
      .inr (cancellationRequestEdit_steps operationId deviceId nowMs rewritten)⟩
  | completeCancellation operationId deviceId nowMs =>
    simp only [FleetHub.handleKiosk, FleetHub.completeKioskShowControlsCancellation]
    exact .inl ⟨_, _, rfl, fun _ rewritten =>
      .inr (cancellationCompleteEdit_steps operationId deviceId nowMs rewritten)⟩

theorem settle_cases (operationId : String) (edit : HubResult (LedgerEdit KioskShowControlsOperation)) :
    (hub.settleKiosk operationId edit).2 = hub ∨
      ∃ next, edit = .ok (.rewritten next) ∧ Valid next ∧
        hub.settleKiosk operationId edit =
          (.ok next, { hub with kioskOperations := hub.kioskOperations.insert operationId next }) := by
  rcases edit with fault | operation | next
  · exact .inl rfl
  · exact .inl rfl
  · by_cases admitted : Valid next
    · refine .inr ⟨next, rfl, admitted, ?_⟩
      simp only [FleetHub.settleKiosk, validateKioskOperation, rejectIf, errorIf, if_neg (not_not.mpr admitted)]
    · refine .inl ?_
      simp only [FleetHub.settleKiosk, validateKioskOperation, rejectIf, errorIf, if_pos admitted]

theorem kiosk_call_cases (hub : FleetHub) (call : KioskCall) :
    (hub.handleKiosk call).2 = hub ∨
      ∃ operationId next, Stores hub operationId next ∧ Valid next ∧
        hub.handleKiosk call =
          (.ok next, { hub with kioskOperations := hub.kioskOperations.insert operationId next }) := by
  rcases kiosk_stores hub call with ⟨operationId, edit, settles, stores⟩ | ⟨code, message, refused⟩
  · rw [settles]
    rcases settle_cases operationId edit with same | ⟨next, rewritten, admitted, changed⟩
    · exact .inl same
    · exact .inr ⟨operationId, next, stores next rewritten, admitted, changed⟩
  · rw [refused]
    exact .inl rfl

end RustyFleet.KioskSafety

import RustyFleet.Hub.QuestOwners
import RustyFleet.Support.Ledger

namespace RustyFleet.OwnerSafety

section Edits

variable {Action Policy Generation Binding Receipt Evidence : Type}
  (owner : OwnerHub Action Policy Generation Binding Receipt Evidence)

/-- What one call may do to the target it names. -/
inductive TargetStep [ValidateContract Receipt] (operation : owner.Operation) (nowMs : Int) (target : owner.Target) :
    owner.Target → Prop
  | prepared (invocation : OwnerInvocation Action Policy Generation)
      (accepted : target.lifecycle = .accepted)
      (action : invocation.action = operation.preview.action)
      (identity : invocation.identityRevision = target.identityRevision) :
      TargetStep operation nowMs target
        { target with invocation := some invocation, updatedAtMs := nowMs }
  | dispatched (accepted : target.lifecycle = .accepted) :
      TargetStep operation nowMs target { target with lifecycle := .dispatched, updatedAtMs := nowMs }
  | received (receipt : Receipt) (invocation : OwnerInvocation Action Policy Generation)
      (named : (owner.family.receiptHeader receipt).deviceId = target.deviceId)
      (invoked : target.invocation = some invocation) (valid : Valid receipt)
      (bound : owner.receiptMatches invocation receipt)
      (live : target.lifecycle ∈ [.dispatched, .running, .applied]) :
      TargetStep operation nowMs target
        { target with
          lifecycle := if owner.receiptEffective receipt then .applied else .running
          receipt := some receipt
          evidence := owner.evidenceAfterReceipt target.evidence
          failureCode := none
          updatedAtMs := nowMs }
  | failed (code : String) :
      TargetStep operation nowMs target
        { target with lifecycle := .failed, failureCode := some code, updatedAtMs := nowMs }

/-- What one call may do to a stored operation. -/
inductive OperationStep [ValidateContract Receipt] (nowMs : Int) (operation : owner.Operation) : owner.Operation → Prop
  | confirmed (proposed : operation.lifecycle = .proposed) :
      OperationStep nowMs operation (owner.confirmed operation nowMs)
  | written (deviceId : String) (rewrite : owner.Target → owner.Target) (target : owner.Target)
      (lifecycle : CommandLifecycle) (found : operation.targets.find? (·.deviceId == deviceId) = some target)
      (step : TargetStep owner operation nowMs target (rewrite target))
      (rederived : lifecycle = operation.lifecycle ∨
        lifecycle = owner.deriveLifecycle (owner.rewriteTarget operation deviceId nowMs rewrite)) :
      OperationStep nowMs operation
        { owner.rewriteTarget operation deviceId nowMs rewrite with lifecycle := lifecycle }

variable {owner} {hub : FleetHub} {operations : owner.Stored}

theorem operation_ok {operationId : String} {operation : owner.Operation}
    (ok : owner.operation operations operationId = .ok operation) :
    operations[operationId]? = some operation := by
  simpa [OwnerHub.operation] using ok

theorem target_ok {operation : owner.Operation} {deviceId : String} {target : owner.Target}
    (ok : owner.target operation deviceId = .ok target) :
    operation.targets.find? (·.deviceId == deviceId) = some target := by
  simpa [OwnerHub.target] using ok

theorem previewEdit_rewritten [DecidableEq Action] [DecidableEq Policy] [DecidableEq Binding] [ValidateContract Receipt]
    {plan : OwnerPreviewPlan Action Policy Generation} {next : owner.Operation}
    (ok : owner.previewEdit hub operations plan = .ok (.rewritten next)) :
    operations[plan.operationId]? = none ∧ operations.size < owner.maxOperations ∧
      owner.family.operationViolations next = [] ∧
      ∃ preflights, next = owner.proposedOperation plan hub.resultRevision preflights := by
  simp only [OwnerHub.previewEdit, exceptBind_ok, errorIf_ok] at ok
  obtain ⟨_, _, ok⟩ := ok
  cases stored : operations[plan.operationId]? with
  | some existing =>
    simp only [stored, exceptBind_ok, errorIf_ok, exceptPure_ok] at ok
    obtain ⟨_, _, same⟩ := ok
    cases same
  | none =>
    simp only [stored, exceptBind_ok, errorIf_ok, exceptPure_ok, OwnerHub.validateOperation] at ok
    obtain ⟨preflights, _, _, valid, _, room, same⟩ := ok
    cases same
    exact ⟨rfl, by omega, not_not.mp valid, preflights, rfl⟩

theorem confirmEdit_rewritten {operationId previewId : String} {nowMs : Int} {next : owner.Operation}
    (ok : owner.confirmEdit hub operations operationId previewId nowMs = .ok (.rewritten next)) :
    ∃ operation, operations[operationId]? = some operation ∧ operation.lifecycle = .proposed ∧
      next = owner.confirmed operation nowMs := by
  simp only [OwnerHub.confirmEdit, exceptBind_ok, errorIf_ok] at ok
  obtain ⟨operation, stored, _, _, ok⟩ := ok
  by_cases proposed : operation.lifecycle ≠ .proposed
  · rw [if_pos proposed] at ok
    cases ok
  · rw [if_neg proposed] at ok
    simp only [exceptBind_ok, exceptPure_ok] at ok
    obtain ⟨_, _, _, _, same⟩ := ok
    cases same
    exact ⟨operation, operation_ok stored, not_not.mp proposed, rfl⟩

structure BeforeReceipt [ValidateContract Receipt] (operations : owner.Stored) (operationId : String)
    (nowMs : Int) (operation : owner.Operation) (next : owner.Operation) (deviceId : String)
    (rewrite : owner.Target → owner.Target) (target : owner.Target) (lifecycle : CommandLifecycle) :
    Prop where
  stored : operations[operationId]? = some operation
  found : operation.targets.find? (·.deviceId == deviceId) = some target
  accepted : target.lifecycle = .accepted
  step : TargetStep owner operation nowMs target (rewrite target)
  receipt : (rewrite target).receipt = target.receipt
  rederived : lifecycle = operation.lifecycle ∨
    lifecycle = owner.deriveLifecycle (owner.rewriteTarget operation deviceId nowMs rewrite)
  written : next = { owner.rewriteTarget operation deviceId nowMs rewrite with lifecycle := lifecycle }

theorem prepareEdit_rewritten [ValidateContract Receipt] {operationId deviceId requestId : String}
    {expected : Option String} {nowMs : Int} {next : owner.Operation}
    (ok : owner.prepareEdit hub operations operationId deviceId requestId expected nowMs =
      .ok (.rewritten next)) :
    ∃ operation rewrite target lifecycle,
      BeforeReceipt operations operationId nowMs operation next deviceId rewrite target lifecycle := by
  simp only [OwnerHub.prepareEdit, exceptBind_ok, errorIf_ok, exceptPure_ok] at ok
  obtain ⟨operation, stored, _, _, _, _, target, found, _, accepted, generation, _, same⟩ := ok
  cases same
  exact ⟨operation, _, target, operation.lifecycle, operation_ok stored, target_ok found,
    not_not.mp accepted, .prepared _ (not_not.mp accepted) rfl rfl, rfl, .inl rfl, rfl⟩

theorem dispatchedEdit_rewritten [ValidateContract Receipt] {operationId deviceId : String} {nowMs : Int}
    {next : owner.Operation}
    (ok : owner.dispatchedEdit operations operationId deviceId nowMs = .ok (.rewritten next)) :
    ∃ operation rewrite target lifecycle,
      BeforeReceipt operations operationId nowMs operation next deviceId rewrite target lifecycle := by
  simp only [OwnerHub.dispatchedEdit, exceptBind_ok, errorIf_ok, exceptPure_ok] at ok
  obtain ⟨operation, stored, target, found, _, clear, same⟩ := ok
  cases same
  have accepted : target.lifecycle = .accepted := by
    by_contra other
    exact clear (Or.inl other)
  exact ⟨operation, _, target, _, operation_ok stored, target_ok found, accepted, .dispatched accepted, rfl,
    .inr rfl, rfl⟩

theorem receiptEdit_rewritten [DecidableEq Action] [ValidateContract Receipt] {receipt : Receipt} {nowMs : Int} {next : owner.Operation}
    (ok : owner.receiptEdit operations receipt nowMs = .ok (.rewritten next)) :
    ∃ operation target invocation,
      operations[(owner.family.receiptHeader receipt).operationId]? = some operation ∧
      operation.targets.find? (·.deviceId == (owner.family.receiptHeader receipt).deviceId) = some target ∧
      target.invocation = some invocation ∧ Valid receipt ∧ owner.receiptMatches invocation receipt ∧
      target.lifecycle ∈ [.dispatched, .running, .applied] ∧
      next = owner.rederived (owner.rewriteTarget operation (owner.family.receiptHeader receipt).deviceId
        nowMs fun target =>
          { target with
            lifecycle := if owner.receiptEffective receipt then .applied else .running
            receipt := some receipt
            evidence := owner.evidenceAfterReceipt target.evidence
            failureCode := none
            updatedAtMs := nowMs }) := by
  simp only [OwnerHub.receiptEdit, exceptBind_ok, errorIf_ok, orError_ok, exceptPure_ok] at ok
  obtain ⟨_, _, _, valid, _, _, _, _, operation, stored, target, found, invocation, invoked, _, bound, _,
    live, same⟩ := ok
  cases same
  exact ⟨operation, target, invocation, operation_ok stored, target_ok found, invoked, not_not.mp valid,
    not_not.mp bound, not_not.mp live, rfl⟩

theorem failEdit_rewritten {operationId deviceId code : String} {nowMs : Int} {next : owner.Operation}
    (ok : owner.failEdit operations operationId deviceId code nowMs = .ok (.rewritten next)) :
    ∃ operation target, operations[operationId]? = some operation ∧
      operation.targets.find? (·.deviceId == deviceId) = some target ∧
      next = owner.rederived (owner.rewriteTarget operation deviceId nowMs fun target =>
        { target with lifecycle := .failed, failureCode := some code, updatedAtMs := nowMs }) := by
  simp only [OwnerHub.failEdit, exceptBind_ok, errorIf_ok, exceptPure_ok] at ok
  obtain ⟨operation, stored, target, found, _, _, same⟩ := ok
  cases same
  exact ⟨operation, target, operation_ok stored, target_ok found, rfl⟩

theorem TargetStep.keeps [ValidateContract Receipt] {nowMs : Int} {operation : owner.Operation}
    {target next : owner.Target} (step : TargetStep owner operation nowMs target next) :
    next.deviceId = target.deviceId ∧ next.identityRevision = target.identityRevision ∧
      next.preflight = target.preflight := by
  cases step <;> exact ⟨rfl, rfl, rfl⟩

theorem OperationStep.keeps [ValidateContract Receipt] {nowMs : Int} {operation next : owner.Operation}
    (step : OperationStep owner nowMs operation next) :
    next.operationId = operation.operationId ∧ next.preview = operation.preview := by
  cases step <;> exact ⟨rfl, rfl⟩

theorem settle_cases [DecidableEq Action] [DecidableEq Policy] [DecidableEq Binding] [ValidateContract Receipt]
    (operations : owner.Stored) (operationId : String)
    (edit : HubResult (LedgerEdit owner.Operation)) :
    (owner.settle operations operationId edit).2 = operations ∨
      ∃ next, edit = .ok (.rewritten next) ∧
        owner.settle operations operationId edit =
          ((owner.validateOperation next).map fun _ => next, operations.insert operationId next) := by
  match edit with
  | .error fault => exact .inl rfl
  | .ok (.unchanged operation) => exact .inl rfl
  | .ok (.rewritten next) => exact .inr ⟨next, rfl, rfl⟩

end Edits

end RustyFleet.OwnerSafety

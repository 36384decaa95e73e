import RustyFleet.Hub.Calls
import RustyFleet.Safety.OwnerSteps

namespace RustyFleet

/-- The calls the awake and the Wi-Fi ADB ledger share. -/
inductive OwnerCall (Action Policy Generation Receipt : Type)
  | preview (plan : OwnerPreviewPlan Action Policy Generation)
  | confirm (operationId previewId : String) (nowMs : Int)
  | prepare (operationId deviceId requestId : String) (expectedDeviceGeneration : Option String) (nowMs : Int)
  | dispatched (operationId deviceId : String) (nowMs : Int)
  | receipt (receipt : Receipt) (nowMs : Int)
  | fail (operationId deviceId code : String) (nowMs : Int)

def AwakeCall.owner : AwakeCall → OwnerCall QuestAwakeAction QuestAwakePolicy String QuestAwakeOwnerReceipt
  | .preview plan => .preview plan
  | .confirm operationId previewId nowMs => .confirm operationId previewId nowMs
  | .prepare operationId deviceId requestId nowMs => .prepare operationId deviceId requestId none nowMs
  | .prepareWithGeneration operationId deviceId requestId generation nowMs =>
    .prepare operationId deviceId requestId generation nowMs
  | .dispatched operationId deviceId nowMs => .dispatched operationId deviceId nowMs
  | .receipt given nowMs => .receipt given nowMs
  | .fail operationId deviceId code nowMs => .fail operationId deviceId code nowMs

def WifiAdbCall.owner : WifiAdbCall → OwnerCall QuestWifiAdbAction Unit Unit QuestWifiAdbOwnerReceipt
  | .preview plan => .preview plan
  | .confirm operationId previewId nowMs => .confirm operationId previewId nowMs
  | .prepare operationId deviceId requestId nowMs => .prepare operationId deviceId requestId none nowMs
  | .dispatched operationId deviceId nowMs => .dispatched operationId deviceId nowMs
  | .receipt given nowMs => .receipt given nowMs
  | .fail operationId deviceId code nowMs => .fail operationId deviceId code nowMs

namespace OwnerHub

variable {Action Policy Generation Binding Receipt Evidence : Type}
  (owner : OwnerHub Action Policy Generation Binding Receipt Evidence)

def callOperation : OwnerCall Action Policy Generation Receipt → String
  | .preview plan => plan.operationId
  | .confirm operationId _ _ => operationId
  | .prepare operationId _ _ _ _ => operationId
  | .dispatched operationId _ _ => operationId
  | .receipt receipt _ => (owner.family.receiptHeader receipt).operationId
  | .fail operationId _ _ _ => operationId

variable [DecidableEq Action] [DecidableEq Policy] [DecidableEq Binding] [ValidateContract Receipt]
  (hub : FleetHub) (operations : owner.Stored)

def callEdit : OwnerCall Action Policy Generation Receipt → HubResult (LedgerEdit owner.Operation)
  | .preview plan => owner.previewEdit hub operations plan
  | .confirm operationId previewId nowMs => owner.confirmEdit hub operations operationId previewId nowMs
  | .prepare operationId deviceId requestId expected nowMs =>
    owner.prepareEdit hub operations operationId deviceId requestId expected nowMs
  | .dispatched operationId deviceId nowMs => owner.dispatchedEdit operations operationId deviceId nowMs
  | .receipt receipt nowMs => owner.receiptEdit operations receipt nowMs
  | .fail operationId deviceId code nowMs => owner.failEdit operations operationId deviceId code nowMs

def handleCall (call : OwnerCall Action Policy Generation Receipt) :
    HubResult owner.Operation × owner.Stored :=
  owner.settle operations (owner.callOperation call) (owner.callEdit hub operations call)

end OwnerHub

namespace FleetHub

variable (hub : FleetHub)

theorem handleAwake_owner (call : AwakeCall) :
    hub.handleAwake call =
      ((questAwakeHub.handleCall hub hub.awakeOperations call.owner).1,
        { hub with awakeOperations := (questAwakeHub.handleCall hub hub.awakeOperations call.owner).2 }) := by
  cases call <;> rfl

theorem handleWifiAdb_owner [Sha256Hex] (call : WifiAdbCall) :
    hub.handleWifiAdb call =
      ((questWifiAdbHub.handleCall hub hub.wifiAdbOperations call.owner).1,
        { hub with
          wifiAdbOperations := (questWifiAdbHub.handleCall hub hub.wifiAdbOperations call.owner).2 }) := by
  cases call <;> rfl

end FleetHub

namespace OwnerSafety

variable {Action Policy Generation Binding Receipt Evidence : Type}
  {owner : OwnerHub Action Policy Generation Binding Receipt Evidence}

/-- What a confirmation has checked before it edits. -/
structure ConfirmChecks (owner : OwnerHub Action Policy Generation Binding Receipt Evidence) (hub : FleetHub)
    (operations : owner.Stored) (operationId previewId : String) (nowMs : Int)
    (operation : owner.Operation) : Prop where
  stored : operations[operationId]? = some operation
  previewed : operation.preview.previewId = previewId
  proposed : operation.lifecycle = .proposed
  unexpired : nowMs ≤ operation.preview.expiresAtMs
  current : owner.requireTargetsCurrent hub operation nowMs operation.targets = .ok ()

/-- What a preparation has checked before it edits. -/
structure PrepareChecks (owner : OwnerHub Action Policy Generation Binding Receipt Evidence) (hub : FleetHub)
    (operations : owner.Stored) (operationId deviceId : String) (expected : Option String) (nowMs : Int)
    (operation : owner.Operation) (target : owner.Target) (generation : Generation) : Prop where
  stored : operations[operationId]? = some operation
  unexpired : nowMs ≤ operation.preview.expiresAtMs
  current : owner.requireTargetCurrent hub operation deviceId nowMs = .ok ()
  found : operation.targets.find? (·.deviceId == deviceId) = some target
  accepted : target.lifecycle = .accepted
  generated : owner.preparedGeneration operation.preview.action operation.preview.watchdogGeneration expected =
    .ok generation

structure DispatchChecks (owner : OwnerHub Action Policy Generation Binding Receipt Evidence)
    (operations : owner.Stored) (operationId deviceId : String) (operation : owner.Operation)
    (target : owner.Target) : Prop where
  stored : operations[operationId]? = some operation
  found : operation.targets.find? (·.deviceId == deviceId) = some target
  accepted : target.lifecycle = .accepted
  invoked : target.invocation.isSome = true

/-- What a receipt has been checked for before it edits. -/
structure ReceiptChecks [DecidableEq Action] [ValidateContract Receipt]
    (owner : OwnerHub Action Policy Generation Binding Receipt Evidence)
    (operations : owner.Stored) (receipt : Receipt) (nowMs : Int) (operation : owner.Operation)
    (target : owner.Target) (invocation : OwnerInvocation Action Policy Generation) : Prop where
  computed : owner.receiptOverflows receipt = false
  valid : Valid receipt
  clock : nowMs + 30000 ≤ i64Max
  observed : (owner.family.receiptHeader receipt).observedAtMs ≤ nowMs + 30000
  stored : operations[(owner.family.receiptHeader receipt).operationId]? = some operation
  found : operation.targets.find? (·.deviceId == (owner.family.receiptHeader receipt).deviceId) = some target
  invoked : target.invocation = some invocation
  bound : owner.receiptMatches invocation receipt
  live : target.lifecycle ∈ [.dispatched, .running, .applied]

structure FailChecks (owner : OwnerHub Action Policy Generation Binding Receipt Evidence)
    (operations : owner.Stored) (operationId deviceId code : String) (operation : owner.Operation)
    (target : owner.Target) : Prop where
  stored : operations[operationId]? = some operation
  found : operation.targets.find? (·.deviceId == deviceId) = some target
  bounded : ¬ (code.isEmpty ∨ code.utf8ByteSize > 256)

def preparedInvocation (owner : OwnerHub Action Policy Generation Binding Receipt Evidence)
    (operation : owner.Operation) (target : owner.Target) (requestId : String) (generation : Generation)
    (nowMs : Int) : OwnerInvocation Action Policy Generation where
  schema := owner.family.invocationSchema
  requestId := requestId
  operationId := operation.operationId
  previewId := operation.preview.previewId
  deviceId := target.deviceId
  identityRevision := target.identityRevision
  action := operation.preview.action
  policy := operation.preview.policy
  watchdogGeneration := generation
  issuedAtMs := nowMs
  expiresAtMs := owner.invocationExpiry operation.preview.action operation.preview.expiresAtMs

def receivedTarget (owner : OwnerHub Action Policy Generation Binding Receipt Evidence) (receipt : Receipt)
    (nowMs : Int) (target : owner.Target) : owner.Target :=
  { target with
    lifecycle := if owner.receiptEffective receipt then .applied else .running
    receipt := some receipt
    evidence := owner.evidenceAfterReceipt target.evidence
    failureCode := none
    updatedAtMs := nowMs }

section Edits

variable {hub : FleetHub} {operations : owner.Stored}

theorem confirmEdit_iff {operationId previewId : String} {nowMs : Int} {next : owner.Operation} :
    owner.confirmEdit hub operations operationId previewId nowMs = .ok (.rewritten next) ↔
      ∃ operation, ConfirmChecks owner hub operations operationId previewId nowMs operation ∧
        next = owner.confirmed operation nowMs := by
  constructor
  · intro ok
    simp only [OwnerHub.confirmEdit, exceptBind_ok, errorIf_ok] at ok
    obtain ⟨operation, stored, _, previewed, ok⟩ := ok
    by_cases proposed : operation.lifecycle ≠ .proposed
    · rw [if_pos proposed] at ok
      cases ok
    · rw [if_neg proposed] at ok
      simp only [exceptBind_ok, errorIf_ok, exceptPure_ok] at ok
      obtain ⟨_, unexpired, _, current, same⟩ := ok
      cases same
      exact ⟨operation, ⟨operation_ok stored, not_not.mp previewed, not_not.mp proposed, by omega, current⟩,
        rfl⟩
  · rintro ⟨operation, checks, rfl⟩
    simp only [OwnerHub.confirmEdit, exceptBind_ok, errorIf_ok]
    refine ⟨operation, by simp only [OwnerHub.operation, orError_ok]; exact checks.stored, (),
      not_not.mpr checks.previewed, ?_⟩
    rw [if_neg (not_not.mpr checks.proposed)]
    simp only [exceptBind_ok, errorIf_ok, exceptPure_ok]
    have unexpired := checks.unexpired
    exact ⟨(), by omega, (), checks.current, trivial⟩

theorem prepareEdit_iff {operationId deviceId requestId : String} {expected : Option String} {nowMs : Int}
    {next : owner.Operation} :
    owner.prepareEdit hub operations operationId deviceId requestId expected nowMs = .ok (.rewritten next) ↔
      ∃ operation target generation,
        PrepareChecks owner hub operations operationId deviceId expected nowMs operation target generation ∧
        next = owner.rewriteTarget operation deviceId nowMs fun rewritten =>
          { rewritten with
            invocation := some (preparedInvocation owner operation target requestId generation nowMs)
            updatedAtMs := nowMs } := by
  constructor
  · intro ok
    simp only [OwnerHub.prepareEdit, exceptBind_ok, errorIf_ok, exceptPure_ok] at ok
    obtain ⟨operation, stored, _, unexpired, _, current, target, found, _, accepted, generation, generated,
      same⟩ := ok
    cases same
    exact ⟨operation, target, generation, ⟨operation_ok stored, by omega, current, target_ok found,
      not_not.mp accepted, generated⟩, rfl⟩
  · rintro ⟨operation, target, generation, checks, rfl⟩
    have unexpired := checks.unexpired
    simp only [OwnerHub.prepareEdit, exceptBind_ok, errorIf_ok, exceptPure_ok]
    exact ⟨operation, by simp only [OwnerHub.operation, orError_ok]; exact checks.stored, (), by omega, (),
      checks.current, target, by simp only [OwnerHub.target, orError_ok]; exact checks.found, (),
      not_not.mpr checks.accepted, generation, checks.generated, rfl⟩

theorem dispatchedEdit_iff {operationId deviceId : String} {nowMs : Int} {next : owner.Operation} :
    owner.dispatchedEdit operations operationId deviceId nowMs = .ok (.rewritten next) ↔
      ∃ operation target, DispatchChecks owner operations operationId deviceId operation target ∧
        next = owner.rederived (owner.rewriteTarget operation deviceId nowMs fun rewritten =>
          { rewritten with lifecycle := .dispatched, updatedAtMs := nowMs }) := by
  constructor
  · intro ok
    simp only [OwnerHub.dispatchedEdit, exceptBind_ok, errorIf_ok, exceptPure_ok, not_or, not_not] at ok
    obtain ⟨operation, stored, target, found, _, ⟨accepted, invoked⟩, same⟩ := ok
    cases same
    refine ⟨operation, target, ⟨operation_ok stored, target_ok found, accepted, ?_⟩, rfl⟩
    simpa [Option.isSome_iff_ne_none] using invoked
  · rintro ⟨operation, target, checks, rfl⟩
    have invoked := Option.isSome_iff_ne_none.mp checks.invoked
    simp only [OwnerHub.dispatchedEdit, exceptBind_ok, errorIf_ok, exceptPure_ok, not_or, not_not]
    exact ⟨operation, by simp only [OwnerHub.operation, orError_ok]; exact checks.stored, target,
      by simp only [OwnerHub.target, orError_ok]; exact checks.found, (), ⟨checks.accepted, by simpa using invoked⟩, rfl⟩

theorem receiptEdit_iff [DecidableEq Action] [ValidateContract Receipt] {receipt : Receipt} {nowMs : Int}
    {next : owner.Operation} :
    owner.receiptEdit operations receipt nowMs = .ok (.rewritten next) ↔
      ∃ operation target invocation, ReceiptChecks owner operations receipt nowMs operation target invocation ∧
        next = owner.rederived (owner.rewriteTarget operation (owner.family.receiptHeader receipt).deviceId
          nowMs (receivedTarget owner receipt nowMs)) := by
  constructor
  · intro ok
    simp only [OwnerHub.receiptEdit, exceptBind_ok, errorIf_ok, orError_ok, exceptPure_ok] at ok
    obtain ⟨_, computed, _, valid, _, clock, _, observed, operation, stored, target, found, invocation, invoked,
      _, bound, _, live, same⟩ := ok
    cases same
    exact ⟨operation, target, invocation, ⟨by simpa using computed, not_not.mp valid, by omega, by omega,
      operation_ok stored, target_ok found, invoked, not_not.mp bound, not_not.mp live⟩, rfl⟩
  · rintro ⟨operation, target, invocation, checks, rfl⟩
    have clock := checks.clock
    have observed := checks.observed
    simp only [OwnerHub.receiptEdit, exceptBind_ok, errorIf_ok, orError_ok, exceptPure_ok]
    exact ⟨(), by simpa using checks.computed, (), not_not.mpr checks.valid, (), by omega, (), by omega,
      operation, by simp only [OwnerHub.operation, orError_ok]; exact checks.stored, target,
      by simp only [OwnerHub.target, orError_ok]; exact checks.found, invocation, checks.invoked, (),
      not_not.mpr checks.bound, (), not_not.mpr checks.live, rfl⟩

theorem failEdit_iff {operationId deviceId code : String} {nowMs : Int} {next : owner.Operation} :
    owner.failEdit operations operationId deviceId code nowMs = .ok (.rewritten next) ↔
      ∃ operation target, FailChecks owner operations operationId deviceId code operation target ∧
        next = owner.rederived (owner.rewriteTarget operation deviceId nowMs fun rewritten =>
          { rewritten with lifecycle := .failed, failureCode := some code, updatedAtMs := nowMs }) := by
  constructor
  · intro ok
    simp only [OwnerHub.failEdit, exceptBind_ok, errorIf_ok, exceptPure_ok] at ok
    obtain ⟨operation, stored, target, found, _, bounded, same⟩ := ok
    cases same
    exact ⟨operation, target, ⟨operation_ok stored, target_ok found, bounded⟩, rfl⟩
  · rintro ⟨operation, target, checks, rfl⟩
    simp only [OwnerHub.failEdit, exceptBind_ok, errorIf_ok, exceptPure_ok]
    exact ⟨operation, by simp only [OwnerHub.operation, orError_ok]; exact checks.stored, target,
      by simp only [OwnerHub.target, orError_ok]; exact checks.found, (), checks.bounded, rfl⟩

end Edits

end OwnerSafety

end RustyFleet

import RustyFleet.Hub.Frames
import RustyFleet.Safety.OwnerValidity
import RustyFleet.Safety.PackageAtomicity

namespace RustyFleet.OwnerSafety

section Calls

variable {Action Policy Generation Binding Receipt Evidence : Type}
  [DecidableEq Action] [DecidableEq Policy] [DecidableEq Binding] [ValidateContract Receipt]
  {owner : OwnerHub Action Policy Generation Binding Receipt Evidence} {hub : FleetHub}
  {operations : owner.Stored}

def KeepsOwnerContract (owner : OwnerHub Action Policy Generation Binding Receipt Evidence) (hub : FleetHub)
    (operations : owner.Stored) : OwnerCall Action Policy Generation Receipt → Prop
  | .preview _ => True
  | .confirm operationId previewId nowMs => ∀ operation,
    ConfirmChecks owner hub operations operationId previewId nowMs operation →
      operation.preview.createdAtMs ≤ nowMs
  | .prepare operationId deviceId requestId expected nowMs => ∀ operation target generation,
    PrepareChecks owner hub operations operationId deviceId expected nowMs operation target generation →
      InvocationFits owner operation requestId generation nowMs
  | .dispatched operationId deviceId nowMs => ∀ operation target,
    DispatchChecks owner operations operationId deviceId operation target →
      operation.preview.createdAtMs ≤ nowMs
  | .receipt receipt nowMs => ∀ operation target invocation,
    ReceiptChecks owner operations receipt nowMs operation target invocation →
      operation.preview.createdAtMs ≤ nowMs
  | .fail operationId deviceId code nowMs => ∀ operation target,
    FailChecks owner operations operationId deviceId code operation target →
      operation.preview.createdAtMs ≤ nowMs

structure ValidLedger (owner : OwnerHub Action Policy Generation Binding Receipt Evidence)
    (operations : owner.Stored) : Prop where
  sound : LedgerSound owner operations
  valid : ∀ (operationId : String) operation, operations[operationId]? = some operation →
    OperationValid owner operation

/-- An error leaves the family's ledger as it was. -/
def AtomicOnError (owner : OwnerHub Action Policy Generation Binding Receipt Evidence) (hub : FleetHub)
    (operations : owner.Stored) (call : OwnerCall Action Policy Generation Receipt) : Prop :=
  returnsErr (owner.handleCall hub operations call).1 = true →
    (owner.handleCall hub operations call).2 = operations

theorem settle_atomic_iff (valid : ∀ (operationId : String) operation,
      operations[operationId]? = some operation → OperationValid owner operation)
    (operationId : String) (edit : HubResult (LedgerEdit owner.Operation)) :
    (returnsErr (owner.settle operations operationId edit).1 = true →
        (owner.settle operations operationId edit).2 = operations) ↔
      ∀ next, edit = .ok (.rewritten next) → OperationValid owner next := by
  constructor
  · rintro atomic next rfl
    by_contra invalid
    have refused : owner.family.operationViolations next ≠ [] :=
      fun clear => invalid ((operationViolations_nil_iff next).mp clear)
    have reported : returnsErr (owner.settle operations operationId (.ok (.rewritten next))).1 = true := by
      simp only [OwnerHub.settle, OwnerHub.validateOperation, rejectIf, errorIf, if_pos refused]
      rfl
    have same := atomic reported
    have stored : (owner.settle operations operationId (.ok (.rewritten next))).2[operationId]? = some next :=
      BTreeMap.lookup_insert_self _ _ _
    rw [same] at stored
    exact invalid (valid operationId next stored)
  · intro accepted reported
    rcases edit with fault | operation | next
    · rfl
    · rfl
    · have admitted := (validateOperation_ok_iff next).mpr (accepted next rfl)
      simp only [OwnerHub.settle, admitted] at reported
      cases reported

section Edits

variable {operation : owner.Operation} {target : owner.Target} {operationId deviceId : String} {nowMs : Int}

omit [DecidableEq Action] [DecidableEq Policy] in
theorem prepared_operation_valid_iff (laws : OwnerLaws owner) (ledger : ValidLedger owner operations)
    {expected : Option String} {generation : Generation} (requestId : String)
    (checks : PrepareChecks owner hub operations operationId deviceId expected nowMs operation target generation) :
    OperationValid owner (owner.rewriteTarget operation deviceId nowMs fun rewritten =>
        { rewritten with
          invocation := some (preparedInvocation owner operation target requestId generation nowMs)
          updatedAtMs := nowMs }) ↔ InvocationFits owner operation requestId generation nowMs := by
  have valid := ledger.valid _ _ checks.stored
  have member := List.mem_of_find?_eq_some checks.found
  have own := (ledger.sound _ _ checks.stored).targets target member
  have fits := prepared_valid_iff laws valid member own checks.accepted checks.generated requestId nowMs
  refine (rewritten_valid_iff valid operation.lifecycle checks.found).trans ⟨fun both => fits.mp both.2, ?_⟩
  exact fun fit => ⟨fit.dated, fits.mpr fit⟩

omit [DecidableEq Action] [DecidableEq Policy] in
theorem dispatched_operation_valid_iff (ledger : ValidLedger owner operations)
    (checks : DispatchChecks owner operations operationId deviceId operation target) :
    OperationValid owner (owner.rederived (owner.rewriteTarget operation deviceId nowMs fun rewritten =>
        { rewritten with lifecycle := .dispatched, updatedAtMs := nowMs })) ↔
      operation.preview.createdAtMs ≤ nowMs := by
  have valid := ledger.valid _ _ checks.stored
  have own := valid.targets target (List.mem_of_find?_eq_some checks.found)
  refine (rewritten_valid_iff valid _ checks.found).trans ⟨fun both => both.1, fun dated => ⟨dated, ?_⟩⟩
  refine ⟨own.frozen, dated, own.invocation, own.receipt, ?_, own.evidence⟩
  intro applied
  cases applied

omit [DecidableEq Policy] in
theorem received_operation_valid_iff (laws : OwnerLaws owner) (ledger : ValidLedger owner operations)
    {receipt : Receipt} {invocation : OwnerInvocation Action Policy Generation}
    (checks : ReceiptChecks owner operations receipt nowMs operation target invocation) :
    OperationValid owner (owner.rederived (owner.rewriteTarget operation
        (owner.family.receiptHeader receipt).deviceId nowMs (receivedTarget owner receipt nowMs))) ↔
      operation.preview.createdAtMs ≤ nowMs := by
  have valid := ledger.valid _ _ checks.stored
  have member := List.mem_of_find?_eq_some checks.found
  have kept := ledger.sound _ _ checks.stored
  have own := valid.targets target member
  refine (rewritten_valid_iff valid _ checks.found).trans ⟨fun both => both.1, fun dated => ⟨dated, ?_⟩⟩
  exact received_valid laws own (kept.targets target member) kept.named checks rfl dated

omit [DecidableEq Action] [DecidableEq Policy] in
theorem failed_operation_valid_iff (ledger : ValidLedger owner operations) {code : String}
    (checks : FailChecks owner operations operationId deviceId code operation target) :
    OperationValid owner (owner.rederived (owner.rewriteTarget operation deviceId nowMs fun rewritten =>
        { rewritten with lifecycle := .failed, failureCode := some code, updatedAtMs := nowMs })) ↔
      operation.preview.createdAtMs ≤ nowMs := by
  have valid := ledger.valid _ _ checks.stored
  have own := valid.targets target (List.mem_of_find?_eq_some checks.found)
  refine (rewritten_valid_iff valid _ checks.found).trans ⟨fun both => both.1, fun dated => ⟨dated, ?_⟩⟩
  refine ⟨own.frozen, dated, own.invocation, own.receipt, ?_, own.evidence⟩
  intro applied
  cases applied

end Edits

theorem callEdit_valid_iff (laws : OwnerLaws owner) (keyed : DirectoryKeyed hub)
    (ledger : ValidLedger owner operations) (call : OwnerCall Action Policy Generation Receipt) :
    (∀ next, owner.callEdit hub operations call = .ok (.rewritten next) → OperationValid owner next) ↔
      KeepsOwnerContract owner hub operations call := by
  cases call with
  | preview plan =>
    refine ⟨fun _ => trivial, fun _ next ok => ?_⟩
    exact (operationViolations_nil_iff next).mp (previewEdit_sound keyed ok).2
  | confirm operationId previewId nowMs =>
    constructor
    · intro accepted operation checks
      have admitted := accepted _ (confirmEdit_iff.mpr ⟨operation, checks, rfl⟩)
      exact (confirmed_valid_iff (ledger.valid _ _ checks.stored)).mp admitted
    · intro kept next ok
      obtain ⟨operation, checks, rfl⟩ := confirmEdit_iff.mp ok
      exact (confirmed_valid_iff (ledger.valid _ _ checks.stored)).mpr (kept operation checks)
  | prepare operationId deviceId requestId expected nowMs =>
    constructor
    · intro accepted operation target generation checks
      have admitted := accepted _ (prepareEdit_iff.mpr ⟨operation, target, generation, checks, rfl⟩)
      exact (prepared_operation_valid_iff laws ledger requestId checks).mp admitted
    · intro kept next ok
      obtain ⟨operation, target, generation, checks, rfl⟩ := prepareEdit_iff.mp ok
      exact (prepared_operation_valid_iff laws ledger requestId checks).mpr
        (kept operation target generation checks)
  | dispatched operationId deviceId nowMs =>
    constructor
    · intro accepted operation target checks
      have admitted := accepted _ (dispatchedEdit_iff.mpr ⟨operation, target, checks, rfl⟩)
      exact (dispatched_operation_valid_iff ledger checks).mp admitted
    · intro kept next ok
      obtain ⟨operation, target, checks, rfl⟩ := dispatchedEdit_iff.mp ok
      exact (dispatched_operation_valid_iff ledger checks).mpr (kept operation target checks)
  | receipt receipt nowMs =>
    constructor
    · intro accepted operation target invocation checks
      have admitted := accepted _ (receiptEdit_iff.mpr ⟨operation, target, invocation, checks, rfl⟩)
      exact (received_operation_valid_iff laws ledger checks).mp admitted
    · intro kept next ok
      obtain ⟨operation, target, invocation, checks, rfl⟩ := receiptEdit_iff.mp ok
      exact (received_operation_valid_iff laws ledger checks).mpr (kept operation target invocation checks)
  | fail operationId deviceId code nowMs =>
    constructor
    · intro accepted operation target checks
      have admitted := accepted _ (failEdit_iff.mpr ⟨operation, target, checks, rfl⟩)
      exact (failed_operation_valid_iff ledger checks).mp admitted
    · intro kept next ok
      obtain ⟨operation, target, checks, rfl⟩ := failEdit_iff.mp ok
      exact (failed_operation_valid_iff ledger checks).mpr (kept operation target checks)

theorem handleCall_atomic_iff (laws : OwnerLaws owner) (keyed : DirectoryKeyed hub)
    (ledger : ValidLedger owner operations) (call : OwnerCall Action Policy Generation Receipt) :
    AtomicOnError owner hub operations call ↔ KeepsOwnerContract owner hub operations call :=
  (settle_atomic_iff ledger.valid _ _).trans (callEdit_valid_iff laws keyed ledger call)

theorem handleCall_valid (laws : OwnerLaws owner) (keyed : DirectoryKeyed hub)
    (ledger : ValidLedger owner operations) (call : OwnerCall Action Policy Generation Receipt)
    (kept : KeepsOwnerContract owner hub operations call) :
    ValidLedger owner (owner.handleCall hub operations call).2 := by
  refine ⟨handleCall_sound laws keyed ledger.sound call, ?_⟩
  rcases settle_cases operations (owner.callOperation call) (owner.callEdit hub operations call) with
    same | ⟨next, edit, settled⟩
  · rw [OwnerHub.handleCall, same]
    exact ledger.valid
  · rw [OwnerHub.handleCall, settled]
    exact BTreeMap.insert_forall _ _ next (fun _ operation => OperationValid owner operation) ledger.valid
      ((callEdit_valid_iff laws keyed ledger call).mpr kept next edit)

omit [DecidableEq Action] [DecidableEq Policy] in
theorem validLedger_empty : ValidLedger owner ∅ := by
  constructor
  · intro operationId operation stored
    simp at stored
  · intro operationId operation stored
    simp at stored

end Calls

section Runs

variable [HubEnvironment] {hub : FleetHub}

/-- Awake and Wi-Fi ADB calls keep their family's contract; the others need not. -/
def KeepsOwnerContractCall (hub : FleetHub) : HubCall → Prop
  | .awake call => KeepsOwnerContract questAwakeHub hub hub.awakeOperations call.owner
  | .wifiAdb call => KeepsOwnerContract questWifiAdbHub hub hub.wifiAdbOperations call.owner
  | _ => True

structure ValidOwners (hub : FleetHub) : Prop where
  keyed : DirectoryKeyed hub
  awake : ValidLedger questAwakeHub hub.awakeOperations
  wifiAdb : ValidLedger questWifiAdbHub hub.wifiAdbOperations

theorem validOwners_new (policy : AssertedPolicy) : ValidOwners (.new policy) where
  keyed := directoryKeyed_new policy
  awake := validLedger_empty
  wifiAdb := validLedger_empty

theorem call_keeps_owners (sound : ValidOwners hub) (call : HubCall) (kept : KeepsOwnerContractCall hub call) :
    ValidOwners (hub.handle call).1 := by
  have others := hub.handle_leaves_others call
  refine ⟨call_keyed sound.keyed call, ?_, ?_⟩
  · by_cases own : ∃ awakeCall, call = .awake awakeCall
    · obtain ⟨awakeCall, rfl⟩ := own
      rw [FleetHub.handle_awake, FleetHub.handleAwake_owner]
      exact handleCall_valid awake_laws sound.keyed sound.awake awakeCall.owner kept
    · rw [others.awake fun awakeCall same => own ⟨awakeCall, same⟩]
      exact sound.awake
  · by_cases own : ∃ wifiCall, call = .wifiAdb wifiCall
    · obtain ⟨wifiCall, rfl⟩ := own
      rw [FleetHub.handle_wifiAdb, FleetHub.handleWifiAdb_owner]
      exact handleCall_valid wifiAdb_laws sound.keyed sound.wifiAdb wifiCall.owner kept
    · rw [others.wifiAdb fun wifiCall same => own ⟨wifiCall, same⟩]
      exact sound.wifiAdb

/-- An awake or Wi-Fi ADB call that returns an error leaves the Hub as it was. -/
def OwnerErrorAtomic (hub : FleetHub) : HubCall → Prop
  | .awake call => returnsErr (hub.handleAwake call).1 = true → (hub.handleAwake call).2 = hub
  | .wifiAdb call => returnsErr (hub.handleWifiAdb call).1 = true → (hub.handleWifiAdb call).2 = hub
  | _ => True

theorem ownerError_atomic_iff (sound : ValidOwners hub) (call : HubCall) :
    OwnerErrorAtomic hub call ↔ KeepsOwnerContractCall hub call := by
  cases call with
  | awake call =>
    refine Iff.trans ?_ (handleCall_atomic_iff awake_laws sound.keyed sound.awake call.owner)
    simp only [OwnerErrorAtomic, FleetHub.handleAwake_owner]
    refine imp_congr_right fun _ => ⟨fun same => congrArg FleetHub.awakeOperations same, fun same => ?_⟩
    rw [same]
  | wifiAdb call =>
    refine Iff.trans ?_ (handleCall_atomic_iff wifiAdb_laws sound.keyed sound.wifiAdb call.owner)
    simp only [OwnerErrorAtomic, FleetHub.handleWifiAdb_owner]
    refine imp_congr_right fun _ => ⟨fun same => congrArg FleetHub.wifiAdbOperations same, fun same => ?_⟩
    rw [same]
  | _ => exact Iff.rfl

omit [HubEnvironment] in
theorem ValidLedger.accepted {Action Policy Generation Binding Receipt Evidence : Type} [DecidableEq Action]
    [DecidableEq Policy] [DecidableEq Binding] [ValidateContract Receipt]
    {owner : OwnerHub Action Policy Generation Binding Receipt Evidence} {operations : owner.Stored}
    (ledger : ValidLedger owner operations) {operationId : String} {operation : owner.Operation}
    (stored : operations[operationId]? = some operation) : owner.family.operationViolations operation = [] :=
  (operationViolations_nil_iff operation).mpr (ledger.valid operationId operation stored)

/-- In a run whose awake and Wi-Fi ADB calls keep the contract their errors are atomic and what is stored is
valid, and at its end only such calls keep it so. -/
theorem owner_errors_atomic (policy : AssertedPolicy) (calls : List HubCall)
    (kept : fleetHubMachine.Admits KeepsOwnerContractCall (.new policy) calls) :
    (∀ hub call answer, (hub, call, answer) ∈ fleetHubMachine.trace (.new policy) calls →
        OwnerErrorAtomic hub call) ∧
      let hub := fleetHubMachine.run (.new policy) calls
      (∀ (operationId : String) operation, hub.awakeOperations[operationId]? = some operation →
          Valid operation) ∧
        (∀ (operationId : String) operation, hub.wifiAdbOperations[operationId]? = some operation →
          Valid operation) ∧
        ∀ call, OwnerErrorAtomic hub call ↔ KeepsOwnerContractCall hub call := by
  have reachable : ∀ hub, fleetHubMachine.Reachable KeepsOwnerContractCall (.new policy) hub →
      ValidOwners hub := fun hub reached =>
    Machine.Reachable.invariant fleetHubMachine (fun hub => ValidOwners hub)
      (fun hub call permitted sound => call_keeps_owners sound call permitted) (validOwners_new policy) reached
  have ending := reachable _ ⟨calls, kept, rfl⟩
  refine ⟨?_, ?_, ?_, ?_⟩
  · intro hub call answer member
    obtain ⟨reached, permitted, _⟩ := fleetHubMachine.mem_trace _ _ hub call answer calls kept member
    exact (ownerError_atomic_iff (reachable hub reached) call).mpr permitted
  · exact fun operationId operation stored => ending.awake.accepted stored
  · exact fun operationId operation stored => ending.wifiAdb.accepted stored
  · exact fun call => ownerError_atomic_iff ending call

end Runs

section Samples

open PackageSafety

def awakePlan (operationId : String) (action : QuestAwakeAction) : QuestAwakePreviewPlan where
  operationId := operationId
  previewId := "preview-1"
  watchdogGeneration := "generation-1"
  request :=
    { schema := "rusty.fleet.quest_awake_preview_request.v1"
      actionId := "quest.awake-control"
      action := action
      policy := { durationMs := 60000, watchdogIntervalMs := 1000 }
      targets := .ofList [("d1", 1)] compare }
  createdAtMs := 1001
  expiresAtMs := 61000
  providerReadyDevices := .ofList ["d1"] compare

def awakePreviewed : List HubCall :=
  [.observe (readyObservation "d1") 1000, .awake (.preview (awakePlan "op-1" .applyBounded))]

def awakeConfirm (nowMs : Int) : HubCall := .awake (.confirm "op-1" "preview-1" nowMs)

def sampleHubMachine : Machine FleetHub HubCall HubAnswer := @fleetHubMachine sampleEnvironment

theorem confirmed_run_atomic :
    (sampleHubMachine.run (.new samplePolicy) (awakePreviewed ++ [awakeConfirm 1002])).awakeOperations.size = 1 ∧
      (∀ hub call answer,
        (hub, call, answer) ∈ sampleHubMachine.trace (.new samplePolicy) (awakePreviewed ++ [awakeConfirm 1002]) →
          @OwnerErrorAtomic sampleEnvironment hub call) := by
  have created : ∀ operation ∈ BTreeMap.storedValues
      (sampleHubMachine.run (.new samplePolicy) awakePreviewed).awakeOperations,
      operation.preview.createdAtMs ≤ 1002 := by
    decide
  have confirm : @KeepsOwnerContractCall sampleEnvironment
      (sampleHubMachine.run (.new samplePolicy) awakePreviewed) (awakeConfirm 1002) := by
    intro operation checks
    exact created operation ((BTreeMap.mem_storedValues_iff _ _).mpr ⟨_, checks.stored⟩)
  have kept : sampleHubMachine.Admits (@KeepsOwnerContractCall sampleEnvironment) (.new samplePolicy)
      (awakePreviewed ++ [awakeConfirm 1002]) := by
    apply (sampleHubMachine.admits_append _ _ _ _).mpr
    exact ⟨⟨trivial, trivial, trivial⟩, confirm, trivial⟩
  exact ⟨by decide, (@owner_errors_atomic sampleEnvironment samplePolicy _ kept).1⟩

/-- A confirmation dated before the preview is refused, but stays in the ledger. -/
theorem early_confirm_half_applied :
    ∃ (_ : HubEnvironment) (policy : AssertedPolicy) (calls : List HubCall) (call : HubCall),
      ¬ OwnerErrorAtomic (fleetHubMachine.run (.new policy) calls) call := by
  refine ⟨sampleEnvironment, samplePolicy, awakePreviewed, awakeConfirm 1000, ?_⟩
  intro atomic
  have reported : returnsErr ((sampleHubMachine.run (.new samplePolicy) awakePreviewed).handleAwake
      (.confirm "op-1" "preview-1" 1000)).1 = true ∧
      (((sampleHubMachine.run (.new samplePolicy) awakePreviewed).handleAwake
        (.confirm "op-1" "preview-1" 1000)).2.awakeOperations["op-1"]?.map (·.updatedAtMs)) ≠
        (sampleHubMachine.run (.new samplePolicy) awakePreviewed).awakeOperations["op-1"]?.map (·.updatedAtMs) := by
    decide
  have same : ((sampleHubMachine.run (.new samplePolicy) awakePreviewed).handleAwake
      (.confirm "op-1" "preview-1" 1000)).2 = sampleHubMachine.run (.new samplePolicy) awakePreviewed :=
    atomic reported.1
  exact reported.2 (congrArg (fun hub => hub.awakeOperations["op-1"]?.map (·.updatedAtMs)) same)

end Samples

end RustyFleet.OwnerSafety

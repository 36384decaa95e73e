import RustyFleet.Adapter.Authorization
import RustyFleet.Safety.OwnerCalls

namespace RustyFleet

open ManifoldEnvironment

/-- The first half of a digest as it stands in the Hub's own identifiers. -/
def shortDigest [ManifoldEnvironment] (bytes : Bytes) : String :=
  String.ofList ((sha256Hex bytes).toList.take 32)

def wifiAdbOwnerActionRequestId [ManifoldEnvironment] (operationId deviceId : String) : String :=
  "fleetwifi-" ++ shortDigest
    (separatedBytes "rusty.fleet.quest-wifi-adb.owner-action.v1" [operationId, deviceId])

section Ledgers

variable {Action Policy Generation Binding Receipt Evidence : Type}

/-- Where the Hub keeps the operations of one family. -/
structure OwnerLedger (owner : OwnerHub Action Policy Generation Binding Receipt Evidence) where
  operations : FleetHub → owner.Stored
  withOperations : FleetHub → owner.Stored → FleetHub

def wifiAdbLedger [Sha256Hex] : OwnerLedger questWifiAdbHub where
  operations := (·.wifiAdbOperations)
  withOperations hub operations := { hub with wifiAdbOperations := operations }

/-- The confirmed targets that no pass has taken up yet. -/
def OwnerOperation.pendingTargets
    (operation : OwnerOperation Action Policy Generation Binding Receipt Evidence) : List (String × Nat) :=
  (operation.targets.filter fun target => target.lifecycle = .accepted).map fun target =>
    (target.deviceId, target.identityRevision)

variable [DecidableEq Action] [DecidableEq Policy] [DecidableEq Binding] [ValidateContract Receipt]
  {owner : OwnerHub Action Policy Generation Binding Receipt Evidence}

def OwnerLedger.handle (ledger : OwnerLedger owner) (hub : FleetHub)
    (call : OwnerCall Action Policy Generation Receipt) : HubResult owner.Operation × FleetHub :=
  let (result, operations) := owner.handleCall hub (ledger.operations hub) call
  (result, ledger.withOperations hub operations)

/-- What one scheduling pass fixes before it walks an operation's pending targets. -/
structure DispatchPlan (owner : OwnerHub Action Policy Generation Binding Receipt Evidence) where
  ledger : OwnerLedger owner
  operationId : String
  nowMs : Nat
  configured : String → Bool
  conflicts : String → Bool
  conflictCode : String
  requestId : String → String
  expectedGeneration : String → Option String
  authorize : FleetManifoldAdapter → (deviceId : String) → (identityRevision : Nat) →
    Except String CommandAuthorityReceipt × FleetManifoldAdapter

/-- The candidates a pass has built so far and the invocations it will hand to workers. -/
structure DispatchState (owner : OwnerHub Action Policy Generation Binding Receipt Evidence) where
  hub : FleetHub
  adapter : FleetManifoldAdapter
  work : List (OwnerInvocation Action Policy Generation)

namespace DispatchPlan

variable (plan : DispatchPlan owner)

def failCall (deviceId code : String) : OwnerCall Action Policy Generation Receipt :=
  .fail plan.operationId deviceId code plan.nowMs

def prepareCall (deviceId : String) : OwnerCall Action Policy Generation Receipt :=
  .prepare plan.operationId deviceId (plan.requestId deviceId) (plan.expectedGeneration deviceId) plan.nowMs

def dispatchedCall (deviceId : String) : OwnerCall Action Policy Generation Receipt :=
  .dispatched plan.operationId deviceId plan.nowMs

/-- A refused target is failed on the candidate; what that call answers is not looked at. -/
def fail (state : DispatchState owner) (deviceId code : String) : DispatchState owner :=
  { state with hub := (plan.ledger.handle state.hub (plan.failCall deviceId code)).2 }

/-- An authorized target is prepared and marked dispatched; an error of either leaves it to no worker. -/
def launch (state : DispatchState owner) (deviceId : String) : DispatchState owner :=
  match plan.ledger.handle state.hub (plan.prepareCall deviceId) with
  | (.error _, hub) => { state with hub := hub }
  | (.ok updated, hub) =>
    match (updated.targets.find? (·.deviceId == deviceId)).bind (·.invocation) with
    | none => { state with hub := hub }
    | some invocation =>
      match plan.ledger.handle hub (plan.dispatchedCall deviceId) with
      | (.error _, hub) => { state with hub := hub }
      | (.ok _, hub) => { state with hub := hub, work := state.work ++ [invocation] }

/-- One turn of the loop over the pending targets. -/
def dispatch (state : DispatchState owner) (target : String × Nat) : DispatchState owner :=
  let (deviceId, identityRevision) := target
  if plan.configured deviceId = false then plan.fail state deviceId "provider_target_unconfigured"
  else if plan.conflicts deviceId then plan.fail state deviceId plan.conflictCode
  else
    match plan.authorize state.adapter deviceId identityRevision with
    | (.error _, adapter) => plan.fail { state with adapter := adapter } deviceId "manifold_command_rejected"
    | (.ok _, adapter) => plan.launch { state with adapter := adapter } deviceId

/-- The loop that stops once it has found work for every free slot. -/
def dispatchWhileSlots (slots : Nat) (state : DispatchState owner) : List (String × Nat) → DispatchState owner
  | [] => state
  | target :: rest =>
    if state.work.length ≥ slots then state
    else dispatchWhileSlots slots (plan.dispatch state target) rest

end DispatchPlan

end Ledgers

end RustyFleet

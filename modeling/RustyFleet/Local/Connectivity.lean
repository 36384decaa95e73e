import RustyFleet.Local.Dispatch

namespace RustyFleet

def maxConcurrentConnectivityProviderCalls : Nat := 8

abbrev QuestWifiAdbOwnerInvocation := OwnerInvocation QuestWifiAdbAction Unit Unit

/-- The Hub, its adapter and the Wi-Fi ADB workers that are running for them. -/
structure ConnectivityRuntime where
  hub : FleetHub
  adapter : FleetManifoldAdapter
  questConnectivityProvider : Option (List String)
  inflightConnectivityTargets : List (String × String)
  workers : List QuestWifiAdbOwnerInvocation

inductive ConnectivityOwnerWorkFailure
  | invocationExpired
  | providerInvocation

def connectivityDispatchSlots (inflight : Nat) : Nat := maxConcurrentConnectivityProviderCalls - inflight

def connectivityInvocationExpired (invocation : QuestWifiAdbOwnerInvocation) (nowMs : Nat) : Bool :=
  invocation.expiresAtMs ≤ nowMs

def workKey (invocation : QuestWifiAdbOwnerInvocation) : String × String :=
  (invocation.operationId, invocation.deviceId)

def insertAll (keys inflight : List (String × String)) : List (String × String) :=
  keys.foldl (fun set key => set.insert key) inflight

def deviceInFlight (inflight : List (String × String)) (deviceId : String) : Bool :=
  inflight.any fun entry => entry.2 == deviceId

section Scheduling

variable [AuthorityEnvironment]

def connectivityPlan (operation : QuestWifiAdbOperation) (configuredTargets : List String)
    (inflightTargets : List (String × String)) (nowMs : Nat) : DispatchPlan questWifiAdbHub where
  ledger := wifiAdbLedger
  operationId := operation.operationId
  nowMs := nowMs
  configured := fun deviceId => configuredTargets.contains deviceId
  conflicts := deviceInFlight inflightTargets
  conflictCode := "connectivity_control_conflict"
  requestId := wifiAdbOwnerActionRequestId operation.operationId
  expectedGeneration := fun _ => none
  authorize := fun adapter deviceId identityRevision =>
    adapter.authorizeQuestWifiAdb
      { manifoldRequestId :=
          questWifiAdbManifoldRequestId operation.operationId deviceId
            (wifiAdbOwnerActionRequestId operation.operationId deviceId)
        ownerActionRequestId := wifiAdbOwnerActionRequestId operation.operationId deviceId
        requesterId := "operator.fleet.local"
        operationId := operation.operationId
        previewId := operation.preview.previewId
        deviceId := deviceId
        identityRevision := identityRevision
        action := operation.preview.action
        issuedAtMs := nowMs
        expiresAtMs := operation.preview.expiresAtMs.toNat } nowMs

def preparePendingConnectivityBatch (hub : FleetHub) (adapter : FleetManifoldAdapter)
    (operation : QuestWifiAdbOperation) (configuredTargets : List String)
    (inflightTargets : List (String × String)) (nowMs : Nat) : DispatchState questWifiAdbHub :=
  (connectivityPlan operation configuredTargets inflightTargets nowMs).dispatchWhileSlots
    (connectivityDispatchSlots inflightTargets.length) ⟨hub, adapter, []⟩ operation.pendingTargets

/-- A pass after the expiry fails whatever is still pending. -/
def failPendingConnectivity (hub : FleetHub) (operationId : String) (nowMs : Nat)
    (pending : List (String × Nat)) : FleetHub :=
  pending.foldl (fun candidate target => (candidate.failQuestWifiAdbTarget operationId target.1
    "provider_invocation_expired" nowMs).2) hub

/-- One pass for an operation; `persisted` tells whether the store took the candidates. -/
def schedulePendingConnectivityWork (runtime : ConnectivityRuntime) (operationId : String) (nowMs : Nat)
    (persisted : Bool) : ConnectivityRuntime :=
  match runtime.hub.wifiAdbOperations[operationId]?, runtime.questConnectivityProvider with
  | some operation, some configuredTargets =>
    if operation.preview.expiresAtMs < 0 then runtime
    else if operation.preview.expiresAtMs ≤ nowMs then
      if persisted then
        { runtime with
          hub := failPendingConnectivity runtime.hub operationId nowMs operation.pendingTargets }
      else runtime
    else if connectivityDispatchSlots runtime.inflightConnectivityTargets.length = 0 then runtime
    else
      let batch := preparePendingConnectivityBatch runtime.hub runtime.adapter operation configuredTargets
        runtime.inflightConnectivityTargets nowMs
      if persisted then
        { runtime with
          hub := batch.hub
          adapter := batch.adapter
          inflightConnectivityTargets := insertAll (batch.work.map workKey) runtime.inflightConnectivityTargets
          workers := runtime.workers ++ batch.work }
      else runtime
  | _, _ => runtime

end Scheduling

section Recovery

variable [Sha256Hex]

/-- What a recovery has done to its candidate and reserved for its workers so far. -/
structure ConnectivityRecovery where
  hub : FleetHub
  changed : Bool
  remainingSlots : Nat
  reserved : List (String × String)
  recovered : List ((String × String) × QuestWifiAdbOwnerInvocation)

/-- The expiry and the configuration are looked at before the workers in flight. -/
def recoverTarget (configuredTargets : List String) (nowMs : Nat) (state : ConnectivityRecovery)
    (operationId deviceId : String) (invocation : QuestWifiAdbOwnerInvocation) :
    HubResult ConnectivityRecovery :=
  let failed (code : String) : HubResult ConnectivityRecovery :=
    let (result, hub) := state.hub.failQuestWifiAdbTarget operationId deviceId code nowMs
    result.map fun _ => { state with hub := hub, changed := true }
  if connectivityInvocationExpired invocation nowMs then failed "provider_invocation_expired"
  else if configuredTargets.contains deviceId = false then failed "provider_target_unconfigured"
  else if state.remainingSlots = 0 ∨ deviceInFlight state.reserved deviceId then .ok state
  else
    .ok { state with
      remainingSlots := state.remainingSlots - 1
      reserved := state.reserved.insert (operationId, deviceId)
      recovered := state.recovered ++ [((operationId, deviceId), invocation)] }

/-- The dispatched targets of a Hub with their invocations, operation by operation. -/
def dispatchedTargets (hub : FleetHub) : List (String × String × QuestWifiAdbOwnerInvocation) :=
  (BTreeMap.storedValues hub.wifiAdbOperations).flatMap fun operation =>
    operation.targets.filterMap fun target =>
      if target.lifecycle = .dispatched then
        target.invocation.map fun invocation => (operation.operationId, target.deviceId, invocation)
      else none

def recoverTargets (configuredTargets : List String) (nowMs : Nat) (state : ConnectivityRecovery) :
    List (String × String × QuestWifiAdbOwnerInvocation) → HubResult ConnectivityRecovery
  | [] => .ok state
  | (operationId, deviceId, invocation) :: rest => do
    let next ← recoverTarget configuredTargets nowMs state operationId deviceId invocation
    recoverTargets configuredTargets nowMs next rest

/-- The locked part of a recovery; the passes for what is still pending follow it one by one. -/
def scheduleRecoveredConnectivityWork (runtime : ConnectivityRuntime) (nowMs : Nat) (persisted : Bool) :
    ConnectivityRuntime :=
  match runtime.questConnectivityProvider with
  | none => runtime
  | some configuredTargets =>
    let start : ConnectivityRecovery :=
      { hub := runtime.hub
        changed := false
        remainingSlots := connectivityDispatchSlots runtime.inflightConnectivityTargets.length
        reserved := runtime.inflightConnectivityTargets
        recovered := [] }
    match recoverTargets configuredTargets nowMs start (dispatchedTargets runtime.hub) with
    | .error _ => runtime
    | .ok recovery =>
      if recovery.changed && !persisted then runtime
      else
        { runtime with
          hub := recovery.hub
          inflightConnectivityTargets :=
            insertAll (recovery.recovered.map (·.1)) runtime.inflightConnectivityTargets
          workers := runtime.workers ++ recovery.recovered.map (·.2) }

def settleConnectivityOwnerResult (hub : FleetHub) (operationId deviceId : String)
    (result : Except ConnectivityOwnerWorkFailure QuestWifiAdbOwnerReceipt) (nowMs : Nat) :
    HubResult Unit × FleetHub :=
  let failed (hub : FleetHub) (code : String) : HubResult Unit × FleetHub :=
    (hub.failQuestWifiAdbTarget operationId deviceId code nowMs).map (·.map fun _ => ()) id
  match result with
  | .ok receipt =>
    match hub.applyQuestWifiAdbReceipt receipt nowMs with
    | (.ok _, next) => (.ok (), next)
    | (.error _, next) => failed next "provider_receipt_rejected"
  | .error .invocationExpired => failed hub "provider_invocation_expired"
  | .error .providerInvocation => failed hub "provider_invocation_failed"

/-- The end of `spawn_connectivity_owner_work`: a worker that is running reports its result. -/
def settleConnectivityWorker (runtime : ConnectivityRuntime) (worker : QuestWifiAdbOwnerInvocation)
    (result : Except ConnectivityOwnerWorkFailure QuestWifiAdbOwnerReceipt) (nowMs : Nat)
    (persisted : Bool) : ConnectivityRuntime :=
  if worker ∉ runtime.workers then runtime
  else
    let (settled, hub) :=
      settleConnectivityOwnerResult runtime.hub worker.operationId worker.deviceId result nowMs
    { runtime with
      hub := if settled.isOk && persisted then hub else runtime.hub
      inflightConnectivityTargets := runtime.inflightConnectivityTargets.erase (workKey worker)
      workers := runtime.workers.erase worker }

end Recovery

/-- What may happen to the Hub while its Wi-Fi ADB workers run. -/
inductive ConnectivityStep
  | call (call : AuthorityCall) (persisted : Bool)
  | schedule (operationId : String) (nowMs : Nat) (persisted : Bool)
  | recover (nowMs : Nat) (persisted : Bool)
  | settle (worker : QuestWifiAdbOwnerInvocation)
      (result : Except ConnectivityOwnerWorkFailure QuestWifiAdbOwnerReceipt) (nowMs : Nat) (persisted : Bool)
  | restart (policy : HubPolicy) (adapter : FleetManifoldAdapter) (provider : Option (List String))

section Machine

variable [AuthorityEnvironment]

def AuthorityAnswer.wifiAdbRefused : AuthorityAnswer → Bool
  | .fleet (.hub (.wifiAdb result)) => !result.isOk
  | _ => false

/-- The handler of a Wi-Fi ADB request keeps no candidate of a refused call; whatever else changes the Hub is kept
as the store says. -/
def ConnectivityRuntime.answer (runtime : ConnectivityRuntime) (call : AuthorityCall) (persisted : Bool) :
    ConnectivityRuntime :=
  let (fleet, answer) := Fleet.handleAuthority ⟨runtime.hub, runtime.adapter⟩ call
  if answer.wifiAdbRefused ∨ persisted = false then runtime
  else { runtime with hub := fleet.hub, adapter := fleet.adapter }

def ConnectivityRuntime.handle (runtime : ConnectivityRuntime) : ConnectivityStep → ConnectivityRuntime
  | .call call persisted => runtime.answer call persisted
  | .schedule operationId nowMs persisted =>
    schedulePendingConnectivityWork runtime operationId nowMs persisted
  | .recover nowMs persisted => scheduleRecoveredConnectivityWork runtime nowMs persisted
  | .settle worker result nowMs persisted => settleConnectivityWorker runtime worker result nowMs persisted
  | .restart policy adapter provider =>
    { hub := (runtime.hub.restarted policy).2
      adapter := adapter
      questConnectivityProvider := provider
      inflightConnectivityTargets := []
      workers := [] }

def connectivityMachine : Machine ConnectivityRuntime ConnectivityStep Unit where
  step runtime step := (runtime.handle step, ())

end Machine

end RustyFleet

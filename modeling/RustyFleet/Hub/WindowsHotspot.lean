import RustyFleet.Hub.State

namespace RustyFleet

structure WindowsHotspotPreviewPlan where
  operationId : String
  previewId : String
  leaseId : String
  generation : String
  request : WindowsHotspotPreviewRequest
  createdAtMs : Int
  expiresAtMs : Int
  providerReady : Bool

def windowsHotspotPreviewMaxLifetimeMs : Int := 5 * 60000

def zeroPadded (width value : Nat) : String :=
  let digits := toString value
  String.ofList (List.replicate (width - digits.length) '0') ++ digits

/-- The proleptic Gregorian date of a day counted from the Unix epoch: year, month and day. -/
def civilDate (days : Nat) : Nat × Nat × Nat :=
  let z := days + 719468
  let era := z / 146097
  let dayOfEra := z - era * 146097
  let yearOfEra := (dayOfEra - dayOfEra / 1460 + dayOfEra / 36524 - dayOfEra / 146096) / 365
  let dayOfYear := dayOfEra - (365 * yearOfEra + yearOfEra / 4 - yearOfEra / 100)
  let monthPrime := (5 * dayOfYear + 2) / 153
  let day := dayOfYear - (153 * monthPrime + 2) / 5 + 1
  let month := if monthPrime < 10 then monthPrime + 3 else monthPrime - 9
  let year := yearOfEra + era * 400 + if month ≤ 2 then 1 else 0
  (year, month, day)

def unixMsToRfc3339 (value : Int) : HubResult String := do
  rejectIf (value < 0) "windows_hotspot_deadline_invalid" "provider deadline precedes the Unix epoch"
  let seconds := value.toNat / 1000
  let (year, month, day) := civilDate (seconds / 86400)
  let secondsInDay := seconds % 86400
  return zeroPadded 4 year ++ "-" ++ zeroPadded 2 month ++ "-" ++ zeroPadded 2 day ++ "T" ++
    zeroPadded 2 (secondsInDay / 3600) ++ ":" ++ zeroPadded 2 (secondsInDay % 3600 / 60) ++ ":" ++
    zeroPadded 2 (secondsInDay % 60) ++ "." ++ zeroPadded 3 (value.toNat % 1000) ++ "0000Z"

example : unixMsToRfc3339 951868801007 = .ok "2000-03-01T00:00:01.0070000Z" := by decide

/-- The action may run under the ownership the Hub last observed. -/
def hotspotActionEligible (action : WindowsHotspotAction)
    (observed : Option WindowsHotspotObservedState) : Bool :=
  let ownership := (observed.map (·.ownership)).getD .none
  match action with
  | .status => true
  | .start | .ensure => ownership != .external
  | .stop => observed.any (·.active) && ownership == .fleet && observed.any (·.generation.isSome)

def hotspotReasonCode (plan : WindowsHotspotPreviewPlan) (leaseAvailable : Bool)
    (observed : Option WindowsHotspotObservedState) : String :=
  if ¬ plan.providerReady then "provider_unavailable"
  else if ¬ leaseAvailable then "resource_leased"
  else if (observed.map (·.ownership)).getD .none = .external then "external_hotspot_not_owned"
  else if plan.request.action = .stop ∧ ¬ hotspotActionEligible plan.request.action observed then
    "fleet_ownership_required"
  else "ready"

def proposedHotspotOperation (plan : WindowsHotspotPreviewPlan) (fleetRevision : Nat)
    (leaseAvailable : Bool) (observed : Option WindowsHotspotObservedState) : WindowsHotspotOperation :=
  let eligible :=
    plan.providerReady && leaseAvailable && hotspotActionEligible plan.request.action observed
  let reasonCode := hotspotReasonCode plan leaseAvailable observed
  { schema := windowsHotspotOperationSchema
    operationId := plan.operationId
    actionId := windowsHotspotActionId
    lifecycle := if eligible then .proposed else .rejected
    preview :=
      { schema := "rusty.fleet.windows_hotspot_preview.v1"
        previewId := plan.previewId
        operationId := plan.operationId
        actionId := windowsHotspotActionId
        resourceId := windowsHotspotResourceId
        ownerId := windowsHotspotOwner
        action := plan.request.action
        createdAtMs := plan.createdAtMs
        expiresAtMs := plan.expiresAtMs
        fleetRevision := fleetRevision
        preflight :=
          { providerReady := plan.providerReady
            leaseAvailable := leaseAvailable
            active := observed.any (·.active)
            ownership := (observed.map (·.ownership)).getD .none
            ownershipGeneration := observed.bind (·.generation)
            eligible := eligible
            reasonCode := reasonCode
            message :=
              if eligible then "Host-scoped hotspot operation is ready for explicit confirmation"
              else "Host-scoped hotspot operation is not eligible" } }
    confirmedAtMs := none
    lease := some
      { schema := windowsHotspotLeaseSchema
        leaseId := plan.leaseId
        resourceId := windowsHotspotResourceId
        holderOperationId := plan.operationId
        generation := plan.generation
        issuedAtMs := plan.createdAtMs
        expiresAtMs := plan.expiresAtMs }
    invocation := none
    receipt := none
    failureCode := if eligible then none else some reasonCode
    updatedAtMs := plan.createdAtMs }

namespace WindowsHotspotOperation

def confirmed (operation : WindowsHotspotOperation) (nowMs : Int) : WindowsHotspotOperation :=
  { operation with lifecycle := .accepted, confirmedAtMs := some nowMs, updatedAtMs := nowMs }

def dispatched (operation : WindowsHotspotOperation) (invocation : WindowsHotspotProviderRequest)
    (nowMs : Int) : WindowsHotspotOperation :=
  { operation with invocation := some invocation, lifecycle := .dispatched, updatedAtMs := nowMs }

def expired (operation : WindowsHotspotOperation) (nowMs : Int) : WindowsHotspotOperation :=
  { operation with lifecycle := .expired, failureCode := some "lease_expired", updatedAtMs := nowMs }

def failed (operation : WindowsHotspotOperation) (failureCode : String) (nowMs : Int) :
    WindowsHotspotOperation :=
  { operation with lifecycle := .failed, failureCode := some failureCode, updatedAtMs := nowMs }

def received (operation : WindowsHotspotOperation) (receipt : WindowsHotspotProviderReceipt)
    (nowMs : Int) : WindowsHotspotOperation :=
  { operation with
    lifecycle := if receipt.outcome = .verified then .applied else .failed
    failureCode := if receipt.outcome = .verified then none else some receipt.reason
    receipt := some receipt
    updatedAtMs := nowMs }

/-- A lease that still binds the host resource at the given time. -/
def leasesResource (operation : WindowsHotspotOperation) (nowMs : Int) : Bool :=
  operation.isActive && operation.lease.any fun lease => lease.expiresAtMs ≥ nowMs

end WindowsHotspotOperation

/-- A verified receipt agrees with the action's effect and with the ownership it claims. -/
def hotspotSemanticMatch (receipt : WindowsHotspotProviderReceipt)
    (invocation : WindowsHotspotProviderRequest) : Bool :=
  match receipt.action with
  | .status => true
  | .start | .ensure =>
    receipt.operationalState == "On" && receipt.ownershipGeneration.any (!·.isEmpty) &&
      (receipt.action != .ensure || invocation.ownershipGeneration.isNone ||
        receipt.ownershipGeneration == invocation.ownershipGeneration)
  | .stop =>
    receipt.operationalState == "Off" && receipt.ownershipGeneration.isNone &&
      invocation.ownershipGeneration.isSome

def hotspotObservedAfter (prior : Option WindowsHotspotObservedState)
    (receipt : WindowsHotspotProviderReceipt) (nowMs : Int) : Option WindowsHotspotObservedState :=
  let verified := receipt.outcome = .verified
  let on := receipt.operationalState = "On"
  let off := receipt.operationalState = "Off"
  let priorFleet := prior.any (·.ownership == .fleet)
  let external : Option WindowsHotspotObservedState :=
    some { active := true, ownership := .external, generation := none, observedAtMs := nowMs }
  let stopped : Option WindowsHotspotObservedState :=
    some { active := false, ownership := .none, generation := none, observedAtMs := nowMs }
  if verified ∧ (receipt.action = .start ∨ receipt.action = .ensure) ∧ on then
    some
      { active := true
        ownership := .fleet
        generation := receipt.ownershipGeneration
        observedAtMs := nowMs }
  else if verified ∧ receipt.action = .status ∧ on ∧ priorFleet ∧
      receipt.ownershipGeneration.all (fun generation => prior.bind (·.generation) == some generation) then
    prior
  else if verified ∧ receipt.action = .status ∧ on then external
  else if verified ∧ (receipt.action = .stop ∨ receipt.action = .status) ∧ off then stopped
  else if on ∧ receipt.reason = "ownership.generation_mismatch" then external
  else if on ∧ receipt.reason ∈ ["state.restart_detected", "ownership.prior_boot_generation",
      "ownership.external_hotspot_on"] then external
  else if off ∧ receipt.reason ∈ ["state.restart_detected", "ownership.prior_boot_generation"] then stopped
  else if on ∧ priorFleet then prior
  else if on then external
  else if receipt.reason = "state.restart_detected" then none
  else prior

namespace FleetHub

variable (hub : FleetHub)

def windowsHotspotOperation (operationId : String) : HubResult WindowsHotspotOperation :=
  orRefuse hub.windowsHotspotOperations[operationId]? "windows_hotspot_operation_not_found"
    "Windows hotspot operation not found"

def hasActiveHotspotLease (nowMs : Int) (exempt : Option String) : Bool :=
  BTreeMap.anyEntry hub.windowsHotspotOperations fun _ operation =>
    exempt != some operation.operationId && operation.leasesResource nowMs

def storeHotspot (operationId : String) (operation : WindowsHotspotOperation) : FleetHub :=
  { hub with windowsHotspotOperations := hub.windowsHotspotOperations.insert operationId operation }

def settleHotspot (operationId : String) (edit : HubResult (LedgerEdit WindowsHotspotOperation)) :
    HubResult WindowsHotspotOperation × FleetHub :=
  match edit with
  | .error fault => (.error fault, hub)
  | .ok (.unchanged operation) => (.ok operation, hub)
  | .ok (.rewritten operation) => (.ok operation, hub.storeHotspot operationId operation)

def hotspotPreviewEdit (plan : WindowsHotspotPreviewPlan) :
    HubResult (LedgerEdit WindowsHotspotOperation) := do
  rejectIf (¬ Valid plan.request ∨ plan.operationId.isEmpty ∨ plan.previewId.isEmpty ∨
      plan.leaseId.isEmpty ∨ plan.generation.isEmpty ∨ plan.createdAtMs < 0 ∨
      plan.expiresAtMs ≤ plan.createdAtMs ∨
      plan.expiresAtMs - plan.createdAtMs > windowsHotspotPreviewMaxLifetimeMs)
    "windows_hotspot_preview_plan_invalid"
    "Windows hotspot preview plan is invalid or exceeds five minutes"
  match hub.windowsHotspotOperations[plan.operationId]? with
  | some existing =>
    rejectIf (existing.preview.previewId ≠ plan.previewId ∨
        existing.preview.action ≠ plan.request.action)
      "windows_hotspot_operation_id_conflict"
      "operation ID names a different immutable hotspot preview"
    return .unchanged existing
  | none =>
    let operation := proposedHotspotOperation plan hub.resultRevision
      (!hub.hasActiveHotspotLease plan.createdAtMs none) hub.windowsHotspotObservation
    rejectIf (¬ Valid operation) "windows_hotspot_operation_invalid" "operation invalid"
    rejectIf (hub.windowsHotspotOperations.size ≥ maxWindowsHotspotOperations)
      "windows_hotspot_operation_limit_reached" "Windows hotspot operation retention limit reached"
    return .rewritten operation

def previewWindowsHotspot (plan : WindowsHotspotPreviewPlan) :
    HubResult WindowsHotspotOperation × FleetHub :=
  hub.settleHotspot plan.operationId (hub.hotspotPreviewEdit plan)

def expireWindowsHotspotOperation (operationId : String) (nowMs : Int) : FleetHub :=
  match hub.windowsHotspotOperations[operationId]? with
  | some operation => hub.storeHotspot operationId (operation.expired nowMs)
  | none => hub

/-- An expired preview is moved to its expired state although the confirmation is refused. -/
def confirmWindowsHotspot (operationId previewId : String) (nowMs : Int) :
    HubResult WindowsHotspotOperation × FleetHub :=
  match hub.windowsHotspotOperation operationId with
  | .error fault => (.error fault, hub)
  | .ok existing =>
    if existing.preview.previewId ≠ previewId then
      (refuse "windows_hotspot_preview_conflict"
        "execute request does not bind the immutable preview", hub)
    else if existing.lifecycle ≠ .proposed then (.ok existing, hub)
    else if nowMs > existing.preview.expiresAtMs then
      (refuse "windows_hotspot_preview_expired" "hotspot preview expired before confirmation",
        hub.expireWindowsHotspotOperation operationId nowMs)
    else if hub.hasActiveHotspotLease nowMs (some operationId) then
      (refuse "windows_hotspot_resource_leased"
        "another operation owns the Windows hotspot resource", hub)
    else (.ok (existing.confirmed nowMs), hub.storeHotspot operationId (existing.confirmed nowMs))

/-- The ownership generation the provider request must name for the previewed action. -/
def requestedGeneration (existing : WindowsHotspotOperation) : HubResult (Option String) :=
  let current := hub.windowsHotspotObservation.bind (·.generation)
  match existing.preview.action with
  | .start | .status => .ok none
  | .ensure => do
    rejectIf (current ≠ existing.preview.preflight.ownershipGeneration)
      "windows_hotspot_generation_changed" "Fleet hotspot generation changed after preview"
    return current
  | .stop => do
    let expected ← orRefuse current "windows_hotspot_ownership_lost"
      "Fleet ownership disappeared after preview"
    rejectIf (expected ≠ existing.preview.preflight.ownershipGeneration.getD "")
      "windows_hotspot_generation_changed" "Fleet hotspot generation changed after preview"
    return some expected

def hotspotPrepareEdit (operationId requestId : String) (nowMs : Int) :
    HubResult (LedgerEdit WindowsHotspotOperation) := do
  let existing ← hub.windowsHotspotOperation operationId
  if existing.lifecycle = .dispatched ∧ existing.invocation.isSome then return .unchanged existing
  else do
    rejectIf (existing.lifecycle ≠ .accepted ∨ nowMs > existing.preview.expiresAtMs)
      "windows_hotspot_dispatch_state_invalid" "only an unexpired confirmed operation can dispatch"
    rejectIf existing.lease.isNone "windows_hotspot_lease_missing" "operation has no host lease"
    let ownershipGeneration ← hub.requestedGeneration existing
    let expiresAtUtc ← unixMsToRfc3339 existing.preview.expiresAtMs
    let invocation : WindowsHotspotProviderRequest :=
      { schema := windowsHotspotProviderRequestSchema
        requestId := requestId
        operationId := existing.operationId
        action := existing.preview.action
        expiresAtUtc := expiresAtUtc
        timeoutMs := 30000
        ownershipGeneration := ownershipGeneration }
    rejectIf (¬ Valid invocation) "windows_hotspot_invocation_invalid" "provider invocation invalid"
    return .rewritten (existing.dispatched invocation nowMs)

def prepareWindowsHotspotInvocation (operationId requestId : String) (nowMs : Int) :
    HubResult WindowsHotspotOperation × FleetHub :=
  hub.settleHotspot operationId (hub.hotspotPrepareEdit operationId requestId nowMs)

def hotspotReceiptChecks (receipt : WindowsHotspotProviderReceipt) :
    HubResult WindowsHotspotOperation := do
  rejectIf (¬ Valid receipt) "windows_hotspot_receipt_invalid" "provider receipt is invalid"
  let existing ← hub.windowsHotspotOperation receipt.operationId
  rejectIf (existing.lifecycle ≠ .dispatched ∨ existing.receipt.isSome) "windows_hotspot_receipt_replay"
    "only one receipt may settle a dispatched hotspot invocation"
  let invocation ← orRefuse existing.invocation "windows_hotspot_invocation_missing"
    "operation has no invocation"
  rejectIf (receipt.requestId ≠ invocation.requestId ∨ receipt.action ≠ invocation.action)
    "windows_hotspot_receipt_binding_mismatch"
    "receipt does not bind the exact provider invocation"
  rejectIf (receipt.outcome = .verified ∧ ¬ hotspotSemanticMatch receipt invocation)
    "windows_hotspot_optimistic_success"
    "verified receipt contradicts action and ownership readback"
  return existing

def applyWindowsHotspotReceipt (receipt : WindowsHotspotProviderReceipt) (nowMs : Int) :
    HubResult WindowsHotspotOperation × FleetHub :=
  match hub.hotspotReceiptChecks receipt with
  | .error fault => (.error fault, hub)
  | .ok existing =>
    let observed := hotspotObservedAfter hub.windowsHotspotObservation receipt nowMs
    (.ok (existing.received receipt nowMs),
      { hub.storeHotspot receipt.operationId (existing.received receipt nowMs) with
        windowsHotspotObservation := observed })

def hotspotFailEdit (operationId failureCode : String) (nowMs : Int) :
    HubResult (LedgerEdit WindowsHotspotOperation) := do
  let operation ← orRefuse hub.windowsHotspotOperations[operationId]?
    "windows_hotspot_operation_not_found" "operation not found"
  rejectIf (¬ operation.isActive) "windows_hotspot_failure_state_invalid"
    "operation is not in a fail-able execution state"
  return .rewritten (operation.failed failureCode nowMs)

def failWindowsHotspotOperation (operationId failureCode : String) (nowMs : Int) :
    HubResult WindowsHotspotOperation × FleetHub :=
  hub.settleHotspot operationId (hub.hotspotFailEdit operationId failureCode nowMs)

/-- The unsettled operations whose preview expired before the given time. -/
def recoverableHotspotIds (nowMs : Int) : List String :=
  (hub.windowsHotspotOperations.toList.filter fun entry =>
    (entry.2.lifecycle == .proposed || entry.2.isActive) && entry.2.preview.expiresAtMs < nowMs).map (·.1)

def recoverWindowsHotspot (nowMs : Int) : List WindowsHotspotOperation × FleetHub :=
  let recovered := (hub.recoverableHotspotIds nowMs).foldl
    (fun state operationId => state.expireWindowsHotspotOperation operationId nowMs) hub
  (BTreeMap.storedValues recovered.windowsHotspotOperations, recovered)

end FleetHub

end RustyFleet

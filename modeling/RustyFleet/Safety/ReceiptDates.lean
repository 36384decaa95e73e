import RustyFleet.Adapter.Sessions
import RustyFleet.Hub.Frames
import RustyFleet.Safety.CheckInSteps
import RustyFleet.Safety.WifiLedger

namespace RustyFleet.WifiSafety

def isDated (action : QuestWifiAdbAction) : Prop := action = .requestWirelessAdb ∨ action = .disableWirelessAdb

def Disables (event : AppliedReceipt) (deviceId : String) (identityRevision : Nat) : Prop :=
  event.receipt.action = .disableWirelessAdb ∧ event.receipt.effectApplied = true ∧
    event.receipt.deviceId = deviceId ∧ event.receipt.identityRevision = identityRevision

def firstApplied (applied : List AppliedReceipt) (receipt : QuestWifiAdbOwnerReceipt) : Option Int :=
  (applied.find? (·.receipt = receipt)).map (·.nowMs)

def Undisturbed (applied : List AppliedReceipt) (receipt : QuestWifiAdbOwnerReceipt) : Prop :=
  ∀ first, firstApplied applied receipt = some first → ∀ event ∈ applied,
    Disables event receipt.deviceId receipt.identityRevision → event.nowMs < first

structure NotBefore (fleet : Fleet) (deviceId : String) (identityRevision : Nat) (nowMs : Int) : Prop where
  receipts : ∀ (operationId : String) operation, fleet.hub.wifiAdbOperations[operationId]? = some operation →
    isDated operation.preview.action → ∀ target ∈ operation.targets, target.deviceId = deviceId →
      target.identityRevision = identityRevision → target.receipt.isSome = true → target.updatedAtMs ≤ nowMs
  proofs : ∀ (proofId : String) admitted, fleet.adapter.termuxProofs[proofId]? = some admitted →
    admitted.proof.deviceId = deviceId → admitted.proof.identityRevision = identityRevision →
      admitted.acceptedAtMs ≤ nowMs

/-- The receipts applied by a call of the fleet. -/
def receiptsApplied [FleetEnvironment] (fleet : Fleet) (call : FleetCall) (_ : FleetAnswer) :
    List AppliedReceipt :=
  match call with
  | .hub (.wifiAdb call) => appliedBy fleet.hub call
  | _ => []

structure ReceiptKeepsDates (fleet : Fleet) (applied : List AppliedReceipt)
    (receipt : QuestWifiAdbOwnerReceipt) (nowMs : Int) (operation : QuestWifiAdbOperation)
    (target : QuestWifiAdbTarget) : Prop where
  clock : isDated operation.preview.action →
    NotBefore fleet target.deviceId target.identityRevision nowMs
  route : operation.preview.action = .disableWirelessAdb → receipt.effectApplied = true →
    receipt.routeMode = .modernTls
  retained : operation.preview.action = .disableWirelessAdb →
    (∃ held ∈ target.receipt, held.effectApplied = true) → receipt.effectApplied = true
  once : operation.preview.action = .requestWirelessAdb → (∃ event ∈ applied, event.receipt = receipt) →
    Undisturbed applied receipt

structure FailureKeepsDates (fleet : Fleet) (applied : List AppliedReceipt) (nowMs : Int)
    (operation : QuestWifiAdbOperation) (target : QuestWifiAdbTarget) (receipt : QuestWifiAdbOwnerReceipt) :
    Prop where
  clock : isDated operation.preview.action →
    NotBefore fleet target.deviceId target.identityRevision nowMs
  once : operation.preview.action = .requestWirelessAdb → Undisturbed applied receipt

/-- The calls after which every receipt is still dated no earlier than what it was ordered against;
a restart restores the adapter's own session. -/
def KeepsDates (state : Fleet × List AppliedReceipt) : FleetCall → Prop
  | .hub (.wifiAdb (.receipt receipt nowMs)) => ∀ operation,
    state.1.hub.wifiAdbOperations[receipt.operationId]? = some operation →
    ∀ target ∈ operation.targets, target.deviceId = receipt.deviceId →
      ReceiptKeepsDates state.1 state.2 receipt nowMs operation target
  | .hub (.wifiAdb (.fail operationId deviceId _ nowMs)) => ∀ operation,
    state.1.hub.wifiAdbOperations[operationId]? = some operation →
    ∀ target ∈ operation.targets, target.deviceId = deviceId → ∀ receipt, target.receipt = some receipt →
      FailureKeepsDates state.1 state.2 nowMs operation target receipt
  | .restoreSession snapshot _ => snapshot = state.1.adapter.snapshot
  | _ => True

structure EventTraced (hub : FleetHub) (event : AppliedReceipt) (operation : QuestWifiAdbOperation)
    (target : QuestWifiAdbTarget) : Prop where
  stored : hub.wifiAdbOperations[event.receipt.operationId]? = some operation
  member : target ∈ operation.targets
  action : operation.preview.action = event.receipt.action
  device : target.deviceId = event.receipt.deviceId
  identity : target.identityRevision = event.receipt.identityRevision
  received : target.receipt.isSome = true
  dated : isDated operation.preview.action → event.nowMs ≤ target.updatedAtMs
  effective : event.receipt.action = .disableWirelessAdb → event.receipt.effectApplied = true →
    effectiveModernTls target.receipt

/-- The times on the ledger and the proofs respect the order in which receipts were applied. -/
structure DatesKept (fleet : Fleet) (applied : List AppliedReceipt) : Prop where
  ledger : LedgerSound fleet.hub
  traced : ∀ event ∈ applied, ∃ operation target, EventTraced fleet.hub event operation target
  recorded : ∀ (operationId : String) operation, fleet.hub.wifiAdbOperations[operationId]? = some operation →
    ∀ target ∈ operation.targets, ∀ receipt, target.receipt = some receipt →
      ∃ event ∈ applied, event.receipt = receipt
  requested : ∀ (operationId : String) operation, fleet.hub.wifiAdbOperations[operationId]? = some operation →
    operation.preview.action = .requestWirelessAdb →
    ∀ target ∈ operation.targets, ∀ receipt, target.receipt = some receipt →
      ∀ first, firstApplied applied receipt = some first → ∀ event ∈ applied,
        Disables event receipt.deviceId receipt.identityRevision → first ≤ event.nowMs →
          target.updatedAtMs ≤ event.nowMs
  keyed : ∀ (proofId : String) admitted, fleet.adapter.termuxProofs[proofId]? = some admitted →
    proofId = admitted.proof.proofId
  bound : ∀ (proofId : String) admitted, fleet.adapter.termuxProofs[proofId]? = some admitted →
    ∀ admission ∈ admitted.admission, ∃ operation,
      fleet.hub.wifiAdbOperations[admission.boundOperationId]? = some operation ∧
        operation.preview.action = .requestWirelessAdb
  proven : ∀ (proofId : String) admitted, fleet.adapter.termuxProofs[proofId]? = some admitted →
    ∀ admission ∈ admitted.admission, ∀ operation,
      fleet.hub.wifiAdbOperations[admission.boundOperationId]? = some operation →
      ∀ target ∈ operation.targets, target.deviceId = admitted.proof.deviceId →
        target.identityRevision = admitted.proof.identityRevision →
        FleetManifoldAdapter.admissionBindsReceipt admission.boundOperationId target admission →
        ∀ receipt, target.receipt = some receipt → ∀ first, firstApplied applied receipt = some first →
          ∀ event ∈ applied, Disables event receipt.deviceId receipt.identityRevision →
            first ≤ event.nowMs → admitted.acceptedAtMs ≤ event.nowMs

theorem firstApplied_isSome {applied : List AppliedReceipt} {receipt : QuestWifiAdbOwnerReceipt}
    (known : ∃ event ∈ applied, event.receipt = receipt) : ∃ first, firstApplied applied receipt = some first := by
  obtain ⟨event, member, same⟩ := known
  cases found : applied.find? (·.receipt = receipt) with
  | none => exact absurd same (by simpa using List.find?_eq_none.mp found event member)
  | some first => exact ⟨first.nowMs, by rw [firstApplied, found]; rfl⟩

theorem firstApplied_append {applied later : List AppliedReceipt} {receipt : QuestWifiAdbOwnerReceipt}
    (known : ∃ event ∈ applied, event.receipt = receipt) :
    firstApplied (applied ++ later) receipt = firstApplied applied receipt := by
  obtain ⟨first, found⟩ := firstApplied_isSome known
  obtain ⟨event, found, _⟩ := Option.map_eq_some_iff.mp found
  rw [firstApplied, firstApplied, List.find?_append, found, Option.some_or]

theorem firstApplied_new {applied : List AppliedReceipt} {receipt : QuestWifiAdbOwnerReceipt} {nowMs : Int}
    (unknown : ¬ ∃ event ∈ applied, event.receipt = receipt) :
    firstApplied (applied ++ [{ receipt := receipt, nowMs := nowMs }]) receipt = some nowMs := by
  have absent : applied.find? (·.receipt = receipt) = none := by
    apply List.find?_eq_none.mpr
    intro event member same
    exact unknown ⟨event, member, by simpa using same⟩
  rw [firstApplied, List.find?_append, absent, Option.none_or]
  simp

section Steps

variable [FleetEnvironment] {fleet : Fleet} {applied : List AppliedReceipt} {call : WifiAdbCall}
  {operationId : String} {operation next : QuestWifiAdbOperation}

inductive RequestChange (fleet : Fleet) (applied : List AppliedReceipt) (call : WifiAdbCall)
    (prior target : QuestWifiAdbTarget) (receipt : QuestWifiAdbOwnerReceipt) : Prop
  | kept (same : target = prior)
  | undisturbed (known : ∃ event ∈ applied, event.receipt = receipt) (clear : Undisturbed applied receipt)
  | fresh (nowMs : Int) (unknown : ¬ ∃ event ∈ applied, event.receipt = receipt)
      (recorded : appliedBy fleet.hub call = [{ receipt := receipt, nowMs := nowMs }])
      (dated : target.updatedAtMs = nowMs)
      (clock : NotBefore fleet target.deviceId target.identityRevision nowMs)

theorem request_change (kept : DatesKept fleet applied)
    (allowed : KeepsDates (fleet, applied) (.hub (.wifiAdb call)))
    (edited : Edited fleet.hub call operationId operation next)
    (requests : operation.preview.action = .requestWirelessAdb) {target : QuestWifiAdbTarget}
    (member : target ∈ next.targets) {receipt : QuestWifiAdbOwnerReceipt}
    (received : target.receipt = some receipt) :
    ∃ prior ∈ operation.targets, target.deviceId = prior.deviceId ∧
      target.identityRevision = prior.identityRevision ∧
      RequestChange fleet applied call prior target receipt := by
  obtain ⟨prior, known, change⟩ := Support.forall₂_right edited.targets target member
  refine ⟨prior, known, change.device, change.identity, ?_⟩
  cases change.receipt with
  | kept => exact .kept rfl
  | unreceived _ _ after =>
    rw [after] at received
    cases received
  | received _ newReceipt nowMs made addressed named stored dated =>
    rw [stored] at received
    cases received
    subst made
    have keeps := allowed operation (by rw [addressed]; exact edited.stored) prior known named.symm
    by_cases earlier : ∃ event ∈ applied, event.receipt = receipt
    · exact .undisturbed earlier (keeps.once requests earlier)
    · refine .fresh nowMs earlier (edited.records receipt nowMs rfl) dated ?_
      rw [change.device, change.identity]
      exact keeps.clock (.inl requests)
  | failed _ code nowMs made same dated =>
    subst made
    have held : prior.receipt = some receipt := same.symm.trans received
    have keeps := allowed operation edited.stored prior known rfl receipt held
    exact .undisturbed (kept.recorded operationId operation edited.stored prior known receipt held)
      (keeps.once requests)

end Steps

end RustyFleet.WifiSafety

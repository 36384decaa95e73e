import Mathlib.Data.List.MinMax
import Mathlib.Data.Prod.Lex
import RustyFleet.Hub.State
import RustyFleet.Support.Selection

namespace RustyFleet

/-- Families are ordered as they are declared. -/
instance : Ord ConditionFamily where
  compare := compareOn ConditionFamily.ctorIdx

instance : Std.TransOrd ConditionFamily :=
  inferInstanceAs (Std.TransCmp (compareOn ConditionFamily.ctorIdx))

instance : Std.LawfulEqOrd ConditionFamily where
  eq_of_compare {left right} same := by
    have index : left.ctorIdx = right.ctorIdx := Nat.compare_eq_eq.mp same
    cases left <;> cases right <;> first | rfl | cases index

inductive ProjectionFreshness
  | fresh | stale | offline | unknown
deriving DecidableEq, Repr

structure DeviceRowProjection where
  schema : String
  identity : DeviceIdentity
  sourceEpoch : String
  acceptedRevision : Nat
  acceptedAtMs : Int
  ageMs : Int
  freshness : ProjectionFreshness
  batteryPercent : Option Nat
  charging : Option Bool
  foregroundApp : Option String
  agent : Option ApplicationObservation
  power : Option PowerObservation
  application : Option ApplicationObservation
  kioskState : String
  route : String
  conditions : BTreeMap ConditionFamily StatusCondition
  capabilities : CapabilitySnapshot
  streamCount : Nat
  activeWorkCount : Nat
  extensions : BTreeMap String JsonValue

structure DeviceInspectorProjection where
  schema : String
  row : DeviceRowProjection
  attention : List StatusCondition
  streams : List StreamDescriptor

namespace StatusCondition

def isStaleAt (condition : StatusCondition) (nowMs : Int) : Bool :=
  condition.freshUntilMs < nowMs || condition.state == .stale

/-- A condition past its deadline reads as stale unless its state must stay visible. -/
def projected (condition : StatusCondition) (nowMs : Int) : StatusCondition :=
  if condition.isStaleAt nowMs ∧ condition.state ∉ [.failed, .critical, .restricted] then
    { condition with state := .stale }
  else condition

/-- Conditions of one family are compared by revision, then by receive time. -/
def rank (condition : StatusCondition) : Nat ×ₗ Int :=
  toLex (condition.acceptedRevision, condition.receivedTimeMs)

@[simp] theorem projected_family (condition : StatusCondition) (nowMs : Int) :
    (condition.projected nowMs).family = condition.family := by
  unfold projected
  split <;> rfl

@[simp] theorem projected_reason (condition : StatusCondition) (nowMs : Int) :
    (condition.projected nowMs).reason = condition.reason := by
  unfold projected
  split <;> rfl

@[simp] theorem projected_rank (condition : StatusCondition) (nowMs : Int) :
    (condition.projected nowMs).rank = condition.rank := by
  unfold projected
  split <;> rfl

end StatusCondition

def keepNewest (newest : BTreeMap ConditionFamily StatusCondition) (projected : StatusCondition) :
    BTreeMap ConditionFamily StatusCondition :=
  if newest[projected.family]?.all fun prior => decide (prior.rank < projected.rank) then
    newest.insert projected.family projected
  else newest

def newestConditions (conditions : List StatusCondition) (nowMs : Int) :
    BTreeMap ConditionFamily StatusCondition :=
  conditions.foldl (fun newest condition => keepNewest newest (condition.projected nowMs)) ∅

theorem keepNewest_lookup (newest : BTreeMap ConditionFamily StatusCondition)
    (projected : StatusCondition) (family : ConditionFamily) :
    (keepNewest newest projected)[family]? =
      if projected.family = family then
        match newest[family]? with
        | none => some projected
        | some prior => if prior.rank < projected.rank then some projected else some prior
      else newest[family]? := by
  by_cases same : projected.family = family
  · subst same
    rw [if_pos rfl]
    cases found : newest[projected.family]? with
    | none => simp [keepNewest, found]
    | some prior =>
      by_cases outranked : prior.rank < projected.rank
      · simp [keepNewest, found, outranked]
      · simp [keepNewest, found, outranked]
  · rw [if_neg same]
    unfold keepNewest
    split
    · exact BTreeMap.lookup_insert_of_ne _ _ (Ne.symm same)
    · rfl

/-- Of every family the loop keeps the first condition of the greatest rank. -/
theorem newestConditions_lookup (conditions : List StatusCondition) (nowMs : Int)
    (family : ConditionFamily) :
    (newestConditions conditions nowMs)[family]? =
      Support.firstGreatest StatusCondition.rank
        ((conditions.map (·.projected nowMs)).filter (·.family = family)) := by
  rw [newestConditions, Support.firstGreatest, ← List.foldl_map]
  induction conditions.map (·.projected nowMs) using List.reverseRecOn with
  | nil => simp
  | append_singleton before last ih =>
    rw [List.foldl_concat, keepNewest_lookup, ih, List.filter_append]
    by_cases same : last.family = family
    · have kept : [last].filter (·.family = family) = [last] := by simp [same]
      rw [if_pos same, kept, List.argmax_concat]
      cases (before.filter (·.family = family)).argmax StatusCondition.rank <;> rfl
    · have dropped : [last].filter (·.family = family) = [] := by simp [same]
      rw [if_neg same, dropped, List.append_nil]

def kioskText : KioskState → String
  | .active => "active"
  | .inactive => "inactive"
  | .mismatch => "mismatch"
  | .unknown => "unknown"

def routeText (observation : DeviceObservation) (freshness : ProjectionFreshness) : String :=
  if freshness = .offline then "offline"
  else
    match observation.conditions.find? (·.family = .freshness) with
    | none => "unknown"
    | some condition => condition.reason

namespace FleetHub

variable (hub : FleetHub)

def activeKioskOperationCount (deviceId : String) : Nat :=
  (BTreeMap.storedValues hub.kioskOperations).countP fun operation =>
    !operation.lifecycle.isSettled && operation.targets.any fun target =>
      target.deviceId == deviceId && !target.lifecycle.isSettled

def projectedFreshness (ageMs : Int) : ProjectionFreshness :=
  if ageMs > hub.policy.offlineAfterMs then .offline
  else if ageMs > hub.policy.staleAfterMs then .stale
  else .fresh

def row (record : DeviceRecord) (nowMs : Int) : DeviceRowProjection where
  schema := "rusty.fleet.device_row.v1"
  identity := record.observation.identity
  sourceEpoch := record.observation.sourceEpoch
  acceptedRevision := record.acceptedRevision
  acceptedAtMs := record.acceptedAtMs
  ageMs := observationAgeMs record nowMs
  freshness := hub.projectedFreshness (observationAgeMs record nowMs)
  batteryPercent := record.observation.batteryPercent
  charging := record.observation.charging
  foregroundApp := record.observation.foregroundApp
  agent := record.observation.agent
  power := record.observation.power
  application := record.observation.application
  kioskState := kioskText record.observation.kioskState
  route := routeText record.observation (hub.projectedFreshness (observationAgeMs record nowMs))
  conditions := newestConditions record.observation.conditions nowMs
  capabilities := record.observation.capabilities
  streamCount := record.observation.streams.length
  activeWorkCount := hub.activeKioskOperationCount record.observation.identity.deviceId
  extensions := ∅

/-- The conditions an inspector puts first: stale, degraded, failed or critical ones. -/
def needsAttention (nowMs : Int) (condition : StatusCondition) : Bool :=
  condition.isStaleAt nowMs || condition.state ∈ [.degraded, .failed, .critical]

def inspect (deviceId : String) (nowMs : Int) : HubResult DeviceInspectorProjection := do
  let record ← orRefuse hub.devices[deviceId]? "device_not_found" ("unknown device " ++ deviceId)
  let row := hub.row record nowMs
  return {
    schema := "rusty.fleet.device_inspector.v1"
    row := row
    attention := (BTreeMap.storedValues row.conditions).filter (needsAttention nowMs)
    streams := record.observation.streams }

theorem inspect_stored {hub : FleetHub} {deviceId : String} {record : DeviceRecord} (nowMs : Int)
    (stored : hub.devices[deviceId]? = some record) :
    ∃ projection, hub.inspect deviceId nowMs = .ok projection ∧ projection.row = hub.row record nowMs := by
  rw [inspect, stored]
  exact ⟨_, rfl, rfl⟩

def deviceIds : List String := hub.devices.toList.map Prod.fst

def deviceSourceLineage (deviceId : String) : Option (String × Nat × Nat) :=
  hub.devices[deviceId]?.map fun record =>
    (record.observation.sourceEpoch, record.observation.sourceRevision,
      record.observation.identity.identityRevision)

end FleetHub

end RustyFleet

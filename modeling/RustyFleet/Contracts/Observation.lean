import RustyFleet.Contracts.Violation

namespace RustyFleet

inductive ConditionFamily
  | identity | freshness | power | application | control | privileged | media | work | alert
deriving DecidableEq, Repr

inductive ConditionState
  | current | inProgress | busy | stale | unknown | unsupported | disabled | unauthorized
  | disconnected | unavailable | degraded | failed | critical | restricted
deriving DecidableEq, Repr

inductive Sensitivity
  | «public» | operator | restricted
deriving DecidableEq, Repr

structure StatusSource where
  adapterId : String
  owner : String
  authorityRevision : Nat
deriving DecidableEq

structure StatusCondition where
  family : ConditionFamily
  state : ConditionState
  reason : String
  message : String
  sourceTimeMs : Int
  receivedTimeMs : Int
  acceptedRevision : Nat
  freshUntilMs : Int
  source : StatusSource
  sensitivity : Sensitivity
  extensions : BTreeMap String JsonValue
deriving DecidableEq

instance : ValidateContract StatusCondition where
  violations condition :=
    requireNonempty condition.reason "reason" ++
    requireNonempty condition.message "message" ++
    requireNonempty condition.source.adapterId "source.adapter_id" ++
    requireNonempty condition.source.owner "source.owner" ++
    violationIf (condition.acceptedRevision = 0 ∨ condition.source.authorityRevision = 0)
      "invalid_revision" "accepted_revision" "accepted and authority revisions must be greater than zero" ++
    violationIf (condition.freshUntilMs < condition.receivedTimeMs)
      "invalid_freshness" "fresh_until_ms" "freshness deadline must not precede receive time" ++
    violationIf (condition.extensions.size > 32)
      "condition_too_large" "extensions" "status conditions support at most 32 extension fields"

inductive SupportState
  | supported | unsupported | unknown
deriving DecidableEq, Repr

inductive EnablementState
  | enabled | disabled | unknown
deriving DecidableEq, Repr

inductive AuthorizationState
  | authorized | unauthorized | restricted | unknown
deriving DecidableEq, Repr

inductive ReachabilityState
  | reachable | disconnected | unavailable | unknown
deriving DecidableEq, Repr

inductive FreshnessState
  | current | stale | unknown
deriving DecidableEq, Repr

structure CapabilityState where
  capabilityId : String
  support : SupportState
  enablement : EnablementState
  authorization : AuthorizationState
  reachability : ReachabilityState
  freshness : FreshnessState
  evidenceRevision : Nat
  observedAtMs : Int
  freshUntilMs : Int
  owner : String
  reason : String
  extensions : BTreeMap String JsonValue
deriving DecidableEq

def CapabilityState.isReady (capability : CapabilityState) : Bool :=
  capability.support == .supported && capability.enablement == .enabled &&
    capability.authorization == .authorized && capability.reachability == .reachable &&
    capability.freshness == .current

instance : ValidateContract CapabilityState where
  violations capability :=
    requireNonempty capability.capabilityId "capability_id" ++
    requireNonempty capability.owner "owner" ++
    requireNonempty capability.reason "reason" ++
    violationIf (capability.evidenceRevision = 0)
      "invalid_revision" "evidence_revision" "evidence revision must be greater than zero" ++
    violationIf (capability.freshUntilMs < capability.observedAtMs)
      "invalid_freshness" "fresh_until_ms" "freshness deadline must not precede observation time"

structure CapabilitySnapshot where
  capabilities : BTreeMap String CapabilityState
  extensions : BTreeMap String JsonValue
deriving DecidableEq

def CapabilitySnapshot.get (snapshot : CapabilitySnapshot) (capabilityId : String) : Option CapabilityState :=
  snapshot.capabilities[capabilityId]?

instance : ValidateContract CapabilitySnapshot where
  violations snapshot :=
    violationIf (snapshot.capabilities.size > 128 ∨ snapshot.extensions.size > 64)
      "capability_snapshot_too_large" "capabilities"
      "capability snapshots support at most 128 entries and 64 extension fields" ++
    snapshot.capabilities.toList.flatMap fun (key, capability) =>
      violationIf (key ≠ capability.capabilityId)
        "capability_key_mismatch" ("capabilities." ++ key) "map key must equal capability_id" ++
      (violations capability).map (·.within ("capabilities." ++ key ++ "."))

structure DeviceIdentity where
  deviceId : String
  identityRevision : Nat
  displayName : String
  model : String
  hardwareClass : String
  tags : BTreeMap String String
  extensions : BTreeMap String JsonValue
deriving DecidableEq

instance : ValidateContract DeviceIdentity where
  violations identity :=
    requireNonempty identity.deviceId "identity.device_id" ++
    requireNonempty identity.displayName "identity.display_name" ++
    requireNonempty identity.model "identity.model" ++
    requireNonempty identity.hardwareClass "identity.hardware_class" ++
    violationIf (identity.identityRevision = 0)
      "invalid_revision" "identity.identity_revision" "identity revision must be greater than zero" ++
    violationIf (BTreeMap.anyEntry identity.tags fun key value => trimmedEmpty key || trimmedEmpty value)
      "invalid_tag" "identity.tags" "tag keys and values must not be empty" ++
    violationIf (identity.tags.size > 128 ∨ identity.extensions.size > 64)
      "identity_too_large" "identity" "identity supports at most 128 tags and 64 extension fields"

inductive KioskState
  | active | inactive | mismatch | unknown
deriving DecidableEq, Repr

structure FactProvenance where
  owner : String
  adapterId : String
  observedAtMs : Int
  freshUntilMs : Int
deriving DecidableEq

instance : ValidateContract FactProvenance where
  violations provenance :=
    requireNonempty provenance.owner "owner" ++
    requireNonempty provenance.adapterId "adapter_id" ++
    violationIf (provenance.freshUntilMs < provenance.observedAtMs)
      "invalid_freshness" "fresh_until_ms" "fact freshness must not end before observation time"

structure PowerObservation where
  batteryPercent : Nat
  charging : Bool
  provenance : FactProvenance
deriving DecidableEq

instance : ValidateContract PowerObservation where
  violations power :=
    violationIf (power.batteryPercent > 100)
      "invalid_battery" "battery_percent" "battery percentage must be between 0 and 100" ++
    violations power.provenance

inductive ApplicationLifecycle
  | foreground | visible | background | stopped | unknown
deriving DecidableEq, Repr

inductive ForegroundState
  | foreground | background | unknown
deriving DecidableEq, Repr

inductive ForegroundAuthority
  | selfReport | participatingApp | platformLimited | unavailable
deriving DecidableEq, Repr

structure ApplicationObservation where
  packageName : Option String
  lifecycle : ApplicationLifecycle
  foregroundState : ForegroundState
  foregroundAuthority : ForegroundAuthority
  provenance : FactProvenance
deriving DecidableEq

instance : ValidateContract ApplicationObservation where
  violations application :=
    violationIf (application.packageName.any trimmedEmpty)
      "invalid_package" "package_name" "application package must be absent or nonempty" ++
    violationIf (application.foregroundAuthority = .unavailable ∧ application.foregroundState ≠ .unknown)
      "unsupported_foreground_claim" "foreground_state"
      "unavailable foreground authority may report only unknown state" ++
    violationIf ((application.foregroundAuthority = .selfReport ∨
        application.foregroundAuthority = .participatingApp) ∧ application.packageName = none)
      "missing_application_identity" "package_name"
      "self-reported and participating-app evidence must name its package" ++
    violations application.provenance

/-- A media stream descriptor, kept as its document. -/
structure StreamDescriptor where
  document : JsonValue
deriving DecidableEq

structure DeviceObservation where
  schema : String
  identity : DeviceIdentity
  sourceEpoch : String
  sourceRevision : Nat
  sourceTimeMs : Int
  receivedTimeMs : Int
  batteryPercent : Option Nat
  charging : Option Bool
  foregroundApp : Option String
  agent : Option ApplicationObservation
  power : Option PowerObservation
  application : Option ApplicationObservation
  kioskState : KioskState
  conditions : List StatusCondition
  capabilities : CapabilitySnapshot
  streams : List StreamDescriptor
  extensions : BTreeMap String JsonValue
deriving DecidableEq

/-- Serialisation and the floating-point stream contract, which the Hub only consults. -/
class ObservationCodec where
  streamViolations : StreamDescriptor → List ContractViolation
  encodedBytes : DeviceObservation → Option Nat

variable [ObservationCodec]

instance : ValidateContract StreamDescriptor where
  violations := ObservationCodec.streamViolations

/-- The failures of every element of a list, under the element's index. -/
def indexedViolations {α : Type} [ValidateContract α] (field : String) (values : List α) :
    List ContractViolation :=
  values.zipIdx.flatMap fun (value, index) =>
    (violations value).map (·.within (field ++ "[" ++ toString index ++ "]."))

def agentViolations (agent : ApplicationObservation) : List ContractViolation :=
  (violations agent).map (·.within "agent.") ++
  violationIf (agent.foregroundAuthority ≠ .selfReport)
    "invalid_agent_authority" "agent.foreground_authority"
    "Fleet Agent lifecycle evidence must be self-reported"

def powerViolations (observation : DeviceObservation) (power : PowerObservation) :
    List ContractViolation :=
  (violations power).map (·.within "power.") ++
  violationIf (observation.batteryPercent.any (· != power.batteryPercent) ∨
      observation.charging.any (· != power.charging))
    "power_projection_mismatch" "power"
    "legacy power fields must agree with the provenance-bearing power fact"

def applicationViolations (observation : DeviceObservation) (application : ApplicationObservation) :
    List ContractViolation :=
  (violations application).map (·.within "application.") ++
  violationIf (observation.foregroundApp.any fun value => application.packageName != some value)
    "application_projection_mismatch" "application.package_name"
    "legacy foreground application must agree with the provenance-bearing application fact"

instance : ValidateContract DeviceObservation where
  violations observation :=
    violationIf (observation.schema ≠ "rusty.fleet.device_observation.v1")
      "wrong_schema" "schema" "expected rusty.fleet.device_observation.v1" ++
    violations observation.identity ++
    requireNonempty observation.sourceEpoch "source_epoch" ++
    violationIf (observation.sourceRevision = 0)
      "invalid_revision" "source_revision" "source revision must be greater than zero" ++
    violationIf (observation.batteryPercent.any (· > 100))
      "invalid_battery" "battery_percent" "battery percentage must be between 0 and 100" ++
    (observation.agent.map agentViolations).getD [] ++
    (observation.power.map (powerViolations observation)).getD [] ++
    (observation.application.map (applicationViolations observation)).getD [] ++
    violationIf (observation.conditions.length > 64 ∨ observation.streams.length > 32 ∨
        observation.capabilities.capabilities.size > 128 ∨ observation.extensions.size > 64)
      "observation_too_large" "observation" "observation collection limits were exceeded" ++
    violationIf ((ObservationCodec.encodedBytes observation).any (· > 2 * 1024 * 1024))
      "observation_bytes_exceeded" "observation"
      "serialized observation exceeds the 2 MiB contract limit" ++
    indexedViolations "conditions" observation.conditions ++
    violations observation.capabilities ++
    indexedViolations "streams" observation.streams

omit [ObservationCodec] in
theorem indexedViolations_nil {α : Type} [ValidateContract α] (field : String) (values : List α)
    (clear : indexedViolations field values = []) : ∀ value ∈ values, Valid value := by
  intro value member
  obtain ⟨index, bound, rfl⟩ := List.getElem_of_mem member
  simp only [indexedViolations, List.flatMap_eq_nil_iff, List.map_eq_nil_iff] at clear
  exact clear (values[index], index) (List.mem_zipIdx_iff_getElem?.mpr (by simp))

/-- What the Hub relies on in an observation it accepts. -/
theorem observation_valid_facts (observation : DeviceObservation) (valid : Valid observation) :
    trimmedEmpty observation.identity.deviceId = false ∧ 0 < observation.identity.identityRevision ∧
      trimmedEmpty observation.sourceEpoch = false ∧ 0 < observation.sourceRevision ∧
      ∀ condition ∈ observation.conditions, Valid condition := by
  simp only [Valid, violations, List.append_eq_nil_iff, requireNonempty_nil, violationIf_nil] at valid
  obtain ⟨⟨⟨⟨⟨⟨⟨⟨⟨⟨⟨⟨_, identity⟩, epoch⟩, revision⟩, _⟩, _⟩, _⟩, _⟩, _⟩, _⟩, conditions⟩, _⟩, _⟩ := valid
  exact ⟨by tauto, by omega, epoch, by omega, indexedViolations_nil _ _ conditions⟩

end RustyFleet

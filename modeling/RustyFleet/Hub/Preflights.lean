import RustyFleet.Hub.State

namespace RustyFleet

/-- How one operation family reads its capability evidence off a device record. -/
structure EvidenceProfile where
  capabilityId : String
  owner : String
  unavailable : String
  wrongOwnerMessage : String
  absentMessage : String

structure CapabilityFacts where
  evidenceRevision : Nat
  support : SupportState
  enablement : EnablementState
  authorization : AuthorizationState
  reachability : ReachabilityState
  freshness : FreshnessState
  observedAtMs : Int
  freshUntilMs : Int
  message : String

def CapabilityFacts.unknown (evidenceRevision : Nat) (observedAtMs freshUntilMs : Int)
    (message : String) : CapabilityFacts where
  evidenceRevision := evidenceRevision
  support := .unknown
  enablement := .unknown
  authorization := .unknown
  reachability := .unknown
  freshness := .unknown
  observedAtMs := observedAtMs
  freshUntilMs := freshUntilMs
  message := message

namespace EvidenceProfile

variable (profile : EvidenceProfile)

def facts (observation : DeviceObservation) : CapabilityFacts :=
  match observation.capabilities.get profile.capabilityId with
  | some capability =>
    if capability.owner = profile.owner then
      { evidenceRevision := capability.evidenceRevision
        support := capability.support
        enablement := capability.enablement
        authorization := capability.authorization
        reachability := capability.reachability
        freshness := capability.freshness
        observedAtMs := capability.observedAtMs
        freshUntilMs := capability.freshUntilMs
        message := capability.reason }
    else
      .unknown capability.evidenceRevision capability.observedAtMs capability.freshUntilMs
        profile.wrongOwnerMessage
  | none =>
    .unknown observation.sourceRevision observation.receivedTimeMs observation.receivedTimeMs
      profile.absentMessage

/-- The facts after the Hub's own age rules for a device it has not heard of lately. -/
def agedFacts (policy : HubPolicy) (record : DeviceRecord) (evaluatedAtMs : Int) : CapabilityFacts :=
  let facts := profile.facts record.observation
  let ageMs := FleetHub.observationAgeMs record evaluatedAtMs
  { facts with
    reachability := if ageMs > policy.offlineAfterMs then .disconnected else facts.reachability
    freshness := if ageMs > policy.staleAfterMs then .stale else facts.freshness }

end EvidenceProfile

/-- A preflight whose verdict is derived from its own facts. -/
def TargetPreflight.judged (unavailable : String) (preflight : TargetPreflight) : TargetPreflight :=
  { preflight with
    eligible := preflight.expectedEligibility unavailable
    reasonCode := preflight.expectedReasonCode unavailable }

def frozenPreflight (profile : EvidenceProfile) (policy : HubPolicy) (record : DeviceRecord)
    (evaluatedAtMs : Int) : TargetPreflight :=
  let facts := profile.agedFacts policy record evaluatedAtMs
  TargetPreflight.judged profile.unavailable
    { deviceId := record.observation.identity.deviceId
      identityRevision := record.observation.identity.identityRevision
      capabilityId := profile.capabilityId
      capabilityEvidenceRevision := facts.evidenceRevision
      capabilityOwner := profile.owner
      support := facts.support
      enablement := facts.enablement
      authorization := facts.authorization
      reachability := facts.reachability
      freshness := facts.freshness
      observedAtMs := facts.observedAtMs
      freshUntilMs := facts.freshUntilMs
      evaluatedAtMs := evaluatedAtMs
      eligible := false
      reasonCode := ""
      message := facts.message }

/-- Everything a preflight froze is still so, its evaluation time apart. -/
def sameFrozenFacts (unavailable : String) (frozen current : TargetPreflight) : Prop :=
  frozen.deviceId = current.deviceId ∧ frozen.identityRevision = current.identityRevision ∧
    frozen.capabilityId = current.capabilityId ∧
    frozen.capabilityEvidenceRevision = current.capabilityEvidenceRevision ∧
    frozen.capabilityOwner = current.capabilityOwner ∧ frozen.support = current.support ∧
    frozen.enablement = current.enablement ∧ frozen.authorization = current.authorization ∧
    frozen.reachability = current.reachability ∧ frozen.freshness = current.freshness ∧
    frozen.observedAtMs = current.observedAtMs ∧ frozen.freshUntilMs = current.freshUntilMs ∧
    frozen.message = current.message ∧ frozen.eligible = current.expectedEligibility unavailable ∧
    frozen.reasonCode = current.expectedReasonCode unavailable

instance (unavailable : String) (frozen current : TargetPreflight) :
    Decidable (sameFrozenFacts unavailable frozen current) :=
  inferInstanceAs (Decidable (_ ∧ _))

/-- The refusals for a requested target the directory does not hold at that identity revision. -/
structure RequestedTargetTexts where
  notFoundCode : String
  notFound : String → String
  mismatchCode : String
  mismatch : String → Nat → Nat → String

def FleetHub.requestedRecord (hub : FleetHub) (texts : RequestedTargetTexts) (deviceId : String)
    (identityRevision : Nat) : HubResult DeviceRecord := do
  let record ← orRefuse hub.devices[deviceId]? texts.notFoundCode (texts.notFound deviceId)
  let current := record.observation.identity.identityRevision
  rejectIf (current ≠ identityRevision) texts.mismatchCode
    (texts.mismatch deviceId identityRevision current)
  return record

/-- One preflight for each requested target, in device order; the first refusal ends the loop. -/
def FleetHub.requestedPreflights (hub : FleetHub) (texts : RequestedTargetTexts)
    (preflight : String → DeviceRecord → HubResult TargetPreflight) :
    List (String × Nat) → HubResult (List TargetPreflight)
  | [] => .ok []
  | (deviceId, identityRevision) :: rest => do
    let record ← hub.requestedRecord texts deviceId identityRevision
    let current ← preflight deviceId record
    let later ← hub.requestedPreflights texts preflight rest
    return current :: later

/-- `code:path` for every failure, comma separated. -/
def failureSummary (failures : List ContractViolation) : String :=
  ",".intercalate (failures.map fun failure => failure.code ++ ":" ++ failure.path)

end RustyFleet

import Mathlib.Data.List.Dedup
import RustyFleet.Provider.Identifiers
import RustyFleet.Provider.Timestamps

namespace RustyFleet

namespace ProviderCatalog

def discoverySchema := "rusty.quest.workflow.provider_capability_discovery.v1"

inductive ActionKind
  | observe
  | effect
  | cleanup
deriving DecidableEq

inductive AuthenticationRequirement
  | none
  | processAccessControl
  | callerAuthorityExternal
  | exactTargetBinding
  | currentIdentityRevision
  | effectOwnerProfile
  | ownerSessionGrant
  | wearerApproval
  | ownershipGeneration
deriving DecidableEq

structure ExpectedAction where
  id : String
  kind : ActionKind
  authenticationRequirements : List AuthenticationRequirement
deriving DecidableEq

structure ExpectedCapability where
  id : String
  contractVersions : List String
  actions : List ExpectedAction
  effectOwner : String
  receiptSchema : String
deriving DecidableEq

structure ProviderCatalogConfig where
  catalogId : String
  executablePath : Option String
  executableSha256 : Option String
  expectedProviderId : String
  expectedProviderVersion : String
  expectedCapabilities : List ExpectedCapability

structure DiscoveryProvider where
  id : String
  version : String

inductive AvailabilityStatus
  | descriptorAvailable
  | unavailable
  | disabled
deriving DecidableEq

structure DiscoveryAvailability where
  status : AvailabilityStatus
  observedAtUtc : String
  expiresAtUtc : String
  maximumAgeSeconds : Nat

structure DiscoveryAction where
  id : String
  kind : ActionKind
  authenticationRequirements : List AuthenticationRequirement
deriving DecidableEq

structure DiscoveryCapability where
  id : String
  contractVersions : List String
  actions : List DiscoveryAction
  effectOwner : String
  receiptSchema : String
  exclusions : List String
deriving DecidableEq

structure ProviderCapabilityDiscovery where
  schema : String
  provider : DiscoveryProvider
  availability : DiscoveryAvailability
  descriptionAuthentication : String
  authorizesExecution : Bool
  targetSpecific : Bool
  capabilities : List DiscoveryCapability
  exclusions : List String

abbrev refuseIf (condition : Prop) [Decidable condition] (code message : String) : CatalogResult Unit :=
  errorIf condition (.refused ⟨code, message⟩)

/-- A loop that inserts the key of each item into a set; the check sees whether the key was new. -/
def forEachInserted {α : Type} (key : α → String) (check : Bool → α → CatalogResult Unit) (seen : List String) :
    List α → CatalogResult Unit
  | [] => .ok ()
  | item :: rest => do
    check (!seen.contains (key item)) item
    forEachInserted key check (key item :: seen) rest

/-- The number of values once they are collected into a `BTreeSet`. -/
def distinctCount {α : Type} [DecidableEq α] (values : List α) : Nat := values.dedup.length

def boundedExclusions (values : List String) : Bool :=
  !values.isEmpty && values.length ≤ 32 &&
    values.all (fun value => portableIdentifier value 3 128 false &&
      value.toList.all fun c => asciiLowercase c || asciiDigit c || c == '.' || c == '-') &&
    distinctCount values == values.length

section Config

def validateExpectedContract (inserted : Bool) (contract : String) : CatalogResult Unit :=
  refuseIf (¬ safeDiscoveryIdentifier contract ∨ ¬ inserted)
    "catalog_config_invalid" "expected contract binding is invalid"

def validateExpectedAction (inserted : Bool) (action : ExpectedAction) : CatalogResult Unit :=
  refuseIf (¬ safeDiscoveryIdentifier action.id ∨ ¬ inserted ∨ action.authenticationRequirements.isEmpty ∨
      action.authenticationRequirements.length > 8 ∨
      distinctCount action.authenticationRequirements ≠ action.authenticationRequirements.length ∨
      (action.authenticationRequirements.contains .none ∧ action.authenticationRequirements.length ≠ 1))
    "catalog_config_invalid" "expected action binding is invalid"

def validateExpectedCapability (inserted : Bool) (capability : ExpectedCapability) : CatalogResult Unit := do
  refuseIf (¬ safeDiscoveryIdentifier capability.id ∨ ¬ safeDiscoveryIdentifier capability.effectOwner ∨
      ¬ safeDiscoveryIdentifier capability.receiptSchema ∨ ¬ inserted ∨ capability.contractVersions.isEmpty ∨
      capability.contractVersions.length > 8 ∨ capability.actions.isEmpty ∨ capability.actions.length > 64)
    "catalog_config_invalid" "expected capability binding is invalid"
  forEachInserted id validateExpectedContract [] capability.contractVersions
  forEachInserted ExpectedAction.id validateExpectedAction [] capability.actions

/-- `Path::is_absolute` depends on the platform. -/
def validateExecutable (isAbsolute : String → Bool) : Option String → Option String → CatalogResult Unit
  | none, none => .ok ()
  | some path, some digest =>
    refuseIf (¬ (isAbsolute path ∧ isLowerSha256 digest))
      "catalog_config_invalid" "provider path and lowercase SHA-256 must be configured together"
  | _, _ => refuse ⟨"catalog_config_invalid", "provider path and lowercase SHA-256 must be configured together"⟩

def ProviderCatalogConfig.validate (isAbsolute : String → Bool) (config : ProviderCatalogConfig) :
    CatalogResult Unit := do
  refuseIf (¬ portableIdentifier config.catalogId 3 160 false ∨
      ¬ safeDiscoveryIdentifier config.expectedProviderId ∨ ¬ semanticVersion config.expectedProviderVersion ∨
      config.expectedCapabilities.isEmpty ∨ config.expectedCapabilities.length > 64)
    "catalog_config_invalid" "catalog identity, version, or capability expectations are invalid"
  validateExecutable isAbsolute config.executablePath config.executableSha256
  forEachInserted ExpectedCapability.id validateExpectedCapability [] config.expectedCapabilities

end Config

section Descriptor

def validateContract (inserted : Bool) (contract : String) : CatalogResult Unit :=
  refuseIf (¬ safeDiscoveryIdentifier contract ∨ ¬ inserted)
    "descriptor_contract_binding_rejected" "descriptor contract identifiers are invalid or duplicated"

def validateAction (inserted : Bool) (action : DiscoveryAction) : CatalogResult Unit := do
  refuseIf (¬ inserted ∨ ¬ safeDiscoveryIdentifier action.id ∨ action.authenticationRequirements.isEmpty ∨
      action.authenticationRequirements.length > 8)
    "descriptor_action_rejected" "descriptor action semantics are invalid"
  refuseIf (distinctCount action.authenticationRequirements ≠ action.authenticationRequirements.length ∨
      (action.authenticationRequirements.contains .none ∧ action.authenticationRequirements.length ≠ 1))
    "descriptor_authentication_rejected" "descriptor authentication requirements are invalid"

def validateCapability (inserted : Bool) (capability : DiscoveryCapability) : CatalogResult Unit := do
  refuseIf (¬ inserted ∨ ¬ safeDiscoveryIdentifier capability.id ∨
      ¬ safeDiscoveryIdentifier capability.effectOwner ∨ ¬ safeDiscoveryIdentifier capability.receiptSchema ∨
      capability.contractVersions.isEmpty ∨ capability.contractVersions.length > 8 ∨
      capability.actions.isEmpty ∨ capability.actions.length > 64 ∨ ¬ boundedExclusions capability.exclusions)
    "descriptor_capability_rejected" "descriptor capability semantics are invalid"
  forEachInserted id validateContract [] capability.contractVersions
  forEachInserted DiscoveryAction.id validateAction [] capability.actions

def validateBinding (capabilities : List DiscoveryCapability) (expected : ExpectedCapability) :
    CatalogResult Unit :=
  match capabilities.find? (·.id == expected.id) with
  | none => refuse ⟨"descriptor_expected_capability_mismatch", "an expected capability is absent"⟩
  | some actual =>
    refuseIf (actual.effectOwner ≠ expected.effectOwner ∨ actual.receiptSchema ≠ expected.receiptSchema ∨
        actual.contractVersions.length ≠ expected.contractVersions.length ∨
        ¬ expected.contractVersions.all (actual.contractVersions.contains ·) ∨
        actual.actions.length ≠ expected.actions.length ∨
        expected.actions.any fun action => !actual.actions.any fun candidate =>
          candidate.id == action.id && candidate.kind == action.kind &&
            candidate.authenticationRequirements == action.authenticationRequirements)
      "descriptor_expected_binding_mismatch" "capability, action, contract, owner, or receipt binding differs"

def validateFreshness (maximumAgeSeconds : Nat) (observed expires : Int) : CatalogResult Unit :=
  if maximumAgeSeconds = 0 ∨ maximumAgeSeconds > 600 ∨ expires ≤ observed then
    refuse ⟨"descriptor_freshness_rejected", "descriptor freshness interval is invalid"⟩
  else do
    let interval ← i128 (expires - observed)
    let maximumAge ← i128 (maximumAgeSeconds * 10000000)
    refuseIf (interval ≠ maximumAge) "descriptor_freshness_rejected" "descriptor freshness interval is invalid"

def parseTimestamp (value : String) : CatalogResult Int := parseRfc3339Ticks value.toUTF8.toList

def validateDescriptor (descriptor : ProviderCapabilityDiscovery) (config : ProviderCatalogConfig)
    (nowTicks : Int) : CatalogResult Unit := do
  refuseIf (descriptor.schema ≠ discoverySchema ∨ descriptor.descriptionAuthentication ≠ "none" ∨
      descriptor.authorizesExecution ∨ descriptor.targetSpecific)
    "descriptor_contract_rejected" "descriptor header is not inert discovery v1"
  refuseIf (descriptor.availability.status ≠ .descriptorAvailable)
    "descriptor_availability_not_valid" "provider described itself as unavailable or disabled"
  refuseIf (¬ safeDiscoveryIdentifier descriptor.provider.id ∨ ¬ semanticVersion descriptor.provider.version ∨
      descriptor.provider.id ≠ config.expectedProviderId ∨
      descriptor.provider.version ≠ config.expectedProviderVersion)
    "descriptor_provider_binding_rejected" "provider identity or version does not match its machine-local pin"
  let observed ← parseTimestamp descriptor.availability.observedAtUtc
  let expires ← parseTimestamp descriptor.availability.expiresAtUtc
  validateFreshness descriptor.availability.maximumAgeSeconds observed expires
  refuseIf (observed > nowTicks) "descriptor_future_observation" "descriptor observation is in the future"
  refuseIf (descriptor.capabilities.isEmpty ∨ descriptor.capabilities.length > 64 ∨
      descriptor.exclusions.isEmpty ∨ descriptor.exclusions.length > 32 ∨
      ¬ boundedExclusions descriptor.exclusions)
    "descriptor_structure_rejected" "descriptor collection bounds are invalid"
  forEachInserted DiscoveryCapability.id validateCapability [] descriptor.capabilities
  refuseIf (descriptor.capabilities.length ≠ config.expectedCapabilities.length)
    "descriptor_expected_capability_mismatch"
    "descriptor capability set differs from its machine-local expectation"
  config.expectedCapabilities.forM (validateBinding descriptor.capabilities)
  refuseIf (expires ≤ nowTicks) "descriptor_stale" "descriptor has expired"

end Descriptor

end ProviderCatalog

end RustyFleet

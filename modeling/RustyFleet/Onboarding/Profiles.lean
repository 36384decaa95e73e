import RustyFleet.Contracts.CheckIn
import RustyFleet.Contracts.Text
import RustyFleet.Support.SocketAddrs

namespace RustyFleet

namespace Onboarding

open Net

def requestSchema := "rusty.fleet.offline_onboarding_request.v1"
def profileSchema := "rusty.quest.fleet_agent_profile.v1"
def keyRecordSchema := "rusty.quest.fleet_agent_key_record.v1"

structure HubRequest where
  bind : String
  checkinBind : String
  stateDirectory : String
  operatorId : String
  requestIdPrefix : String
  credentialValidFromMs : Nat
  credentialExpiresAtMs : Nat

structure DeviceRequest where
  deviceId : String
  displayName : String
  model : String
  hardwareClass : String
  identityRevision : Nat
  expectedAuthorityRevision : Nat
  statusRevision : Nat
  sourceRevision : Nat
  sourceEpoch : String
  keyId : String
  keyGeneration : Nat
  trustDomain : String
  checkinTtlMs : Nat
  checkinIntervalMs : Nat
  hubEndpoint : String
  tags : BTreeMap String String

structure Request where
  schema : String
  outputRoot : String
  toolManifest : String
  hub : HubRequest
  devices : List DeviceRequest

structure KeyRecord where
  schema : String
  keyId : String
  publicKeyHex : String
  keyFingerprint : String

structure QuestFleetAgentProfileV1 where
  schema : String
  enabled : Bool
  deviceId : String
  displayName : String
  model : String
  hardwareClass : String
  identityRevision : Nat
  expectedAuthorityRevision : Nat
  statusRevision : Nat
  sourceRevision : Nat
  sourceEpoch : String
  keyId : String
  keyFingerprint : String
  trustDomain : String
  checkinTtlMs : Nat
  checkinIntervalMs : Nat
  hubEndpoint : String
  tags : BTreeMap String String

/-- The platform's paths and address parser, and SHA-256 in lowercase hexadecimal. -/
class OnboardingEnvironment where
  isAbsolute : String → Bool
  validateExternalPath : String → Except String Unit
  parseSocketAddr : String → Option SocketAddr
  hash : Bytes → String

open OnboardingEnvironment

def dottedChar (c : Char) : Bool := asciiAlphanumeric c || c == '-' || c == '_'

def dottedPart (part : List Char) : Bool :=
  !part.isEmpty && (String.ofList part).utf8ByteSize ≤ 64 && part.all dottedChar

def dotted (value : String) : Bool :=
  !value.isEmpty && value.utf8ByteSize ≤ 256 && (splitSegments '.' value.toList).all dottedPart

section Requests

/-- The identifiers of the devices read so far, as they are written and in ASCII lower case. -/
structure UsedIds where
  devices : List String
  foldedDevices : List String
  keys : List String
  foldedKeys : List String

def UsedIds.insert (used : UsedIds) (device : DeviceRequest) : UsedIds where
  devices := device.deviceId :: used.devices
  foldedDevices := toAsciiLowercase device.deviceId :: used.foldedDevices
  keys := device.keyId :: used.keys
  foldedKeys := toAsciiLowercase device.keyId :: used.foldedKeys

def UsedIds.contains (used : UsedIds) (device : DeviceRequest) : Bool :=
  used.devices.contains device.deviceId || used.foldedDevices.contains (toAsciiLowercase device.deviceId) ||
    used.keys.contains device.keyId || used.foldedKeys.contains (toAsciiLowercase device.keyId)

def DeviceRequest.accepted (exactEndpoint : String) (device : DeviceRequest) : Bool :=
  dotted device.deviceId && dotted device.keyId && dotted device.trustDomain && dotted device.sourceEpoch &&
    !trimmedEmpty device.displayName && !trimmedEmpty device.model && !trimmedEmpty device.hardwareClass &&
    device.identityRevision != 0 && device.expectedAuthorityRevision != 0 && device.statusRevision != 0 &&
    device.sourceRevision != 0 && device.keyGeneration != 0 &&
    (10000 ≤ device.checkinTtlMs && device.checkinTtlMs ≤ 300000) &&
    (5000 ≤ device.checkinIntervalMs && device.checkinIntervalMs < device.checkinTtlMs) &&
    device.hubEndpoint == exactEndpoint && device.tags.size ≤ 64 &&
    !BTreeMap.anyEntry device.tags fun key value =>
      trimmedEmpty key || trimmedEmpty value || key.utf8ByteSize > 128 || value.utf8ByteSize > 256

def validateDevices (exactEndpoint : String) (used : UsedIds) : List DeviceRequest → Except String Unit
  | [] => .ok ()
  | device :: rest => do
    errorIf (used.contains device ∨ ¬ device.accepted exactEndpoint) "invalid_device_configuration"
    validateDevices exactEndpoint (used.insert device) rest

def exactEndpoint (checkinBind : SocketAddr) : String :=
  String.ofList ("http://".toList ++ checkinBind.display ++ "/fleet/v1/checkins".toList)

variable [OnboardingEnvironment]

def parseBind (text : String) : Except String SocketAddr :=
  match parseSocketAddr text with
  | none => .error "invalid_hub_configuration"
  | some address => .ok address

def validateRequest (request : Request) : Except String Unit := do
  errorIf (request.schema ≠ requestSchema ∨ ¬ isAbsolute request.outputRoot ∨
      ¬ isAbsolute request.toolManifest ∨ ¬ isAbsolute request.hub.stateDirectory ∨
      request.devices.isEmpty ∨ request.devices.length > 1000)
    "invalid_request"
  validateExternalPath request.outputRoot
  validateExternalPath request.toolManifest
  validateExternalPath request.hub.stateDirectory
  let operatorBind ← parseBind request.hub.bind
  let checkinBind ← parseBind request.hub.checkinBind
  errorIf (¬ operatorBind.ip.isLoopback ∨ checkinBind.ip.isLoopback ∨ checkinBind.ip.isUnspecified ∨
      checkinBind.ip.isMulticast ∨ checkinBind.ip.display = "255.255.255.255".toList ∨
      operatorBind = checkinBind ∨ request.hub.credentialValidFromMs ≥ request.hub.credentialExpiresAtMs ∨
      request.hub.credentialExpiresAtMs > i64Max ∨ ¬ dotted request.hub.operatorId ∨
      ¬ dotted request.hub.requestIdPrefix)
    "invalid_hub_configuration"
  validateDevices (exactEndpoint checkinBind) ⟨[], [], [], []⟩ request.devices

end Requests

section KeyRecords

def fingerprintPrefix := "fingerprint."

def hexValue (c : Char) : Option Nat :=
  if asciiDigit c then some (c.toNat - '0'.toNat)
  else if 'a' ≤ c ∧ c ≤ 'f' then some (c.toNat - 'a'.toNat + 10)
  else if 'A' ≤ c ∧ c ≤ 'F' then some (c.toNat - 'A'.toNat + 10)
  else none

/-- `hex::decode`: pairs of digits of either case. -/
def hexDecode : List Char → Option Bytes
  | [] => some []
  | [_] => none
  | high :: low :: rest => do
    let high ← hexValue high
    let low ← hexValue low
    let bytes ← hexDecode rest
    some (UInt8.ofNat (high * 16 + low) :: bytes)

def validateKeyRecord [OnboardingEnvironment] (record : KeyRecord) (expectedKeyId : String) :
    Except String Unit := do
  errorIf (record.schema ≠ keyRecordSchema ∨ record.keyId ≠ expectedKeyId ∨
      record.publicKeyHex.utf8ByteSize ≠ 64 ∨ ¬ record.publicKeyHex.toList.all isLowerHexDigit ∨
      ¬ fingerprintPrefix.toList.isPrefixOf record.keyFingerprint.toList ∨
      record.keyFingerprint.utf8ByteSize ≠ fingerprintPrefix.utf8ByteSize + 64 ∨
      ¬ (record.keyFingerprint.toList.drop fingerprintPrefix.length).all isLowerHexDigit)
    "malicious_key_tool_output"
  match hexDecode record.publicKeyHex.toList with
  | none => .error "malicious_key_tool_output"
  | some bytes => errorIf (record.keyFingerprint ≠ fingerprintPrefix ++ OnboardingEnvironment.hash bytes) "malicious_key_tool_output"

end KeyRecords

section Profiles

/-- The profile `generate` writes for a device. -/
def DeviceRequest.profile (device : DeviceRequest) (keyRecord : KeyRecord) : QuestFleetAgentProfileV1 where
  schema := profileSchema
  enabled := true
  deviceId := device.deviceId
  displayName := device.displayName
  model := device.model
  hardwareClass := device.hardwareClass
  identityRevision := device.identityRevision
  expectedAuthorityRevision := device.expectedAuthorityRevision
  statusRevision := device.statusRevision
  sourceRevision := device.sourceRevision
  sourceEpoch := device.sourceEpoch
  keyId := device.keyId
  keyFingerprint := keyRecord.keyFingerprint
  trustDomain := device.trustDomain
  checkinTtlMs := device.checkinTtlMs
  checkinIntervalMs := device.checkinIntervalMs
  hubEndpoint := device.hubEndpoint
  tags := device.tags

/-- The texts of a profile that must not be blank. -/
def QuestFleetAgentProfileV1.texts (profile : QuestFleetAgentProfileV1) : List String :=
  [profile.deviceId, profile.displayName, profile.model, profile.hardwareClass, profile.sourceEpoch,
    profile.keyId, profile.keyFingerprint, profile.trustDomain, profile.hubEndpoint]

def QuestFleetAgentProfileV1.endpoint (profile : QuestFleetAgentProfileV1) : List Char :=
  (toAsciiLowercase profile.hubEndpoint).toList

def validateQuestProfile (profile : QuestFleetAgentProfileV1) : Except String Unit := do
  errorIf (profile.schema ≠ profileSchema ∨ ¬ profile.enabled) "invalid_generated_quest_profile"
  errorIf (profile.texts.any trimmedEmpty) "invalid_generated_quest_profile"
  errorIf (¬ dotted profile.deviceId ∨ ¬ dotted profile.keyId ∨ ¬ dotted profile.keyFingerprint ∨
      ¬ dotted profile.trustDomain ∨ profile.identityRevision = 0 ∨ profile.expectedAuthorityRevision = 0 ∨
      profile.statusRevision = 0 ∨ profile.sourceRevision = 0 ∨
      ¬ (10000 ≤ profile.checkinTtlMs ∧ profile.checkinTtlMs ≤ 300000) ∨
      ¬ (5000 ≤ profile.checkinIntervalMs ∧ profile.checkinIntervalMs < profile.checkinTtlMs))
    "invalid_generated_quest_profile"
  errorIf (¬ ("http://".toList.isPrefixOf profile.endpoint ∨ "https://".toList.isPrefixOf profile.endpoint) ∨
      profile.endpoint.contains '@' ∨ profile.endpoint.contains '#' ∨
      BTreeMap.anyEntry profile.tags fun key value => trimmedEmpty key || trimmedEmpty value)
    "invalid_generated_quest_profile"

end Profiles

end Onboarding

end RustyFleet

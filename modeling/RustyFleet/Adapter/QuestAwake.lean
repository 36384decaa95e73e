import RustyFleet.Contracts.Awake

namespace RustyFleet

namespace QuestAwakeAdapter

def questAwakeProviderContract := "questionable.file_manager.fleet_awake_provider.v1"
def maxProviderOutputBytes := 65536

structure QuestAwakeAdapterError where
  code : String
  message : String
deriving DecidableEq

/-- How an invocation ends without a receipt: with its error, or stopped by Rust's checks. -/
inductive AdapterFault
  | refused (error : QuestAwakeAdapterError)
  | panicked
deriving DecidableEq

abbrev AdapterResult := Except AdapterFault

abbrev QuestAwakeOwnerInvocation := OwnerInvocation QuestAwakeAction QuestAwakePolicy String

structure ProviderRequest where
  contractVersion : String
  requestId : String
  operationId : String
  previewId : String
  deviceId : String
  identityRevision : Nat
  action : String
  durationMilliseconds : Nat
  watchdogIntervalMilliseconds : Nat
  watchdogGeneration : String
  issuedAtUnixMilliseconds : Int
  expiresAtUnixMilliseconds : Int
  serial : String

structure ProviderPowerReadback where
  wakefulness : String
  displayState : String
  stayOn : Bool
  autoSleepDisabled : Option Bool
  proximityState : String
  proximityHoldDurationMilliseconds : Option Nat
  proximityHoldRemainingMilliseconds : Option Nat
  capturedAtUnixMilliseconds : Int

structure ProviderWatchdogReadback where
  reportedActive : Bool
  fresh : Bool
  generation : String
  bootId : String
  intervalMilliseconds : Nat
  lastPollUnixMilliseconds : Int
  proximityRepairCount : Nat
  stayOnRepairCount : Nat
  wakeRepairCount : Nat
  lastAction : String
  lastError : String

structure ProviderReceipt where
  schema : String
  contractVersion : String
  requestId : String
  operationId : String
  previewId : String
  deviceId : String
  identityRevision : Nat
  action : String
  watchdogGeneration : String
  requestedDurationMilliseconds : Nat
  requestedWatchdogIntervalMilliseconds : Nat
  stayOnEffective : Bool
  proximityHoldEffective : Bool
  wakeEffective : Bool
  deviceWatchdogEffective : Bool
  settingsRestored : Bool
  effective : Bool
  settingsLeftUnchanged : Bool
  outcome : String
  repairCount : Nat
  powerReadback : ProviderPowerReadback
  deviceWatchdog : ProviderWatchdogReadback
  evidenceSha256 : String
  observedAtUnixMilliseconds : Int

structure ProviderResponse where
  contractVersion : String
  status : String
  receipt : Option ProviderReceipt
  error : Option String
  message : Option String

/-- What the adapter uses of its surroundings: the two readings of the system clock in milliseconds and nanoseconds,
the process, SHA-256 in lowercase hexadecimal, serde's encoder and decoder, and the configured provider. -/
class AwakeEnvironment where
  clockMs : Except String Nat
  clockNanos : Except String Nat
  processId : Nat
  stageSequence : Nat
  sha256Hex : List UInt8 → String
  encodeRequest : ProviderRequest → Except String (List UInt8)
  decodeResponse : List UInt8 → Except String ProviderResponse
  transport : List UInt8 → String → Except QuestAwakeAdapterError (List UInt8)

def refuse {α : Type} (code message : String) : AdapterResult α := .error (.refused ⟨code, message⟩)

abbrev refuseIf (condition : Prop) [Decidable condition] (code message : String) : AdapterResult Unit :=
  errorIf condition (.refused ⟨code, message⟩)

/-- `map_err` with a text in front of the error's own. -/
abbrev orRefuse {α : Type} (code text : String) (value : Except String α) : AdapterResult α :=
  value.mapError fun error => .refused ⟨code, text ++ error⟩

def providerAction : QuestAwakeAction → String
  | .status => "status"
  | .applyBounded => "applyBounded"
  | .startWindowsWatchdog => "repairOnce"
  | .startDeviceWatchdog => "startDeviceWatchdog"
  | .stopWatchdogs => "stopWatchdogs"
  | .restoreNormal => "restoreNormal"

def violationTexts (failures : List ContractViolation) : String :=
  String.intercalate "; " (failures.map fun failure => failure.path ++ ":" ++ failure.code)

section Request

variable [AwakeEnvironment]

/-- The window of the provider request; the watchdog on Windows repeats it from the current time. -/
def requestWindow (invocation : QuestAwakeOwnerInvocation) : AdapterResult (Int × Int) :=
  if invocation.action = .startWindowsWatchdog then do
    let current ← orRefuse "clock_invalid" "system clock precedes Unix epoch: " AwakeEnvironment.clockMs
    if (current : Int) > i64Max then refuse "clock_invalid" "system time is not representable"
    else if (current : Int) + 60000 > i64Max then .error .panicked
    else return (current, current + 60000)
  else pure (invocation.issuedAtMs, invocation.expiresAtMs)

def providerRequest (invocation : QuestAwakeOwnerInvocation) (serial : String) (window : Int × Int) :
    ProviderRequest where
  contractVersion := questAwakeProviderContract
  requestId := invocation.requestId
  operationId := invocation.operationId
  previewId := invocation.previewId
  deviceId := invocation.deviceId
  identityRevision := invocation.identityRevision
  action := providerAction invocation.action
  durationMilliseconds := invocation.policy.durationMs
  watchdogIntervalMilliseconds := invocation.policy.watchdogIntervalMs
  watchdogGeneration := invocation.watchdogGeneration
  issuedAtUnixMilliseconds := window.1
  expiresAtUnixMilliseconds := window.2
  serial := serial

def shortDigest (value : String) : String :=
  String.ofList ((AwakeEnvironment.sha256Hex value.toUTF8.toList).toList.take 24)

def uniqueStageId (requestId : String) : AdapterResult String := do
  let nonce ← orRefuse "clock_invalid" "system clock precedes Unix epoch: " AwakeEnvironment.clockNanos
  return "awake-" ++ shortDigest requestId ++ "-" ++ toString AwakeEnvironment.processId ++ "-" ++
    toString AwakeEnvironment.stageSequence ++ "-" ++ toString nonce

def serialInvalid (serial : String) : Bool :=
  serial.isEmpty || serial.utf8ByteSize > 256 || serial.toList.any fun c => c.toNat ≤ 32 || c.toNat == 127

/-- The provider's answer to the request of a window. -/
def exchange (invocation : QuestAwakeOwnerInvocation) (serial : String) (window : Int × Int) :
    AdapterResult (List UInt8) := do
  let requestJson ← orRefuse "provider_request_invalid" "cannot serialize Quest awake provider request: "
    (AwakeEnvironment.encodeRequest (providerRequest invocation serial window))
  let stageId ← uniqueStageId invocation.requestId
  let output ← (AwakeEnvironment.transport requestJson stageId).mapError .refused
  refuseIf (output.length > maxProviderOutputBytes)
    "provider_output_oversized" "Quest awake provider response exceeds 64 KiB"
  return output

/-- Everything up to the answer of the provider. -/
def requestProvider (invocation : QuestAwakeOwnerInvocation) (serial : String) : AdapterResult (List UInt8) := do
  let failures := questAwakeFamily.invocationViolations invocation
  refuseIf (failures ≠ []) "invocation_invalid" (violationTexts failures)
  refuseIf (serialInvalid serial) "serial_invalid" "configured Quest awake serial is invalid"
  let window ← requestWindow invocation
  exchange invocation serial window

end Request

section Receipt

/-- The characters of the first bytes, none where the last of these bytes lies inside a character. -/
def bytePrefix : List Char → Nat → Option (List Char)
  | _, 0 => some []
  | [], _ + 1 => some []
  | c :: rest, bytes + 1 =>
    if c.utf8Size ≤ bytes + 1 then (bytePrefix rest (bytes + 1 - c.utf8Size)).map (c :: ·) else none

/-- `String::truncate` panics where it would cut a character. -/
def bound (value : String) (maximum : Nat) : AdapterResult String :=
  match bytePrefix value.toList maximum with
  | some kept => .ok (String.ofList kept)
  | none => .error .panicked

variable (invocation : QuestAwakeOwnerInvocation)

def bindingMismatch (provider : ProviderReceipt) : Prop :=
  provider.schema ≠ questAwakeReceiptSchema ∨ provider.contractVersion ≠ questAwakeProviderContract ∨
    provider.requestId ≠ invocation.requestId ∨ provider.operationId ≠ invocation.operationId ∨
    provider.previewId ≠ invocation.previewId ∨ provider.deviceId ≠ invocation.deviceId ∨
    provider.identityRevision ≠ invocation.identityRevision ∨
    provider.action ≠ providerAction invocation.action ∨
    provider.watchdogGeneration ≠ invocation.watchdogGeneration ∨
    provider.requestedDurationMilliseconds ≠ invocation.policy.durationMs ∨
    provider.requestedWatchdogIntervalMilliseconds ≠ invocation.policy.watchdogIntervalMs

instance (provider : ProviderReceipt) : Decidable (bindingMismatch invocation provider) :=
  inferInstanceAs (Decidable (_ ∨ _))

def bootIdentityInvalid (bootId : String) : Bool :=
  bootId.utf8ByteSize < 8 || bootId.utf8ByteSize > 128 ||
    !bootId.toList.all fun c => asciiAlphanumeric c || c == '-'

def receiptOf (response : ProviderResponse) : AdapterResult ProviderReceipt :=
  match response.receipt with
  | some provider => .ok provider
  | none =>
    refuse (response.error.getD "provider_receipt_missing")
      (response.message.getD "Quest awake provider returned no receipt")

/-- The receipt of a response, bound to the invocation and with a status and a boot identity. -/
def providerReceipt (response : ProviderResponse) : AdapterResult ProviderReceipt := do
  refuseIf (response.contractVersion ≠ questAwakeProviderContract)
    "provider_contract_mismatch" "Quest awake provider returned a different contract version"
  let provider ← receiptOf response
  refuseIf (bindingMismatch invocation provider) "provider_receipt_binding_mismatch"
    "Quest awake provider receipt does not bind the exact Fleet invocation"
  refuseIf (¬ (response.status = "verified" ∨ response.status = "pending")) "provider_status_invalid"
    "Quest awake provider returned an unsupported receipt status"
  refuseIf (bootIdentityInvalid provider.deviceWatchdog.bootId) "provider_boot_identity_invalid"
    "Quest awake provider returned no usable device boot identity"
  return provider

variable [AwakeEnvironment]

def ownerReceipt (provider : ProviderReceipt) (windowsWatchdogEffective : Bool) :
    AdapterResult QuestAwakeOwnerReceipt := do
  let watchdog := provider.deviceWatchdog
  let power := provider.powerReadback
  let deviceWatchdogEffective := watchdog.reportedActive && watchdog.fresh &&
    watchdog.generation == invocation.watchdogGeneration &&
    watchdog.intervalMilliseconds == invocation.policy.watchdogIntervalMs && provider.deviceWatchdogEffective
  let settingsLeftUnchanged := (invocation.action == .status || invocation.action == .stopWatchdogs) &&
    provider.settingsLeftUnchanged
  let wakefulness ← bound power.wakefulness 128
  let displayState ← bound power.displayState 128
  let proximityState ← bound power.proximityState 128
  let generation ← bound watchdog.generation 256
  let lastAction ← bound watchdog.lastAction 256
  let lastError ← bound watchdog.lastError 512
  let receipt : QuestAwakeOwnerReceipt :=
    { schema := provider.schema
      requestId := provider.requestId
      operationId := provider.operationId
      previewId := provider.previewId
      deviceId := provider.deviceId
      identityRevision := provider.identityRevision
      action := invocation.action
      watchdogGeneration := provider.watchdogGeneration
      requestedDurationMs := provider.requestedDurationMilliseconds
      requestedWatchdogIntervalMs := provider.requestedWatchdogIntervalMilliseconds
      stayOnEffective := provider.stayOnEffective
      proximityHoldEffective := provider.proximityHoldEffective
      wakeEffective := provider.wakeEffective
      windowsWatchdogEffective := windowsWatchdogEffective
      deviceWatchdogEffective := deviceWatchdogEffective
      settingsRestored := provider.settingsRestored
      effective := false
      settingsLeftUnchanged := settingsLeftUnchanged
      outcome := provider.outcome
      repairCount := provider.repairCount
      power :=
        { wakefulness := wakefulness
          displayState := displayState
          stayOn := power.stayOn
          autoSleepDisabled := power.autoSleepDisabled
          proximityState := proximityState
          proximityHoldDurationMs := power.proximityHoldDurationMilliseconds
          proximityHoldRemainingMs := power.proximityHoldRemainingMilliseconds
          capturedAtMs := power.capturedAtUnixMilliseconds }
      deviceWatchdog :=
        { reportedActive := watchdog.reportedActive
          fresh := watchdog.fresh
          generation := generation
          bootIdSha256 := AwakeEnvironment.sha256Hex watchdog.bootId.toUTF8.toList
          intervalMs := watchdog.intervalMilliseconds
          lastPollMs := watchdog.lastPollUnixMilliseconds
          proximityRepairCount := watchdog.proximityRepairCount
          stayOnRepairCount := watchdog.stayOnRepairCount
          wakeRepairCount := watchdog.wakeRepairCount
          lastAction := lastAction
          lastError := lastError }
      evidenceSha256 := provider.evidenceSha256
      observedAtMs := provider.observedAtUnixMilliseconds }
  return { receipt with effective := receipt.derivedEffective }

/-- The validation of the assembled receipt panics where its time arithmetic overflows. -/
def validateReceipt (receipt : QuestAwakeOwnerReceipt) : AdapterResult Unit :=
  if receipt.validationOverflows then .error .panicked
  else refuseIf (ValidateContract.violations receipt ≠ []) "provider_receipt_invalid"
    (violationTexts (ValidateContract.violations receipt))

def concludeReceipt (response : ProviderResponse) (provider : ProviderReceipt)
    (windowsWatchdogEffective : Bool) : AdapterResult QuestAwakeOwnerReceipt := do
  let receipt ← ownerReceipt invocation provider windowsWatchdogEffective
  validateReceipt receipt
  refuseIf (provider.effective ≠ receipt.effective) "provider_effect_mismatch"
    "Quest awake provider effect summary contradicts the independent readbacks"
  refuseIf ((response.status == "verified") ≠ receipt.effective) "provider_optimistic_success"
    "Quest awake provider status contradicts the required independent readbacks"
  return receipt

def invoke (serial : String) (windowsWatchdogEffective : Bool) : AdapterResult QuestAwakeOwnerReceipt := do
  let output ← requestProvider invocation serial
  let response ← orRefuse "provider_response_invalid" "Quest awake provider response is not valid JSON: "
    (AwakeEnvironment.decodeResponse output)
  let provider ← providerReceipt invocation response
  concludeReceipt invocation response provider windowsWatchdogEffective

end Receipt

end QuestAwakeAdapter

end RustyFleet

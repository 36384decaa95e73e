import RustyFleet.Contracts.OwnerOperation
import RustyFleet.Contracts.Text

namespace RustyFleet

def questAwakeCapabilityId := "questionable-file-manager.quest-awake-provider"
def questAwakeOwner := "questionable-file-manager"
def questAwakeReceiptSchema := "questionable.file_manager.quest_awake_receipt.v1"

inductive QuestAwakeAction
  | status | applyBounded | startWindowsWatchdog | startDeviceWatchdog | stopWatchdogs | restoreNormal
deriving DecidableEq, Repr

structure QuestAwakePolicy where
  durationMs : Nat
  watchdogIntervalMs : Nat
deriving DecidableEq

def awakePolicyViolations (durationMs watchdogIntervalMs : Nat) : List ContractViolation :=
  violationIf (¬ (60000 ≤ durationMs ∧ durationMs ≤ 28800000))
    "invalid_duration" "duration_ms"
    "Quest awake duration must be between one minute and eight hours" ++
  violationIf (¬ (1000 ≤ watchdogIntervalMs ∧ watchdogIntervalMs ≤ 60000))
    "invalid_watchdog_interval" "watchdog_interval_ms"
    "watchdog interval must be between one and sixty seconds"

structure QuestAwakeOwnerBinding where
  ownerRepoId : String
  capabilityId : String
  providerContract : String
  receiptSchema : String
  transport : String
  applicationProof : String
deriving DecidableEq

def QuestAwakeOwnerBinding.fileManagerV1 : QuestAwakeOwnerBinding where
  ownerRepoId := questAwakeOwner
  capabilityId := questAwakeCapabilityId
  providerContract := "questionable.file_manager.fleet_awake_provider.v1"
  receiptSchema := questAwakeReceiptSchema
  transport := "pinned_local_subprocess"
  applicationProof := "fresh_effective_power_and_watchdog_readback"

structure QuestAwakePowerReadback where
  wakefulness : String
  displayState : String
  stayOn : Bool
  autoSleepDisabled : Option Bool
  proximityState : String
  proximityHoldDurationMs : Option Nat
  proximityHoldRemainingMs : Option Nat
  capturedAtMs : Int
deriving DecidableEq

structure QuestAwakeWatchdogReadback where
  reportedActive : Bool
  fresh : Bool
  generation : String
  bootIdSha256 : String
  intervalMs : Nat
  lastPollMs : Int
  proximityRepairCount : Nat
  stayOnRepairCount : Nat
  wakeRepairCount : Nat
  lastAction : String
  lastError : String
deriving DecidableEq

structure QuestAwakeOwnerReceipt where
  schema : String
  requestId : String
  operationId : String
  previewId : String
  deviceId : String
  identityRevision : Nat
  action : QuestAwakeAction
  watchdogGeneration : String
  requestedDurationMs : Nat
  requestedWatchdogIntervalMs : Nat
  stayOnEffective : Bool
  proximityHoldEffective : Bool
  wakeEffective : Bool
  windowsWatchdogEffective : Bool
  deviceWatchdogEffective : Bool
  settingsRestored : Bool
  effective : Bool
  settingsLeftUnchanged : Bool
  outcome : String
  repairCount : Nat
  power : QuestAwakePowerReadback
  deviceWatchdog : QuestAwakeWatchdogReadback
  evidenceSha256 : String
  observedAtMs : Int
deriving DecidableEq

def emptySha256 := "e3b0c44298fc1c149afbf4c8996fb92427ae41e4649b934ca495991b7852b855"

def readbackText (value : String) (maximum : Nat) : Bool :=
  !value.isEmpty && value.utf8ByteSize ≤ maximum

namespace QuestAwakeOwnerReceipt

variable (receipt : QuestAwakeOwnerReceipt)

def readbackValid : Prop :=
  0 ≤ receipt.observedAtMs ∧ 0 ≤ receipt.power.capturedAtMs ∧
    receipt.power.capturedAtMs ≤ receipt.observedAtMs ∧
    receipt.observedAtMs - receipt.power.capturedAtMs ≤ 30000 ∧
    readbackText receipt.power.wakefulness 128 = true ∧
    readbackText receipt.power.displayState 128 = true ∧
    readbackText receipt.power.proximityState 128 = true ∧
    isLowerSha256 receipt.deviceWatchdog.bootIdSha256 = true ∧
    ¬ (receipt.deviceWatchdog.reportedActive = true ∧
      receipt.deviceWatchdog.bootIdSha256 = emptySha256) ∧
    receipt.deviceWatchdog.generation.utf8ByteSize ≤ 256 ∧
    receipt.deviceWatchdog.lastAction.utf8ByteSize ≤ 256 ∧
    receipt.deviceWatchdog.lastError.utf8ByteSize ≤ 512 ∧ readbackText receipt.outcome 256 = true

instance : Decidable receipt.readbackValid := inferInstanceAs (Decidable (_ ∧ _))

def proximityClosed : Bool := eqIgnoreAsciiCase (trimmed receipt.power.proximityState) "CLOSE".toList

def expectedProximityHold : Bool :=
  receipt.proximityClosed && receipt.power.proximityHoldDurationMs == some receipt.requestedDurationMs &&
    receipt.power.proximityHoldRemainingMs.any (· > 0)

def expectedWake : Bool :=
  eqIgnoreAsciiCase receipt.power.wakefulness.toList "Awake".toList &&
    (eqIgnoreAsciiCase receipt.power.displayState.toList "ON".toList ||
      eqIgnoreAsciiCase receipt.power.displayState.toList "ON_SUSPEND".toList)

/-- The watchdog facts checked before its poll time is compared with the clock. -/
def watchdogIdentified : Bool :=
  receipt.deviceWatchdog.reportedActive && receipt.deviceWatchdog.fresh &&
    receipt.deviceWatchdog.generation == receipt.watchdogGeneration &&
    receipt.deviceWatchdog.intervalMs == receipt.requestedWatchdogIntervalMs &&
    receipt.deviceWatchdog.lastPollMs > 0

def watchdogPollWindowMs : Int := max (3 * receipt.requestedWatchdogIntervalMs) 15000

def expectedDeviceWatchdog : Bool :=
  receipt.watchdogIdentified && receipt.deviceWatchdog.lastPollMs ≤ receipt.observedAtMs + 30000 &&
    receipt.observedAtMs - receipt.deviceWatchdog.lastPollMs ≤ receipt.watchdogPollWindowMs

/-- `observed_at_ms + 30_000` is evaluated and leaves the `i64` range. -/
def validationOverflows : Bool :=
  receipt.watchdogIdentified && receipt.observedAtMs + 30000 > i64Max

def expectedSettingsRestored : Bool :=
  !receipt.power.stayOn && receipt.power.autoSleepDisabled != some true && !receipt.proximityClosed

def expectedSettingsLeftUnchanged : Bool :=
  receipt.action == .status || receipt.action == .stopWatchdogs

def derivedEffective : Bool :=
  let watchdogAbsent := !receipt.deviceWatchdog.reportedActive
  match receipt.action with
  | .status =>
    receipt.power.capturedAtMs ≥ 0 && receipt.power.capturedAtMs ≤ receipt.observedAtMs &&
      receipt.observedAtMs - receipt.power.capturedAtMs ≤ 30000
  | .applyBounded =>
    receipt.stayOnEffective && receipt.proximityHoldEffective && receipt.wakeEffective &&
      !receipt.windowsWatchdogEffective && watchdogAbsent
  | .startWindowsWatchdog =>
    receipt.stayOnEffective && receipt.proximityHoldEffective && receipt.wakeEffective &&
      receipt.windowsWatchdogEffective && watchdogAbsent
  | .startDeviceWatchdog =>
    receipt.stayOnEffective && receipt.proximityHoldEffective && receipt.wakeEffective &&
      !receipt.windowsWatchdogEffective && receipt.deviceWatchdogEffective
  | .stopWatchdogs =>
    !receipt.windowsWatchdogEffective && watchdogAbsent && receipt.settingsLeftUnchanged
  | .restoreNormal => !receipt.windowsWatchdogEffective && watchdogAbsent && receipt.settingsRestored

end QuestAwakeOwnerReceipt

instance : ValidateContract QuestAwakeOwnerReceipt where
  violations receipt :=
    violationIf (receipt.schema ≠ questAwakeReceiptSchema ∨ receipt.identityRevision = 0)
      "invalid_receipt_header" "receipt"
      "Quest awake owner receipt schema or identity revision is invalid" ++
    [("request_id", receipt.requestId), ("operation_id", receipt.operationId),
      ("preview_id", receipt.previewId), ("device_id", receipt.deviceId),
      ("watchdog_generation", receipt.watchdogGeneration)].flatMap (fun (path, value) =>
        violationIf (¬ isOwnerPortableId value 256) "invalid_identifier" path
          "receipt identifiers must be bounded and portable") ++
    awakePolicyViolations receipt.requestedDurationMs receipt.requestedWatchdogIntervalMs ++
    violationIf (¬ isLowerSha256 receipt.evidenceSha256)
      "invalid_evidence_digest" "evidence_sha256" "receipt evidence digest must be lowercase SHA-256" ++
    violationIf (¬ receipt.readbackValid)
      "invalid_readback" "receipt"
      "power and watchdog readbacks must be bounded, coherent, and freshly captured" ++
    violationIf (receipt.stayOnEffective ≠ receipt.power.stayOn ∨
        receipt.proximityHoldEffective ≠ receipt.expectedProximityHold ∨
        receipt.wakeEffective ≠ receipt.expectedWake ∨
        receipt.deviceWatchdogEffective ≠ receipt.expectedDeviceWatchdog ∨
        receipt.settingsRestored ≠ receipt.expectedSettingsRestored ∨
        receipt.settingsLeftUnchanged ≠ receipt.expectedSettingsLeftUnchanged)
      "readback_summary_mismatch" "receipt"
      "summary effects must be derived from the included independent readbacks" ++
    violationIf (receipt.effective ≠ receipt.derivedEffective)
      "receipt_effect_mismatch" "effective"
      "effective state must match the independent power, watchdog, and restore readbacks"

abbrev QuestAwakeOperation :=
  OwnerOperation QuestAwakeAction QuestAwakePolicy String QuestAwakeOwnerBinding QuestAwakeOwnerReceipt
    Unit

def questAwakeFamily :
    OwnerFamily QuestAwakeAction QuestAwakePolicy String QuestAwakeOwnerBinding QuestAwakeOwnerReceipt
      Unit where
  requestSchema := "rusty.fleet.quest_awake_preview_request.v1"
  previewSchema := "rusty.fleet.quest_awake_preview.v1"
  invocationSchema := "rusty.fleet.quest_awake_owner_invocation.v1"
  operationSchema := "rusty.fleet.quest_awake_operation.v1"
  actionId := "quest.awake-control"
  wrongActionMessage := "expected quest.awake-control"
  wrongSchemaMessage := "expected rusty.fleet.quest_awake_preview_request.v1"
  preflight :=
    { capabilityId := questAwakeCapabilityId
      owner := questAwakeOwner
      unavailable := "provider_unavailable"
      revisionMessage := "identity and capability revisions must be greater than zero"
      ownerMessage := "Quest awake preflight must use the File Manager owner capability" }
  binding := .fileManagerV1
  bindingMessage := "Quest awake owner differs from the pinned File Manager provider contract"
  noun := "Quest awake"
  requestCountMessage := "Quest awake request must contain 1 through 10,000 exact targets"
  requestTargetMessage := "target device IDs must be bounded portable IDs with positive revisions"
  previewHeaderMessage := "Quest awake preview identity, action, time, or revision is invalid"
  previewCountMessage := "Quest awake preview must contain 1 through 10,000 targets"
  previewDuplicateMessage := "Quest awake preview targets must be unique"
  invocationHeaderMessage := "Quest awake invocation header is invalid"
  operationHeaderMessage := "Quest awake operation identity, action, or time is invalid"
  unknownTargetMessage := "operation ledger target is absent from the preview"
  appliedMessage := "an applied Quest awake target requires its exact effective owner receipt"
  policyViolations := fun policy => awakePolicyViolations policy.durationMs policy.watchdogIntervalMs
  generationIdentifiers := fun generation => [("watchdog_generation", generation)]
  generationBound := fun action preview invocation =>
    action == .stopWatchdogs || action == .restoreNormal || invocation == preview
  receiptHeader := fun receipt =>
    { requestId := receipt.requestId, operationId := receipt.operationId, previewId := receipt.previewId,
      deviceId := receipt.deviceId, identityRevision := receipt.identityRevision,
      action := receipt.action, observedAtMs := receipt.observedAtMs }
  receiptPolicyBound := fun policy receipt =>
    receipt.requestedDurationMs == policy.durationMs &&
    receipt.requestedWatchdogIntervalMs == policy.watchdogIntervalMs
  receiptGenerationBound := fun generation receipt => receipt.watchdogGeneration == generation
  receiptProvesApplied := fun receipt => receipt.effective && !isInvalid receipt
  evidenceViolations := fun _ _ _ _ _ => []

instance : ValidateContract QuestAwakeOperation where
  violations := questAwakeFamily.operationViolations

end RustyFleet

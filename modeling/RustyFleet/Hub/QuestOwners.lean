import RustyFleet.Hub.OwnerOperations

namespace RustyFleet

abbrev QuestAwakePreviewPlan := OwnerPreviewPlan QuestAwakeAction QuestAwakePolicy String

abbrev QuestWifiAdbPreviewPlan := OwnerPreviewPlan QuestWifiAdbAction Unit Unit

/-- Only a stop or a restore may name the watchdog generation observed on the device. -/
def preparedWatchdogGeneration (action : QuestAwakeAction) (preview : String)
    (expectedDevice : Option String) : HubResult String :=
  if action = .stopWatchdogs ∨ action = .restoreNormal then
    .ok (expectedDevice.getD "no-known-device-watchdog")
  else if expectedDevice.isSome then
    refuse "awake_watchdog_generation_override_invalid"
      "only stop or restore may bind an observed device-watchdog generation"
  else .ok preview

def questAwakeHub :
    OwnerHub QuestAwakeAction QuestAwakePolicy String QuestAwakeOwnerBinding QuestAwakeOwnerReceipt
      Unit where
  family := questAwakeFamily
  stem := "awake"
  subject := "Quest awake "
  conflictMessage := "operation ID already names a different immutable Quest awake preview"
  prepareStateMessage := "only a confirmed Quest awake target can prepare an owner invocation"
  invocationMissingMessage := "owner receipt cannot be admitted before exact invocation"
  operationInvalidCode := "awake_operation_contract_invalid"
  maxOperations := maxAwakeOperations
  generationPresent := fun generation => !generation.isEmpty
  preparedGeneration := preparedWatchdogGeneration
  invocationExpiry := fun action expiresAtMs =>
    if action = .startWindowsWatchdog then i64Max else expiresAtMs
  receiptOverflows := (·.validationOverflows)
  receiptEffective := (·.effective)
  initialEvidence := ()
  evidenceAfterReceipt := id

def questWifiAdbHub [Sha256Hex] :
    OwnerHub QuestWifiAdbAction Unit Unit QuestWifiAdbOwnerBinding QuestWifiAdbOwnerReceipt
      QuestWifiAdbTermuxEvidence where
  family := questWifiAdbFamily
  stem := "wifi_adb"
  subject := ""
  conflictMessage := "operation ID names a different immutable Quest Wi-Fi ADB preview"
  prepareStateMessage := "only a confirmed Quest Wi-Fi ADB target can prepare an invocation"
  invocationMissingMessage := "owner receipt cannot be admitted before the exact invocation"
  operationInvalidCode := "wifi_adb_operation_invalid"
  maxOperations := maxWifiAdbOperations
  generationPresent := fun _ => true
  preparedGeneration := fun _ preview _ => .ok preview
  invocationExpiry := fun _ expiresAtMs => expiresAtMs
  receiptOverflows := fun _ => false
  receiptEffective := (·.effectApplied)
  initialEvidence := { termuxProof := none, termuxAdmission := none, termuxUsable := false }
  evidenceAfterReceipt := fun evidence => { evidence with termuxProof := none, termuxUsable := false }

namespace FleetHub

variable (hub : FleetHub)

/-- One awake call: its edit is settled in the Hub's awake ledger. -/
def settleAwake (operationId : String) (edit : HubResult (LedgerEdit QuestAwakeOperation)) :
    HubResult QuestAwakeOperation × FleetHub :=
  let (result, operations) := questAwakeHub.settle hub.awakeOperations operationId edit
  (result, { hub with awakeOperations := operations })

def previewQuestAwake (plan : QuestAwakePreviewPlan) : HubResult QuestAwakeOperation × FleetHub :=
  hub.settleAwake plan.operationId (questAwakeHub.previewEdit hub hub.awakeOperations plan)

def confirmQuestAwake (operationId previewId : String) (nowMs : Int) :
    HubResult QuestAwakeOperation × FleetHub :=
  hub.settleAwake operationId
    (questAwakeHub.confirmEdit hub hub.awakeOperations operationId previewId nowMs)

def prepareQuestAwakeInvocationWithWatchdogGeneration (operationId deviceId requestId : String)
    (expectedDeviceWatchdogGeneration : Option String) (nowMs : Int) :
    HubResult QuestAwakeOperation × FleetHub :=
  hub.settleAwake operationId (questAwakeHub.prepareEdit hub hub.awakeOperations operationId deviceId
    requestId expectedDeviceWatchdogGeneration nowMs)

def prepareQuestAwakeInvocation (operationId deviceId requestId : String) (nowMs : Int) :
    HubResult QuestAwakeOperation × FleetHub :=
  hub.prepareQuestAwakeInvocationWithWatchdogGeneration operationId deviceId requestId none nowMs

def markQuestAwakeDispatched (operationId deviceId : String) (nowMs : Int) :
    HubResult QuestAwakeOperation × FleetHub :=
  hub.settleAwake operationId
    (questAwakeHub.dispatchedEdit hub.awakeOperations operationId deviceId nowMs)

def applyQuestAwakeReceipt (receipt : QuestAwakeOwnerReceipt) (nowMs : Int) :
    HubResult QuestAwakeOperation × FleetHub :=
  hub.settleAwake receipt.operationId (questAwakeHub.receiptEdit hub.awakeOperations receipt nowMs)

def failQuestAwakeTarget (operationId deviceId code : String) (nowMs : Int) :
    HubResult QuestAwakeOperation × FleetHub :=
  hub.settleAwake operationId
    (questAwakeHub.failEdit hub.awakeOperations operationId deviceId code nowMs)

/-- One Wi-Fi ADB call: its edit is settled in the Hub's Wi-Fi ADB ledger. -/
def settleWifiAdb [Sha256Hex] (operationId : String)
    (edit : HubResult (LedgerEdit QuestWifiAdbOperation)) : HubResult QuestWifiAdbOperation × FleetHub :=
  let (result, operations) := questWifiAdbHub.settle hub.wifiAdbOperations operationId edit
  (result, { hub with wifiAdbOperations := operations })

variable [Sha256Hex]

def previewQuestWifiAdb (plan : QuestWifiAdbPreviewPlan) : HubResult QuestWifiAdbOperation × FleetHub :=
  hub.settleWifiAdb plan.operationId (questWifiAdbHub.previewEdit hub hub.wifiAdbOperations plan)

def confirmQuestWifiAdb (operationId previewId : String) (nowMs : Int) :
    HubResult QuestWifiAdbOperation × FleetHub :=
  hub.settleWifiAdb operationId
    (questWifiAdbHub.confirmEdit hub hub.wifiAdbOperations operationId previewId nowMs)

def prepareQuestWifiAdbInvocation (operationId deviceId requestId : String) (nowMs : Int) :
    HubResult QuestWifiAdbOperation × FleetHub :=
  hub.settleWifiAdb operationId
    (questWifiAdbHub.prepareEdit hub hub.wifiAdbOperations operationId deviceId requestId none nowMs)

def markQuestWifiAdbDispatched (operationId deviceId : String) (nowMs : Int) :
    HubResult QuestWifiAdbOperation × FleetHub :=
  hub.settleWifiAdb operationId
    (questWifiAdbHub.dispatchedEdit hub.wifiAdbOperations operationId deviceId nowMs)

def applyQuestWifiAdbReceipt (receipt : QuestWifiAdbOwnerReceipt) (nowMs : Int) :
    HubResult QuestWifiAdbOperation × FleetHub :=
  hub.settleWifiAdb receipt.operationId
    (questWifiAdbHub.receiptEdit hub.wifiAdbOperations receipt nowMs)

def failQuestWifiAdbTarget (operationId deviceId code : String) (nowMs : Int) :
    HubResult QuestWifiAdbOperation × FleetHub :=
  hub.settleWifiAdb operationId
    (questWifiAdbHub.failEdit hub.wifiAdbOperations operationId deviceId code nowMs)

end FleetHub

end RustyFleet

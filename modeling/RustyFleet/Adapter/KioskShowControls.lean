import RustyFleet.Adapter.KioskTransport
import RustyFleet.Hub.State
import RustyFleet.Support.Attempts
import RustyFleet.Support.CheckedInt

namespace RustyFleet.KioskAdapter

open Attempt

def statusTarget := "/v1/status"
def invokeTarget := "/v1/kiosk/invoke"
def resultTarget := "/v1/kiosk/result"
def maxOwnerJsonBytes : Nat := 512 * 1024
def maxInvokeBodyBytes : Nat := 1024
def kioskDirectOperatorPort : Nat := 39873
def kioskDirectOperatorMaxClockSkewSeconds : Nat := 90

structure OwnerStatus where
  schema : String
  accepted : Bool

structure OwnerInvokeResponse where
  requestId : String
  accepted : Bool
  completed : Bool

structure OwnerResult where
  schema : Option String
  requestId : String
  command : Option String
  accepted : Bool
  completed : Bool
  recordedAtMs : Option Int
  controlsOpen : Option Bool

/-- The digest crate, and the JSON crate at the owner's four documents. -/
class OwnerEnvironment extends Sha256 where
  invokeToVec : (requestId command : String) → Option Bytes
  statusFromSlice : Bytes → Option OwnerStatus
  invokeFromSlice : Bytes → Option OwnerInvokeResponse
  resultFromSlice : Bytes → Option OwnerResult

structure KioskAdapterLimits where
  maximumPolls : Nat
  pollIntervalMs : Nat
  operationDeadlineMs : Nat
  requestTimeoutMs : Nat
  maximumResponseBytes : Nat

/-- What `KioskAdapterLimits::validate` requires. -/
structure KioskAdapterLimits.Valid (limits : KioskAdapterLimits) : Prop where
  polls : 1 ≤ limits.maximumPolls ∧ limits.maximumPolls ≤ 64
  interval : 1 ≤ limits.pollIntervalMs ∧ limits.pollIntervalMs ≤ 5000
  deadline : 1 ≤ limits.operationDeadlineMs ∧
    limits.operationDeadlineMs ≤ kioskDirectOperatorMaxClockSkewSeconds * 1000
  timeout : 1 ≤ limits.requestTimeoutMs ∧ limits.requestTimeoutMs ≤ limits.operationDeadlineMs
  response : 1 ≤ limits.maximumResponseBytes ∧ limits.maximumResponseBytes ≤ maxOwnerJsonBytes

/-- An adapter that `FleetKioskAdapter::new` has accepted. -/
structure FleetKioskAdapter where
  limits : KioskAdapterLimits
  valid : limits.Valid

structure KioskShowControlsRequest where
  receiptId : String
  operationId : String
  deviceId : String
  identityRevision : Nat
  endpoint : String
  ownerActionRequestId : String

def validateKioskEndpoint (endpoint : String) : AdapterResult Unit :=
  let scheme := "http://".toList
  let port := (":" ++ kioskDirectOperatorPort.repr).toList
  let authority := endpoint.toList.drop scheme.length
  let host := authority.take (authority.length - port.length)
  if endpoint.utf8ByteSize > 255 ∨ endpoint.toList.take scheme.length ≠ scheme ∨
      endpoint.toList.any (fun c => c.toNat ≤ 0x20 || c.toNat == 0x7F) then .error .invalidEndpoint
  else if authority.isEmpty ∨ authority.any (fun c => c == '/' || c == '?' || c == '#' || c == '@') ∨
      authority.drop (authority.length - port.length) ≠ port then .error .invalidEndpoint
  else if host.isEmpty ∨ ¬ host.all (fun c =>
      asciiAlphanumeric c || c == '.' || c == '-' || c == ':' || c == '[' || c == ']') then
    .error .invalidEndpoint
  else .ok ()

def KioskShowControlsRequest.validate (request : KioskShowControlsRequest) : AdapterResult Unit :=
  if trimmedEmpty request.receiptId ∨ trimmedEmpty request.operationId ∨ trimmedEmpty request.deviceId ∨
      request.identityRevision = 0 ∨ ¬ isRequestId request.ownerActionRequestId then
    .error .invalidRequest
  else validateKioskEndpoint request.endpoint

structure RawOwnerReceiptEvidence where
  rawReceiptSha256 : String
  rawReceipt : Bytes
  hostReceivedAtMs : Int
  resultTransportRequestId : String
deriving DecidableEq

structure KioskShowControlsOutcome where
  effectiveReceipt : KioskEffectiveReceipt
  ownerReceipt : RawOwnerReceiptEvidence
  statusTransportRequestId : String
  invokeTransportRequestId : String
  pollCount : Nat

structure KioskShowControlsDispatch where
  deadlineAtMs : Int
  statusTransportRequestId : String
  invokeTransportRequestId : String

structure KioskShowControlsPollOutcome where
  effectiveReceipt : KioskEffectiveReceipt
  ownerReceipt : RawOwnerReceiptEvidence
  pollCount : Nat

/-- What the clock, the waits, the transport and the source of request ids answer, call after call. -/
structure KioskScript where
  clock : Nat → Int
  waits : Nat → Except String Unit
  responses : Nat → Except String KioskHttpResponse
  requestIds : Nat → Except String String

/-- A request handed to the transport, and whether the adapter accepted what came back. -/
structure KioskExchange where
  transportRequestId : String
  request : KioskHttpRequest
  accepted : Bool

/-- How far a script has been used, and what was exchanged. -/
structure KioskSession where
  readings : Nat
  waited : Nat
  sends : Nat
  issued : Nat
  exchanges : List KioskExchange

def KioskSession.start : KioskSession := ⟨0, 0, 0, 0, []⟩

/-- A step of an attempt; the session goes on also when the step fails. -/
abbrev KioskCall : Type → Type := Attempt KioskSession AdapterError

abbrev transported {α : Type} (given : Except String α) : AdapterResult α := given.mapError .transport

section Script

variable (script : KioskScript)

def nowMs : KioskCall Int := fun session =>
  (.ok (script.clock session.readings), { session with readings := session.readings + 1 })

def waitUntilMs (_notBeforeMs _deadlineAtMs : Int) : KioskCall Unit := fun session =>
  (transported (script.waits session.waited), { session with waited := session.waited + 1 })

def nextTransportRequestId : KioskCall String := fun session =>
  (transported (script.requestIds session.issued), { session with issued := session.issued + 1 })

def nextTransportId (ownerActionRequestId : String) (used : BTreeSet String) :
    KioskCall (String × BTreeSet String) := do
  let requestId ← nextTransportRequestId script
  lift (errorIf (¬ isRequestId requestId) .invalidTransportRequestId)
  lift (errorIf (requestId = ownerActionRequestId ∨ used.contains requestId) .duplicateTransportRequestId)
  return (requestId, used.insert requestId)

variable [OwnerEnvironment] (adapter : FleetKioskAdapter) (pairingKey : String)

/-- What `send_signed` checks of a response. -/
def acceptResponse (transportRequestId : String) (deadlineAtMs : Int)
    (response : KioskHttpResponse) : AdapterResult Unit := do
  errorIf (response.redirected ∨ (300 ≤ response.status ∧ response.status < 400)) .redirectRejected
  errorIf (response.receivedAtMs > deadlineAtMs) .deadlineExceeded
  errorIf (response.body.length > adapter.limits.maximumResponseBytes) .responseTooLarge
  verifySignedResponse pairingKey transportRequestId response
  errorIf (response.status ≠ 200) (.unexpectedHttpStatus response.status)

def exchange (transportRequestId : String) (request : KioskHttpRequest) : KioskCall KioskHttpResponse :=
  fun session =>
    let outcome := do
      let response ← transported (script.responses session.sends)
      acceptResponse adapter pairingKey transportRequestId request.deadlineAtMs response
      return response
    (outcome, { session with
      sends := session.sends + 1
      exchanges := session.exchanges ++ [⟨transportRequestId, request, outcome.isOk⟩] })

def sendSigned (endpoint : String) (method : HttpMethod) (requestTarget : String) (body : Bytes)
    (transportRequestId : String) (deadlineAtMs : Int) : KioskCall KioskHttpResponse := do
  let sentAtMs ← nowMs script
  lift (errorIf (sentAtMs > deadlineAtMs) .deadlineExceeded)
  let timestampSeconds := sentAtMs / 1000
  let contentSha256 := sha256Hex body
  let signature ← lift (signRequest pairingKey method.asStr requestTarget transportRequestId
    timestampSeconds contentSha256)
  let headers := ((((∅ : BTreeMap String String).insert headerRequestId transportRequestId).insert
    headerTimestamp timestampSeconds.repr).insert headerContentSha256 contentSha256).insert
    headerSignature signature
  exchange script adapter pairingKey transportRequestId
    { method := method
      url := endpoint ++ requestTarget
      requestTarget := requestTarget
      headers := headers
      body := body
      redirectPolicy := .deny
      maximumResponseBytes := adapter.limits.maximumResponseBytes
      timeoutMs := adapter.limits.requestTimeoutMs
      deadlineAtMs := deadlineAtMs }

variable (request : KioskShowControlsRequest)

/-- Checked `i64` addition of a `u64` number of milliseconds. -/
def addMs (timeMs : Int) (deltaMs : Nat) : AdapterResult Int := do
  let delta ← orError (Checked.fit i64Min i64Max deltaMs) .invalidLimits
  orError (Checked.fit i64Min i64Max (timeMs + delta)) .invalidLimits

/-- What the status and invoke steps leave behind. -/
structure Opening where
  deadlineAtMs : Int
  usedTransportIds : BTreeSet String
  statusTransportRequestId : String
  invokeTransportRequestId : String

def readStatus (body : Bytes) : AdapterResult Unit := do
  let status ← orError (OwnerEnvironment.statusFromSlice body) .invalidJson
  errorIf (¬ status.accepted ∨ status.schema ≠ kioskDirectOperatorSchema) .ownerContractMismatch

def invokeBody : AdapterResult Bytes := do
  let body ← orError (OwnerEnvironment.invokeToVec request.ownerActionRequestId kioskShowControlsCommand)
    .invalidJson
  errorIf (body.length > maxInvokeBodyBytes) .invalidRequest
  return body

def readInvoke (body : Bytes) : AdapterResult Unit := do
  let invoke ← orError (OwnerEnvironment.invokeFromSlice body) .invalidJson
  errorIf (¬ invoke.accepted ∨ invoke.completed ∨ invoke.requestId ≠ request.ownerActionRequestId)
    .ownerInvokeMismatch

/-- The status and invoke steps, written out alike in `execute_show_controls` and
`invoke_show_controls`. -/
def openShowControls : KioskCall Opening := do
  let startedAtMs ← nowMs script
  let deadlineAtMs ← lift (addMs startedAtMs adapter.limits.operationDeadlineMs)
  let (statusId, used) ← nextTransportId script request.ownerActionRequestId ∅
  let statusResponse ← sendSigned script adapter pairingKey request.endpoint .get statusTarget [] statusId
    deadlineAtMs
  lift (readStatus statusResponse.body)
  let (invokeId, used) ← nextTransportId script request.ownerActionRequestId used
  let body ← lift (invokeBody request)
  let invokeResponse ← sendSigned script adapter pairingKey request.endpoint .post invokeTarget body
    invokeId deadlineAtMs
  lift (readInvoke request invokeResponse.body)
  return ⟨deadlineAtMs, used, statusId, invokeId⟩

/-- What one answered poll comes to: an unfinished result with the next poll's time, or a receipt. -/
inductive PollAnswer
  | pending (nextPollNotBeforeMs : Int)
  | effective (receipt : KioskEffectiveReceipt) (evidence : RawOwnerReceiptEvidence)

def effectiveReceipt (resultTransportId : String) (response : KioskHttpResponse) (result : OwnerResult)
    (ownerRecordedAtMs : Int) (responseSignature : String) : KioskEffectiveReceipt where
  schema := "rusty.fleet.kiosk_effective_receipt.v1"
  receiptId := request.receiptId
  operationId := request.operationId
  deviceId := request.deviceId
  identityRevision := request.identityRevision
  ownerContract := .showControlsV1
  ownerActionRequestId := request.ownerActionRequestId
  ownerResultTransportRequestId := resultTransportId
  ownerCommand := kioskShowControlsCommand
  responseStatus := response.status
  responseContentSha256 := sha256Hex response.body
  responseSignature := responseSignature
  responseAuthVerified := true
  ownerResultSchema := kioskCliResultSchema
  ownerAccepted := result.accepted
  ownerCompleted := result.completed
  ownerRecordedAtMs := ownerRecordedAtMs
  controlsOpen := true
  wrappedAtMs := response.receivedAtMs

def readResult (resultTransportId : String) (response : KioskHttpResponse) : AdapterResult PollAnswer := do
  let result ← orError (OwnerEnvironment.resultFromSlice response.body) .invalidJson
  errorIf (result.requestId ≠ request.ownerActionRequestId) .ownerResultMismatch
  errorIf (¬ result.accepted) .ownerRejected
  if ¬ result.completed then
    return .pending (← addMs response.receivedAtMs adapter.limits.pollIntervalMs)
  errorIf (result.schema ≠ some kioskCliResultSchema ∨ result.command ≠ some kioskShowControlsCommand ∨
    result.recordedAtMs = none ∨ result.controlsOpen ≠ some true) .ownerResultMismatch
  let ownerRecordedAtMs ← orError result.recordedAtMs .ownerResultMismatch
  let responseSignature ← requireHeader response.headers headerSignature
  let receipt := effectiveReceipt request resultTransportId response result ownerRecordedAtMs
    responseSignature
  errorIf (isInvalid receipt) .effectiveReceiptInvalid
  return .effective receipt
    { rawReceiptSha256 := sha256Hex response.body
      rawReceipt := response.body
      hostReceivedAtMs := response.receivedAtMs
      resultTransportRequestId := resultTransportId }

def showControlsResultTarget : String := resultTarget ++ "?request_id=" ++ request.ownerActionRequestId

variable (deadlineAtMs : Int)

/-- One turn of the polling loop. -/
def pollOnce (notBeforeMs : Int) (used : BTreeSet String) : KioskCall (PollAnswer × BTreeSet String) := do
  let loopedAtMs ← nowMs script
  lift (errorIf (loopedAtMs > deadlineAtMs) .deadlineExceeded)
  waitUntilMs script notBeforeMs deadlineAtMs
  let wokenAtMs ← nowMs script
  lift (errorIf (wokenAtMs > deadlineAtMs) .deadlineExceeded)
  let (resultId, used) ← nextTransportId script request.ownerActionRequestId used
  let response ← sendSigned script adapter pairingKey request.endpoint .get
    (showControlsResultTarget request) [] resultId deadlineAtMs
  let answer ← lift (readResult adapter request resultId response)
  return (answer, used)

/-- The polling loop, written out alike in `execute_show_controls` and
`poll_show_controls_result`. -/
def pollResults : (polls pollIndex : Nat) → (notBeforeMs : Int) → (used : BTreeSet String) →
    KioskCall KioskShowControlsPollOutcome
  | 0, _, _, _ => lift (.error .pollLimitExceeded)
  | polls + 1, pollIndex, notBeforeMs, used => do
    match ← pollOnce script adapter pairingKey request deadlineAtMs notBeforeMs used with
    | (.pending next, used) => pollResults polls (pollIndex + 1) next used
    | (.effective receipt evidence, _) => return ⟨receipt, evidence, pollIndex⟩

def executeShowControls : KioskCall KioskShowControlsOutcome := do
  lift request.validate
  lift (errorIf pairingKey.isEmpty .invalidRequest)
  lift (errorIf (isInvalid KioskOwnerContractBinding.showControlsV1) .ownerContractMismatch)
  let opening ← openShowControls script adapter pairingKey request
  let nextPollNotBeforeMs ← nowMs script
  let outcome ← pollResults script adapter pairingKey request opening.deadlineAtMs
    adapter.limits.maximumPolls 1 nextPollNotBeforeMs opening.usedTransportIds
  return ⟨outcome.effectiveReceipt, outcome.ownerReceipt, opening.statusTransportRequestId,
    opening.invokeTransportRequestId, outcome.pollCount⟩

def invokeShowControls : KioskCall KioskShowControlsDispatch := do
  lift request.validate
  lift (errorIf pairingKey.isEmpty .invalidRequest)
  let opening ← openShowControls script adapter pairingKey request
  return ⟨opening.deadlineAtMs, opening.statusTransportRequestId, opening.invokeTransportRequestId⟩

def maximumWindowMs : Int := kioskDirectOperatorMaxClockSkewSeconds * 1000

def pollShowControlsResult : KioskCall KioskShowControlsPollOutcome := do
  lift request.validate
  lift (errorIf pairingKey.isEmpty .invalidRequest)
  let startedAtMs ← nowMs script
  lift (errorIf (deadlineAtMs ≤ startedAtMs ∨
    (Checked.fit i64Min i64Max (deadlineAtMs - startedAtMs)).all (· > maximumWindowMs)) .deadlineExceeded)
  lift (errorIf (isInvalid KioskOwnerContractBinding.showControlsV1) .ownerContractMismatch)
  pollResults script adapter pairingKey request deadlineAtMs adapter.limits.maximumPolls 1 startedAtMs ∅

end Script

end RustyFleet.KioskAdapter

import RustyFleet.Contracts.CheckIn
import RustyFleet.Contracts.Kiosk
import RustyFleet.Contracts.Text
import RustyFleet.Support.HexText

namespace RustyFleet.KioskAdapter

/-- The digest crate. -/
class Sha256 where
  digest : Bytes → Bytes

def headerRequestId := "x-rusty-request-id"
def headerTimestamp := "x-rusty-timestamp"
def headerContentSha256 := "x-rusty-content-sha256"
def headerSignature := "x-rusty-signature"

inductive HttpMethod
  | get | post
deriving DecidableEq, Repr

def HttpMethod.asStr : HttpMethod → String
  | .get => "GET"
  | .post => "POST"

inductive RedirectPolicy
  | deny
deriving DecidableEq, Repr

structure KioskHttpRequest where
  method : HttpMethod
  url : String
  requestTarget : String
  headers : BTreeMap String String
  body : Bytes
  redirectPolicy : RedirectPolicy
  maximumResponseBytes : Nat
  timeoutMs : Nat
  deadlineAtMs : Int

structure KioskHttpResponse where
  status : Nat
  headers : BTreeMap String String
  body : Bytes
  redirected : Bool
  receivedAtMs : Int

inductive AdapterError
  | invalidLimits | invalidRequest | invalidEndpoint | invalidTransportRequestId
  | duplicateTransportRequestId | deadlineExceeded | pollLimitExceeded | transport (message : String)
  | redirectRejected | responseTooLarge | missingResponseHeader (header : String)
  | responseRequestIdMismatch | responseDigestMismatch | responseSignatureMismatch
  | unexpectedHttpStatus (status : Nat) | invalidJson | ownerContractMismatch | ownerInvokeMismatch
  | ownerResultMismatch | ownerRejected | effectiveReceiptInvalid
deriving DecidableEq, Repr

abbrev AdapterResult := Except AdapterError

def isRequestId (value : String) : Bool :=
  8 ≤ value.utf8ByteSize && value.utf8ByteSize ≤ 64 &&
    value.toList.all fun byte => asciiAlphanumeric byte || byte == '_' || byte == '-'

def header (headers : BTreeMap String String) (expected : String) : Option String :=
  (headers.toList.find? fun (name, _) => eqIgnoreAsciiCase name.toList expected.toList).map (·.2)

def constantTimeEqual (left right : Bytes) : Bool :=
  if left.length ≠ right.length then false
  else (left.zip right).foldl (fun difference (left, right) => difference ||| (left ^^^ right)) 0 == 0

section Signing

variable [Sha256]

def sha256Hex (bytes : Bytes) : String := HexText.encode (Sha256.digest bytes)

def hmacBlockBytes : Nat := 64

/-- The key, or its digest when it is longer than a block, filled up with zeros. -/
def normalizedKey (key : Bytes) : Bytes :=
  let shortened := if key.length > hmacBlockBytes then Sha256.digest key else key
  (List.range hmacBlockBytes).map fun index => shortened.getD index 0

def hmacSha256 (key message : Bytes) : Bytes :=
  let innerKey := (normalizedKey key).map (0x36 ^^^ ·)
  let outerKey := (normalizedKey key).map (0x5c ^^^ ·)
  Sha256.digest (outerKey ++ Sha256.digest (innerKey ++ message))

def canonicalRequest (method requestTarget requestId : String) (timestampSeconds : Int)
    (contentSha256 : String) : String :=
  toAsciiUppercase method ++ "\n" ++ requestTarget ++ "\n" ++ requestId ++ "\n" ++ timestampSeconds.repr ++
    "\n" ++ contentSha256

def canonicalResponse (requestId : String) (status : Nat) (contentSha256 : String) : String :=
  "RESPONSE\n" ++ requestId ++ "\n" ++ status.repr ++ "\n" ++ contentSha256

def signature (pairingKey canonical : String) : String :=
  HexText.encode (hmacSha256 pairingKey.toUTF8.toList canonical.toUTF8.toList)

def signRequest (pairingKey method requestTarget requestId : String) (timestampSeconds : Int)
    (contentSha256 : String) : AdapterResult String :=
  if pairingKey.isEmpty ∨ ¬ isRequestId requestId ∨ ¬ isLowerHexSha256 contentSha256 ∨
      requestTarget.isEmpty ∨ requestTarget.toList.any fun c => c == '\r' || c == '\n' then
    .error .invalidRequest
  else
    .ok (signature pairingKey
      (canonicalRequest method requestTarget requestId timestampSeconds contentSha256))

def signResponse (pairingKey requestId : String) (status : Nat) (contentSha256 : String) :
    AdapterResult String :=
  if pairingKey.isEmpty ∨ ¬ isRequestId requestId ∨ ¬ isLowerHexSha256 contentSha256 then
    .error .invalidRequest
  else .ok (signature pairingKey (canonicalResponse requestId status contentSha256))

def requireHeader (headers : BTreeMap String String) (expected : String) : AdapterResult String :=
  match header headers expected with
  | some value => .ok value
  | none => .error (.missingResponseHeader expected)

def verifySignedResponse (pairingKey expectedRequestId : String) (response : KioskHttpResponse) :
    AdapterResult Unit := do
  let responseRequestId ← requireHeader response.headers headerRequestId
  let declaredSha ← requireHeader response.headers headerContentSha256
  let declared ← requireHeader response.headers headerSignature
  errorIf (responseRequestId ≠ expectedRequestId) .responseRequestIdMismatch
  let actualSha := sha256Hex response.body
  errorIf (¬ constantTimeEqual declaredSha.toUTF8.toList actualSha.toUTF8.toList) .responseDigestMismatch
  let expectedSignature ← signResponse pairingKey expectedRequestId response.status actualSha
  errorIf (¬ constantTimeEqual declared.toUTF8.toList expectedSignature.toUTF8.toList)
    .responseSignatureMismatch

end Signing

end RustyFleet.KioskAdapter

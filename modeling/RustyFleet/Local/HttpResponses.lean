import RustyFleet.Adapter.KioskTransport
import RustyFleet.Support.Framing

namespace RustyFleet

namespace HttpClients

open Framing

def usizeMax : Nat := u64Max
def isizeMax : Nat := 2 ^ 63 - 1

/-- The bytes of a slice: Rust allocates at most `isize::MAX` of them. -/
abbrev ByteSlice := { bytes : Bytes // bytes.length ≤ isizeMax }

def headerTerminator : Bytes := [13, 10, 13, 10]
def headerMaximum : Nat := 32 * 1024
def maxResponseBytes : Nat := 16 * 1024 * 1024

section Text

def fromUtf8 (bytes : Bytes) : Option (List Char) := bytes.toByteArray.utf8Decode?.map Array.toList

/-- `split("\r\n")`. -/
def splitLines : List Char → List (List Char)
  | [] => [[]]
  | '\r' :: '\n' :: rest => [] :: splitLines rest
  | c :: rest =>
    match splitLines rest with
    | [] => [[c]]
    | line :: lines => (c :: line) :: lines

def splitOnce (separator : Char) : List Char → Option (List Char × List Char)
  | [] => none
  | c :: rest =>
    if c = separator then some ([], rest)
    else (splitOnce separator rest).map fun (before, after) => (c :: before, after)

/-- `str::parse` of an unsigned integer type with this greatest value. -/
def parseUnsigned (greatest : Nat) (text : List Char) : Option Nat :=
  let digits := match text with
    | '+' :: rest => rest
    | _ => text
  if digits.isEmpty || !digits.all asciiDigit then none
  else
    let value := digits.foldl (fun value c => value * 10 + (c.toNat - '0'.toNat)) 0
    if value ≤ greatest then some value else none

def checkedAdd (left right : Nat) : Option Nat := if left + right ≤ usizeMax then some (left + right) else none

/-- The header lines as a map; a repeated name is refused, and an empty one where that is refused too. -/
def collectHeaders {ε : Type} (malformed repeated : ε) (emptyRefused : Bool)
    (headers : BTreeMap String String) : List (List Char) → Except ε (BTreeMap String String)
  | [] => .ok headers
  | line :: rest => do
    let (name, value) ← orError (splitOnce ':' line) malformed
    let name := String.ofList ((trim name).map asciiLower)
    errorIf ((emptyRefused ∧ name.isEmpty) ∨ headers.contains name) repeated
    collectHeaders malformed repeated emptyRefused (headers.insert name (String.ofList (trim value))) rest

end Text

section Kiosk

def kioskHeaders : List (List Char) → Except String (BTreeMap String String) :=
  collectHeaders "Kiosk response header line is malformed"
    "Kiosk response contains an empty or duplicate header" true ∅

/-- Content-Length as the read loop looks for it, in the lines after the status line. -/
def scanContentLength (maximumBodyBytes : Nat) (found : Option Nat) :
    List (List Char) → Except String (Option Nat)
  | [] => .ok found
  | line :: rest => do
    let (name, value) ← orError (splitOnce ':' line) "Kiosk response header line is malformed"
    errorIf (eqIgnoreAsciiCase (trim name) "transfer-encoding".toList) "Kiosk chunked responses are not accepted"
    if eqIgnoreAsciiCase (trim name) "content-length".toList then
      errorIf (found.isSome = true) "Kiosk response repeats Content-Length"
      let parsed ← orError (parseUnsigned usizeMax (trim value)) "Kiosk response Content-Length is invalid"
      errorIf (parsed > maximumBodyBytes) "Kiosk response body exceeds its limit"
      scanContentLength maximumBodyBytes (some parsed) rest
    else scanContentLength maximumBodyBytes found rest

def expectedHttpResponseLength (response : Bytes) (maximumBodyBytes : Nat) : Except String (Option Nat) :=
  match firstMatch headerTerminator response with
  | none =>
    if response.length > headerMaximum then .error "Kiosk response header exceeded 32 KiB" else .ok none
  | some headerEnd => do
    let headerText ← orError (fromUtf8 (response.take headerEnd)) "Kiosk response header is not UTF-8"
    let contentLength ← scanContentLength maximumBodyBytes none ((splitLines headerText).drop 1)
    let contentLength ← orError contentLength "Kiosk response omitted Content-Length"
    let expected ← orError ((checkedAdd headerEnd 4).bind (checkedAdd · contentLength))
      "Kiosk response length overflowed"
    return some expected

def parseStatus (statusLine : List Char) : Except String Nat := do
  let parts := splitWhitespace statusLine
  let code ← orError parts[1]? "Kiosk response omitted its status code"
  let status ← orError (parseUnsigned 65535 code) "Kiosk response status code is invalid"
  let protocol := parts.head?.getD []
  errorIf (protocol ≠ "HTTP/1.1".toList ∧ protocol ≠ "HTTP/1.0".toList)
    "Kiosk response protocol is unsupported"
  return status

/-- `unix_time_ms` is read when the response is complete. -/
def parseKioskHttpResponse (unixTimeMs : Except String Int) (response : Bytes) (maximumBodyBytes : Nat) :
    Except String KioskAdapter.KioskHttpResponse := do
  let headerEnd ← orError (firstMatch headerTerminator response)
    "Kiosk response omitted a complete HTTP header"
  errorIf (headerEnd > headerMaximum) "Kiosk response header exceeded 32 KiB"
  let headerText ← orError (fromUtf8 (response.take headerEnd)) "Kiosk response header is not UTF-8"
  let lines := splitLines headerText
  let statusLine ← orError lines.head? "Kiosk response omitted its status line"
  let status ← parseStatus statusLine
  let headers ← kioskHeaders (lines.drop 1)
  errorIf (headers.contains "transfer-encoding") "Kiosk chunked responses are not accepted"
  let text ← orError headers["content-length"]? "Kiosk response omitted Content-Length"
  let contentLength ← orError (parseUnsigned usizeMax text.toList) "Kiosk response Content-Length is invalid"
  errorIf (contentLength > maximumBodyBytes) "Kiosk response body exceeds its limit"
  errorIf (response.length ≠ min (headerEnd + 4 + contentLength) usizeMax)
    "Kiosk response body differs from Content-Length"
  let receivedAtMs ← unixTimeMs
  return ⟨status, headers, response.drop (headerEnd + 4), false, receivedAtMs⟩

/-- The read loop of `send_kiosk_http`; a read that finds the deadline reached is one of its errors. -/
def kioskFramer (maximumResponseBytes : Nat) : Framer UInt8 String where
  maximum := min (maximumResponseBytes + headerMaximum) usizeMax
  tooLong := "Kiosk response exceeded its bounded wire size"
  exceeded := "Kiosk response exceeded its declared Content-Length"
  expectedLength response := expectedHttpResponseLength response maximumResponseBytes

def readKioskHttp (maximumResponseBytes : Nat) (reads : List (Except String Bytes)) : ReadOutcome UInt8 String :=
  readLoop (kioskFramer maximumResponseBytes) [] reads

end Kiosk

section Fleetctl

structure CliFailure where
  code : String
  message : String
deriving DecidableEq

def fleetctlHeaders : List (List Char) → Except CliFailure (BTreeMap String String) :=
  collectHeaders ⟨"invalid_hub_response", "Fleet Hub response header line is malformed"⟩
    ⟨"invalid_hub_response", "Fleet Hub response repeated a header"⟩ false ∅

def parseHeaders (header : Bytes) : Except CliFailure (Nat × Nat) := do
  let text ← orError (fromUtf8 header) ⟨"invalid_hub_response", "Fleet Hub response header is not UTF-8"⟩
  let lines := splitLines text
  let parts := splitWhitespace (lines.head?.getD [])
  let status ← orError (parseUnsigned 65535 (parts[1]?.getD []))
    ⟨"invalid_hub_response", "Fleet Hub response status is invalid"⟩
  let protocol := parts.head?.getD []
  errorIf (protocol ≠ "HTTP/1.1".toList ∧ protocol ≠ "HTTP/1.0".toList)
    ⟨"invalid_hub_response", "Fleet Hub response protocol is unsupported"⟩
  let headers ← fleetctlHeaders (lines.drop 1)
  errorIf (headers.contains "transfer-encoding")
    ⟨"invalid_hub_response", "fleetctl does not accept chunked Fleet Hub responses"⟩
  let value ← orError headers["content-length"]?
    ⟨"invalid_hub_response", "Fleet Hub response omitted Content-Length"⟩
  let contentLength ← orError (parseUnsigned usizeMax value.toList)
    ⟨"invalid_hub_response", "Fleet Hub Content-Length is invalid"⟩
  errorIf (contentLength > maxResponseBytes) ⟨"hub_response_too_large", "Fleet Hub response exceeded 16 MiB"⟩
  return (status, contentLength)

def expectedWireLength (response : Bytes) : Except CliFailure (Option Nat) :=
  match firstMatch headerTerminator response with
  | none =>
    if response.length > headerMaximum then
      .error ⟨"invalid_hub_response", "Fleet Hub response header exceeded 32 KiB"⟩
    else .ok none
  | some headerEnd => do
    let (_, contentLength) ← parseHeaders (response.take headerEnd)
    let expected ← orError ((checkedAdd headerEnd 4).bind (checkedAdd · contentLength))
      ⟨"invalid_hub_response", "Fleet Hub response length overflowed"⟩
    return some expected

/-- The part of `parse_response` before its JSON is read: the status and the body. -/
def parseFrame (response : Bytes) : Except CliFailure (Nat × Bytes) := do
  let headerEnd ← orError (firstMatch headerTerminator response)
    ⟨"invalid_hub_response", "Fleet Hub response omitted a complete HTTP header"⟩
  let (status, contentLength) ← parseHeaders (response.take headerEnd)
  errorIf (response.length ≠ min (headerEnd + 4 + contentLength) usizeMax)
    ⟨"invalid_hub_response", "Fleet Hub response differs from Content-Length"⟩
  return (status, response.drop (headerEnd + 4))

/-- The JSON reader: a document or its error, and the text a document holds under a name. -/
class JsonReader where
  fromSlice : Bytes → Except String JsonValue
  textUnder : JsonValue → String → Option String

def parseResponse [JsonReader] (response : Bytes) : Except CliFailure JsonValue := do
  let (status, body) ← parseFrame response
  match JsonReader.fromSlice body with
  | .error error => .error ⟨"invalid_hub_response", "Fleet Hub response is not valid JSON: " ++ error⟩
  | .ok value =>
    if status = 200 then .ok value
    else .error ⟨(JsonReader.textUnder value "code").getD "hub_request_failed",
      (JsonReader.textUnder value "message").getD ("Fleet Hub returned HTTP " ++ toString status)⟩

def fleetctlFramer : Framer UInt8 CliFailure where
  maximum := maxResponseBytes + headerMaximum
  tooLong := ⟨"hub_response_too_large", "Fleet Hub response exceeded 16 MiB"⟩
  exceeded := ⟨"invalid_hub_response", "Fleet Hub response exceeded Content-Length"⟩
  expectedLength := expectedWireLength

def readUntil (reads : List (Except CliFailure Bytes)) : ReadOutcome UInt8 CliFailure :=
  readLoop fleetctlFramer [] reads

end Fleetctl

end HttpClients

end RustyFleet

import RustyFleet.Contracts.Observation
import RustyFleet.Contracts.SavedViews
import RustyFleet.Contracts.Text

namespace RustyFleet

def maxCheckinTtlMs : Int := 300000
def maxCheckinBytes : Nat := 256 * 1024
def maxCheckinIdentifierBytes : Nat := 128
def checkinSignatureDomain : Bytes := "rusty.fleet.signed_checkin.v1\x00".toUTF8.toList
def checkinSignatureAlgorithm := "ed25519-jcs"

structure FleetCheckInClaims where
  schema : String
  checkinId : String
  issuedAtMs : Int
  expiresAtMs : Int
  manifoldPeerStatusProposal : JsonValue
  observation : DeviceObservation
  extensions : BTreeMap String JsonValue
deriving DecidableEq

structure SignedFleetCheckIn where
  schema : String
  keyId : String
  algorithm : String
  signatureHex : String
  claims : FleetCheckInClaims
deriving DecidableEq

/-- JSON serialisation of check-in claims. -/
class CheckInCodec where
  isJsonObject : JsonValue → Bool
  encodedClaimsBytes : FleetCheckInClaims → Option Nat
  canonicalClaims : FleetCheckInClaims → Option Bytes

def isIdentifierEdge (c : Char) : Bool := asciiLowercase c || asciiDigit c

def isIdentifierBody (c : Char) : Bool := isIdentifierEdge c || c == '_' || c == '-'

def isDottedSegment (segment : List Char) : Bool :=
  !segment.isEmpty && segment.head?.any isIdentifierEdge && segment.getLast?.any isIdentifierEdge &&
    segment.all isIdentifierBody

def requireDottedId (value path : String) : List ContractViolation :=
  requireNonempty value path ++
  violationIf (value.utf8ByteSize > maxCheckinIdentifierBytes ∨
      ¬ (splitSegments '.' value.toList).all isDottedSegment)
    "invalid_dotted_id" path
    "identifier must be at most 128 bytes and use lowercase dotted-id grammar"

namespace FleetCheckInClaims

variable (claims : FleetCheckInClaims)

/-- The provenance of every fact the observation carries, under its field path. -/
def factProvenances : List (String × FactProvenance) :=
  (claims.observation.agent.map fun agent => ("observation.agent.provenance", agent.provenance)).toList ++
  (claims.observation.power.map fun power => ("observation.power.provenance", power.provenance)).toList ++
  (claims.observation.application.map fun application =>
    ("observation.application.provenance", application.provenance)).toList

def factWindowViolations : List ContractViolation :=
  claims.factProvenances.flatMap fun (path, provenance) =>
    violationIf (provenance.observedAtMs ≠ claims.observation.sourceTimeMs ∨
        provenance.freshUntilMs ≠ claims.expiresAtMs)
      "fact_window_mismatch" path "M1 fact time must match source time and check-in expiry"

def windowViolations : List ContractViolation :=
  violationIf (claims.issuedAtMs < 0 ∨ claims.expiresAtMs ≤ claims.issuedAtMs ∨
      saturateI64 (claims.expiresAtMs - claims.issuedAtMs) > maxCheckinTtlMs)
    "invalid_checkin_window" "expires_at_ms"
    "check-in window must be positive and no longer than five minutes"

/-- The domain-separated bytes a signature covers. -/
def signingBytes [CheckInCodec] : Option Bytes :=
  (CheckInCodec.canonicalClaims claims).map (checkinSignatureDomain ++ ·)

end FleetCheckInClaims

variable [ObservationCodec] [CheckInCodec]

instance : ValidateContract FleetCheckInClaims where
  violations claims :=
    violationIf (claims.schema ≠ "rusty.fleet.checkin_claims.v1")
      "wrong_schema" "schema" "expected rusty.fleet.checkin_claims.v1" ++
    requireDottedId claims.checkinId "checkin_id" ++
    claims.windowViolations ++
    violationIf (¬ CheckInCodec.isJsonObject claims.manifoldPeerStatusProposal)
      "invalid_manifold_proposal" "manifold_peer_status_proposal"
      "Manifold peer-status proposal must be a JSON object" ++
    violationIf (claims.observation.sourceTimeMs ≠ claims.issuedAtMs)
      "source_issue_mismatch" "observation.source_time_ms"
      "M1 check-in source time must equal its signed issue time" ++
    violationIf (claims.observation.receivedTimeMs ≠ 0)
      "untrusted_receive_time" "observation.received_time_ms"
      "signed check-ins must leave received time zero for the Hub ingress adapter" ++
    claims.factWindowViolations ++
    (violations claims.observation).map (·.within "observation.") ++
    violationIf (claims.extensions.size > 16)
      "checkin_extensions_exceeded" "extensions" "check-in supports at most 16 extension fields" ++
    violationIf ((CheckInCodec.encodedClaimsBytes claims).any (· > maxCheckinBytes))
      "checkin_bytes_exceeded" "checkin" "serialized check-in exceeds the 256 KiB low-rate limit"

def isLowerHexDigit (c : Char) : Bool := asciiDigit c || ('a' ≤ c && c ≤ 'f')

instance : ValidateContract SignedFleetCheckIn where
  violations signed :=
    violationIf (signed.schema ≠ "rusty.fleet.signed_checkin.v1")
      "wrong_schema" "schema" "expected rusty.fleet.signed_checkin.v1" ++
    requireDottedId signed.keyId "key_id" ++
    violationIf (signed.algorithm ≠ checkinSignatureAlgorithm)
      "unsupported_signature" "algorithm"
      "M1 supports only Ed25519 signatures over RFC 8785/JCS claims" ++
    violationIf (signed.signatureHex.utf8ByteSize ≠ 128 ∨
        ¬ signed.signatureHex.toList.all isLowerHexDigit)
      "invalid_signature_encoding" "signature_hex"
      "signature must be 64 bytes encoded as lowercase hexadecimal" ++
    violations signed.claims

/-- What a check-in that passes its contract says about its window and its observation. -/
theorem signed_valid_facts (signed : SignedFleetCheckIn) (valid : Valid signed) :
    0 ≤ signed.claims.issuedAtMs ∧ signed.claims.issuedAtMs < signed.claims.expiresAtMs ∧
      signed.claims.expiresAtMs - signed.claims.issuedAtMs ≤ maxCheckinTtlMs ∧
      signed.claims.observation.sourceTimeMs = signed.claims.issuedAtMs ∧
      signed.claims.observation.receivedTimeMs = 0 ∧ Valid signed.claims.observation := by
  have parts : _ ++ violations signed.claims = [] := valid
  have claims : _ ++ (violations signed.claims.observation).map _ ++ _ ++ _ = [] :=
    (List.append_eq_nil_iff.mp parts).2
  simp only [FleetCheckInClaims.windowViolations, List.append_eq_nil_iff, violationIf_nil,
    List.map_eq_nil_iff, not_or] at claims
  obtain ⟨⟨⟨⟨⟨⟨⟨_, window⟩, _⟩, source⟩, received⟩, _⟩, observation⟩, _⟩ := claims.1
  obtain ⟨issued, expires, lifetime⟩ := window
  have bounded : saturateI64 (signed.claims.expiresAtMs - signed.claims.issuedAtMs) ≤ maxCheckinTtlMs :=
    Int.not_lt.mp lifetime
  refine ⟨by omega, by omega, ?_, by simpa using source, by simpa using received, observation⟩
  simp only [saturateI64, i64Max, i64Min, maxCheckinTtlMs] at bounded ⊢
  omega

end RustyFleet

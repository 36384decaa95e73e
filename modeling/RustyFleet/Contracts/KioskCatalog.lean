import RustyFleet.Contracts.Kiosk
import RustyFleet.Contracts.OwnerOperation
import RustyFleet.Contracts.Text

namespace RustyFleet

def kioskOwnerCatalogSnapshotSchema := "rusty.kiosk.catalog_snapshot.v1"
def kioskCatalogSnapshotSchema := "rusty.fleet.kiosk_catalog_snapshot.v1"
def kioskCatalogSearchSemantics := "rusty.kiosk.catalog_search.v1"
def kioskCatalogSummaryScope := "kiosk.catalog-summary"
def kioskCatalogDetailScope := "kiosk.catalog-detail"
def kioskV2CatalogAdmissionSchema := "rusty.fleet.kiosk_v2_catalog_admission.v1"
def kioskV2EncryptedRouteId := "kiosk.encrypted.v2"
def maxEvidenceWindowMs : Int := 30000

/-- Unicode lowercasing. -/
class UnicodeLowercase where
  toLowercase : String → String

def isTokenByte (c : Char) : Bool := asciiAlphanumeric c || c == '.' || c == '_' || c == '-' || c == ':'

def validToken (value : String) (minimum maximum : Nat) : Bool :=
  minimum ≤ value.utf8ByteSize && value.utf8ByteSize ≤ maximum && value.toList.all isTokenByte

def isBoundedIdentifier (value : String) (limit : Nat) : Bool :=
  !value.isEmpty && value.utf8ByteSize ≤ limit && value.toList.all isTokenByte

def isOwnerEpochByte (c : Char) : Bool := asciiAlphanumeric c || c == '_' || c == '-'

/-- `split_whitespace`: the maximal runs of characters that are not white space. -/
def normalizeCatalogText [UnicodeLowercase] (value : String) : String :=
  UnicodeLowercase.toLowercase
    (String.ofList ([' '].intercalate (splitWhitespace value.toList)))

structure KioskCatalogGrants where
  catalogSummary : Bool
  catalogDetail : Bool
  appLaunch : Bool
deriving DecidableEq

structure KioskCatalogAuthorityBinding where
  receiptSha256 : String
  grantRevision : Nat
  routeId : String
  deviceId : String
  identityRevision : Nat
  kioskOwnerEpoch : String
  issuedAtMs : Int
  expiresAtMs : Int
  scopes : List String
deriving DecidableEq

structure KioskCatalogEntry where
  appIdentity : String
  entryId : String
  entryDigest : String
  displayLabel : String
  disambiguator : String
  packageName : Option String
  installed : Bool
  launchable : Bool
  tags : List String
deriving DecidableEq

structure KioskCatalogSnapshot where
  schema : String
  ownerSchema : String
  rawOwnerSha256 : String
  operatorAuthority : Option KioskCatalogAuthorityBinding
  deviceId : String
  identityRevision : Nat
  kioskOwnerEpoch : String
  snapshotId : String
  catalogRevision : String
  snapshotDigest : String
  observedAtMs : Int
  freshUntilMs : Int
  searchSemantics : String
  complete : Bool
  truncated : Bool
  totalCandidateCount : Nat
  permissionLimitedCount : Nat
  grants : KioskCatalogGrants
  entries : List KioskCatalogEntry
deriving DecidableEq

variable [UnicodeLowercase]

instance : ValidateContract KioskCatalogEntry where
  violations entry :=
    requireNonempty entry.appIdentity "app_identity" ++
    requireNonempty entry.entryId "entry_id" ++
    requireNonempty entry.displayLabel "display_label" ++
    requireNonempty entry.disambiguator "disambiguator" ++
    violationIf (¬ isLowerSha256 entry.entryDigest)
      "invalid_entry_digest" "entry_digest"
      "catalog entry digest must be 64 lowercase hexadecimal characters" ++
    violationIf (¬ isBoundedIdentifier entry.appIdentity 160 ∨ ¬ isBoundedIdentifier entry.entryId 160)
      "invalid_catalog_identifier" "app_identity"
      "catalog identities must be bounded portable identifiers" ++
    violationIf (entry.displayLabel.utf8ByteSize > 256 ∨ entry.disambiguator.utf8ByteSize > 96)
      "catalog_text_too_large" "display_label" "catalog display text exceeds its bound" ++
    violationIf (entry.packageName.any fun value => value.isEmpty || value.utf8ByteSize > 256)
      "invalid_package_name" "package_name" "package detail must be absent or bounded" ++
    violationIf (entry.tags.length > 64 ∨
        entry.tags.any (fun tag => trimmedEmpty tag || tag.utf8ByteSize > 96 || tag != normalizeCatalogText tag) ∨
        ¬ entry.tags.Nodup)
      "invalid_catalog_tags" "tags" "catalog tags must be unique, normalized, nonempty, and bounded" ++
    violationIf (¬ entry.installed ∨ ¬ entry.launchable)
      "non_candidate_catalog_entry" "installed"
      "Fleet snapshots contain only Kiosk-observed installed and launchable entries"

namespace KioskCatalogSnapshot

def expectedScopes (snapshot : KioskCatalogSnapshot) : List String :=
  (if snapshot.grants.catalogSummary then [kioskCatalogSummaryScope] else []) ++
    if snapshot.grants.catalogDetail then [kioskCatalogDetailScope] else []

/-- The authority binds the device, owner epoch, scopes and window of the catalog it came with. -/
def authorityBound (snapshot : KioskCatalogSnapshot) (authority : KioskCatalogAuthorityBinding) : Prop :=
  isLowerSha256 authority.receiptSha256 = true ∧ authority.grantRevision ≠ 0 ∧
    trimmedEmpty authority.routeId = false ∧ authority.routeId.utf8ByteSize ≤ 160 ∧
    authority.deviceId = snapshot.deviceId ∧ authority.identityRevision = snapshot.identityRevision ∧
    authority.kioskOwnerEpoch = snapshot.kioskOwnerEpoch ∧ 0 < authority.issuedAtMs ∧
    authority.issuedAtMs ≤ snapshot.observedAtMs ∧ snapshot.observedAtMs ≤ authority.expiresAtMs ∧
    authority.issuedAtMs < authority.expiresAtMs ∧
    saturateI64 (authority.expiresAtMs - authority.issuedAtMs) ≤ 3600000 ∧
    authority.scopes = snapshot.expectedScopes

instance (snapshot : KioskCatalogSnapshot) (authority : KioskCatalogAuthorityBinding) :
    Decidable (snapshot.authorityBound authority) :=
  inferInstanceAs (Decidable (_ ∧ _))

def authorityViolations (snapshot : KioskCatalogSnapshot) : List ContractViolation :=
  match snapshot.operatorAuthority with
  | some authority =>
    violationIf (¬ snapshot.authorityBound authority)
      "invalid_catalog_authority_binding" "operator_authority"
      "authenticated catalog authority must bind receipt, route, device, owner epoch, grant revision, scopes, and expiry"
  | none =>
    violationIf (snapshot.grants.catalogDetail ∨ snapshot.grants.appLaunch)
      "catalog_grant_without_authority_receipt" "operator_authority"
      "detail and app-launch grants require an authenticated operator authority receipt"

/-- The loop over the entries, remembering the entry ids already inserted. -/
def entriesViolations (entryIds : List String) (index : Nat) :
    List KioskCatalogEntry → List ContractViolation
  | [] => []
  | entry :: rest =>
    let path := "entries[" ++ toString index ++ "]."
    (violations entry).map (·.within path) ++
    violationIf (entry.entryId ∈ entryIds)
      "duplicate_catalog_entry" (path ++ "entry_id")
      "catalog entry identifiers must be unique within a snapshot" ++
    entriesViolations (entry.entryId :: entryIds) (index + 1) rest

end KioskCatalogSnapshot

instance : ValidateContract KioskCatalogSnapshot where
  violations snapshot :=
    violationIf (snapshot.schema ≠ kioskCatalogSnapshotSchema)
      "wrong_schema" "schema" "expected rusty.fleet.kiosk_catalog_snapshot.v1" ++
    violationIf (snapshot.ownerSchema ≠ kioskOwnerCatalogSnapshotSchema ∨
        ¬ isLowerSha256 snapshot.rawOwnerSha256)
      "invalid_catalog_admission_lineage" "raw_owner_sha256"
      "Fleet catalog wrappers must retain the exact owner schema and raw/admission digests" ++
    requireNonempty snapshot.deviceId "device_id" ++
    requireNonempty snapshot.kioskOwnerEpoch "kiosk_owner_epoch" ++
    violationIf (snapshot.identityRevision = 0 ∨ ¬ isLowerSha256 snapshot.catalogRevision)
      "invalid_catalog_revision" "catalog_revision"
      "device identity must be positive and catalog revision must be a SHA-256 digest" ++
    violationIf (¬ isBoundedIdentifier snapshot.snapshotId 160 ∨
        ¬ isBoundedIdentifier snapshot.kioskOwnerEpoch 160 ∨ ¬ isLowerSha256 snapshot.snapshotDigest)
      "invalid_catalog_lineage" "snapshot_id"
      "snapshot identity, owner epoch, or digest is malformed" ++
    violationIf (snapshot.observedAtMs < 0 ∨ snapshot.freshUntilMs < snapshot.observedAtMs ∨
        saturateI64 (snapshot.freshUntilMs - snapshot.observedAtMs) > 3600000)
      "invalid_catalog_freshness" "fresh_until_ms"
      "catalog freshness must be ordered and no longer than one hour" ++
    violationIf (snapshot.searchSemantics ≠ kioskCatalogSearchSemantics)
      "unsupported_search_semantics" "search_semantics"
      "Fleet supports only the pinned Kiosk catalog search semantics" ++
    violationIf (¬ snapshot.grants.catalogSummary ∧ snapshot.entries ≠ [])
      "catalog_without_summary_grant" "grants.catalog_summary"
      "catalog bytes require the current catalog-summary grant" ++
    violationIf (¬ snapshot.grants.catalogDetail ∧ snapshot.entries.any (·.packageName.isSome))
      "package_without_detail_grant" "entries.package_name"
      "package detail requires the current catalog-detail grant" ++
    violationIf (snapshot.grants.catalogDetail ∨ snapshot.grants.appLaunch)
      "summary_only" "grants" "Fleet only admits summary catalogue reads" ++
    snapshot.authorityViolations ++
    violationIf (snapshot.entries.length > 500 ∨ snapshot.totalCandidateCount < snapshot.entries.length ∨
        snapshot.permissionLimitedCount > snapshot.totalCandidateCount ∨
        snapshot.complete ≠ (!snapshot.truncated && snapshot.permissionLimitedCount == 0 &&
          snapshot.totalCandidateCount == snapshot.entries.length))
      "catalog_too_large" "entries" "catalog exceeds the bounded entry count" ++
    KioskCatalogSnapshot.entriesViolations [] 0 snapshot.entries

structure KioskV2CatalogAdmissionBinding where
  schema : String
  requestId : String
  responseRequestId : String
  replayIdentity : String
  requestEnvelopeSha256 : String
  responseEnvelopeSha256 : String
  rawOwnerCatalogSha256 : String
  ownerGrantReceiptSha256 : String
  capabilityId : String
  capabilityEvidenceRevision : Nat
  grantRevision : Nat
  routeId : String
  deviceId : String
  identityRevision : Nat
  kioskOwnerEpoch : String
  catalogRevision : String
  snapshotDigest : String
  issuedAtMs : Int
  expiresAtMs : Int
  scopes : List String
deriving DecidableEq

instance : ValidateContract KioskV2CatalogAdmissionBinding where
  violations binding :=
    violationIf (binding.schema ≠ kioskV2CatalogAdmissionSchema)
      "wrong_schema" "schema" "expected rusty.fleet.kiosk_v2_catalog_admission.v1" ++
    [("request_id", binding.requestId), ("response_request_id", binding.responseRequestId),
      ("replay_identity", binding.replayIdentity), ("capability_id", binding.capabilityId),
      ("route_id", binding.routeId), ("device_id", binding.deviceId),
      ("kiosk_owner_epoch", binding.kioskOwnerEpoch)].flatMap
      (fun (path, value) => requireNonempty value path) ++
    violationIf (¬ validToken binding.requestId 8 256 ∨ ¬ validToken binding.deviceId 1 256 ∨
        ¬ validToken binding.kioskOwnerEpoch 16 96 ∨ ¬ binding.kioskOwnerEpoch.toList.all isOwnerEpochByte)
      "invalid_catalog_binding_identity" "request_id"
      "request, device and owner identity grammar must match the selected read" ++
    violationIf (binding.responseRequestId ≠ binding.requestId)
      "catalog_response_request_mismatch" "response_request_id"
      "verified Kiosk response must bind the exact catalog request" ++
    [("request_envelope_sha256", binding.requestEnvelopeSha256),
      ("response_envelope_sha256", binding.responseEnvelopeSha256),
      ("raw_owner_catalog_sha256", binding.rawOwnerCatalogSha256),
      ("owner_grant_receipt_sha256", binding.ownerGrantReceiptSha256),
      ("catalog_revision", binding.catalogRevision),
      ("snapshot_digest", binding.snapshotDigest)].flatMap (fun (path, digest) =>
        violationIf (¬ isLowerSha256 digest) "invalid_kiosk_v2_digest" path
          "Kiosk v2 evidence digests must be lowercase SHA-256") ++
    violationIf (binding.identityRevision = 0 ∨ binding.capabilityEvidenceRevision = 0 ∨
        binding.grantRevision = 0)
      "invalid_kiosk_v2_revision" "grant_revision"
      "identity, capability, and grant revisions must be positive" ++
    violationIf (binding.issuedAtMs ≤ 0 ∨ binding.expiresAtMs ≤ binding.issuedAtMs ∨
        saturateI64 (binding.expiresAtMs - binding.issuedAtMs) > maxEvidenceWindowMs)
      "invalid_kiosk_v2_freshness" "expires_at_ms"
      "Kiosk v2 catalog evidence must use a positive bounded freshness window" ++
    violationIf (binding.scopes ≠ [kioskCatalogSummaryScope] ∨ ¬ isLowerSha256 binding.replayIdentity)
      "invalid_summary_binding" "scopes" "summary scope and exact replay digest required" ++
    violationIf (binding.routeId ≠ kioskV2EncryptedRouteId ∨
        binding.capabilityId ≠ kioskDirectOperatorCapabilityId)
      "wrong_kiosk_v2_route" "route_id"
      "production catalog admission requires the exact encrypted Kiosk v2 route"

structure ProductionKioskCatalogAdmission where
  binding : KioskV2CatalogAdmissionBinding
  snapshot : KioskCatalogSnapshot
deriving DecidableEq

instance : ValidateContract ProductionKioskCatalogAdmission where
  violations admission :=
    let binding := admission.binding
    let snapshot := admission.snapshot
    let authority := snapshot.operatorAuthority
    violations binding ++ violations snapshot ++
    violationIf (binding.deviceId ≠ snapshot.deviceId ∨
        binding.identityRevision ≠ snapshot.identityRevision ∨
        binding.kioskOwnerEpoch ≠ snapshot.kioskOwnerEpoch ∨
        binding.catalogRevision ≠ snapshot.catalogRevision ∨
        binding.snapshotDigest ≠ snapshot.snapshotDigest ∨
        binding.rawOwnerCatalogSha256 ≠ snapshot.rawOwnerSha256 ∨
        binding.ownerGrantReceiptSha256 ≠ (authority.map (·.receiptSha256)).getD "" ∨
        binding.grantRevision ≠ (authority.map (·.grantRevision)).getD 0 ∨
        binding.routeId ≠ (authority.map (·.routeId)).getD "" ∨
        binding.scopes ≠ (authority.map (·.scopes)).getD [] ∨
        binding.issuedAtMs ≠ (authority.map (·.issuedAtMs)).getD 0 ∨
        binding.expiresAtMs ≠ (authority.map (·.expiresAtMs)).getD 0 ∨
        snapshot.observedAtMs < binding.issuedAtMs ∨ snapshot.observedAtMs > binding.expiresAtMs)
      "production_catalog_binding_mismatch" "binding"
      "production admission must bind the exact Fleet catalog wrapper and owner grant"

end RustyFleet

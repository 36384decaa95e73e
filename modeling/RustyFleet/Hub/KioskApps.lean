import RustyFleet.Contracts.KioskApps
import RustyFleet.Hub.Rows
import RustyFleet.Support.Tally
import RustyFleet.Support.Windows

namespace RustyFleet

structure KioskAppCandidate where
  appIdentity : String
  displayLabel : String
  disambiguator : String
  packageName : Option String
  catalogSnapshotId : String
  kioskOwnerEpoch : String
  catalogRevision : String
  snapshotDigest : String
  catalogEntryId : String
  entryDigest : String
  catalogAgeMs : Int
  catalogFreshness : ProjectionFreshness
  catalogComplete : Bool
  grantExpiresAtMs : Option Int
  row : DeviceRowProjection

structure KioskAppCandidatesResult where
  schema : String
  appIdentity : String
  asOfMs : Int
  candidates : List KioskAppCandidate

/-- Each tag the entry matches under is listed once. -/
def mergedTags (held added : List String) : List String :=
  added.foldl (fun tags tag => if tag ∈ tags then tags else tags ++ [tag]) held

namespace KioskAppMatch

/-- What the search starts an app with. -/
def found (normalizedQuery : String) (entry : KioskCatalogEntry) : KioskAppMatch where
  appIdentity := entry.appIdentity
  displayLabel := entry.displayLabel
  disambiguator := entry.disambiguator
  packageName := entry.packageName
  matchedTags := entry.tagsMatching normalizedQuery
  currentDeviceCount := 0
  refreshRequiredDeviceCount := 0

/-- One matching entry is added to its app. -/
def withEntry (normalizedQuery : String) (item : KioskAppMatch) (entry : KioskCatalogEntry) : KioskAppMatch :=
  { item with
    packageName := item.packageName.or entry.packageName
    matchedTags := Windows.sortBy compare (mergedTags item.matchedTags (entry.tagsMatching normalizedQuery))
    currentDeviceCount := item.currentDeviceCount + 1 }

/-- By case-folded label, then by identity. -/
def order [UnicodeLowercase] (left right : KioskAppMatch) : Ordering :=
  (compareOn (fun item : KioskAppMatch => UnicodeLowercase.toLowercase item.displayLabel) left right).then
    (compareOn (·.appIdentity) left right)

instance [UnicodeLowercase] : Std.TransCmp order := Windows.then_trans

/-- Matches that compare equal are of one app. -/
theorem order_eq [UnicodeLowercase] {left right : KioskAppMatch} (same : order left right = .eq) :
    left.appIdentity = right.appIdentity :=
  Std.LawfulEqOrd.eq_of_compare (Ordering.then_eq_eq.mp same).2

end KioskAppMatch

namespace KioskAppCandidate

/-- By display name, then by device. -/
def order (left right : KioskAppCandidate) : Ordering :=
  (compareOn (·.row.identity.displayName) left right).then (compareOn (·.row.identity.deviceId) left right)

end KioskAppCandidate

/-- The catalog was observed for another identity or another session of the device. -/
def KioskCatalogRecord.unbound (record : KioskCatalogRecord) (device : DeviceRecord) : Prop :=
  record.snapshot.identityRevision ≠ device.observation.identity.identityRevision ∨
    record.sourceEpoch ≠ device.observation.sourceEpoch

instance (record : KioskCatalogRecord) (device : DeviceRecord) : Decidable (record.unbound device) :=
  inferInstanceAs (Decidable (_ ∨ _))

namespace FleetHub

variable (hub : FleetHub)

section Search

variable [UnicodeLowercase]

abbrev AppMatches := BTreeMap String KioskAppMatch

/-- The entries of one catalog that match are added to their apps. -/
def searchEntries (normalizedQuery : String) (found : AppMatches) (entries : List KioskCatalogEntry) : AppMatches :=
  Tally.tally (·.appIdentity) (KioskAppMatch.found normalizedQuery) (KioskAppMatch.withEntry normalizedQuery) found
    (entries.filter (catalogEntryMatches · normalizedQuery))

/-- The loop body of the search: one device is counted once, and a usable catalog's entries are added. -/
def searchDevice (normalizedQuery : String) (nowMs : Int) (state : KioskCatalogCoverage × AppMatches)
    (entry : String × DeviceRecord) : KioskCatalogCoverage × AppMatches :=
  let (coverage, found) := state
  match hub.kioskCatalogs[entry.1]? with
  | none => ({ coverage with absent := coverage.absent + 1 }, found)
  | some record =>
    let snapshot := record.snapshot
    if record.unbound entry.2 then ({ coverage with absent := coverage.absent + 1 }, found)
    else if ¬ snapshot.grants.catalogSummary ∨ snapshot.permissionLimitedCount > 0 then
      ({ coverage with permissionLimited := coverage.permissionLimited + 1 }, found)
    else if ¬ snapshot.complete then
      ({ coverage with incomplete := coverage.incomplete + 1 }, found)
    else if nowMs ≤ snapshot.freshUntilMs then
      ({ coverage with current := coverage.current + 1 }, searchEntries normalizedQuery found snapshot.entries)
    else ({ coverage with stale := coverage.stale + 1 }, found)

def searchDevices (normalizedQuery : String) (nowMs : Int) : KioskCatalogCoverage × AppMatches :=
  hub.devices.toList.foldl (hub.searchDevice normalizedQuery nowMs)
    ({ current := 0, stale := 0, absent := 0, incomplete := 0, permissionLimited := 0 }, ∅)

/-- All matches of a query, in the order they are returned. -/
def kioskAppMatches (normalizedQuery : String) (nowMs : Int) : List KioskAppMatch :=
  Windows.sortBy KioskAppMatch.order (BTreeMap.storedValues (hub.searchDevices normalizedQuery nowMs).2)

def kioskAppSearch (request : KioskAppSearchRequest) (nowMs : Int) : HubResult KioskAppSearchResult := do
  rejectIf (¬ Valid request) "kiosk_app_query_invalid"
    (",".intercalate ((violations request).map (·.code)))
  let normalizedQuery := normalizeCatalogText request.query
  return {
    schema := kioskAppSearchResultSchema
    query := request.query
    normalizedQuery := normalizedQuery
    asOfMs := nowMs
    coverage := (hub.searchDevices normalizedQuery nowMs).1
    appMatches := (hub.kioskAppMatches normalizedQuery nowMs).take request.limit }

end Search

section Candidates

/-- What a device offers of an app: the first entry of its catalog under that identity. -/
def kioskAppCandidate (appIdentity : String) (nowMs : Int) (deviceId : String) (record : KioskCatalogRecord) :
    Option KioskAppCandidate := do
  let entry ← record.snapshot.entries.find? (·.appIdentity == appIdentity)
  let device ← hub.devices[deviceId]?
  guard (¬ record.unbound device)
  return {
    appIdentity := entry.appIdentity
    displayLabel := entry.displayLabel
    disambiguator := entry.disambiguator
    packageName := entry.packageName
    catalogSnapshotId := record.snapshot.snapshotId
    kioskOwnerEpoch := record.snapshot.kioskOwnerEpoch
    catalogRevision := record.snapshot.catalogRevision
    snapshotDigest := record.snapshot.snapshotDigest
    catalogEntryId := entry.entryId
    entryDigest := entry.entryDigest
    catalogAgeMs := max (saturateI64 (nowMs - record.snapshot.observedAtMs)) 0
    catalogFreshness := if nowMs ≤ record.snapshot.freshUntilMs then .fresh else .stale
    catalogComplete := record.snapshot.complete
    grantExpiresAtMs := record.productionAdmission.map (·.expiresAtMs)
    row := hub.row device nowMs }

def kioskAppCandidates (appIdentity : String) (nowMs : Int) : HubResult KioskAppCandidatesResult := do
  rejectIf (appIdentity.isEmpty ∨ appIdentity.utf8ByteSize > 160) "kiosk_app_identity_invalid"
    "exact Kiosk app identity is required"
  return {
    schema := kioskAppCandidatesResultSchema
    appIdentity := appIdentity
    asOfMs := nowMs
    candidates := Windows.sortBy KioskAppCandidate.order
      (hub.kioskCatalogs.toList.filterMap fun (deviceId, record) =>
        hub.kioskAppCandidate appIdentity nowMs deviceId record) }

end Candidates

end FleetHub

end RustyFleet

import RustyFleet.Contracts.KioskCatalog
import RustyFleet.Contracts.WindowsHotspot

namespace RustyFleet

def kioskAppSearchRequestSchema := "rusty.fleet.kiosk_app_search_request.v1"
def kioskAppSearchResultSchema := "rusty.fleet.kiosk_app_search_result.v1"
def kioskAppCandidatesResultSchema := "rusty.fleet.kiosk_app_candidates_result.v1"
def maxSearchMatches := 128

structure KioskAppSearchRequest where
  schema : String
  query : String
  limit : Nat
deriving DecidableEq

instance : ValidateContract KioskAppSearchRequest where
  violations request :=
    violationIf (request.schema ≠ kioskAppSearchRequestSchema)
      "wrong_schema" "schema" "expected rusty.fleet.kiosk_app_search_request.v1" ++
    violationIf (trimmedEmpty request.query ∨ request.query.utf8ByteSize > 256)
      "invalid_app_query" "query" "app or tag query must be nonempty and at most 256 bytes" ++
    violationIf (request.limit = 0 ∨ request.limit > maxSearchMatches)
      "invalid_search_limit" "limit" "app search limit must be between 1 and 128"

structure KioskAppMatch where
  appIdentity : String
  displayLabel : String
  disambiguator : String
  packageName : Option String
  matchedTags : List String
  currentDeviceCount : Nat
  refreshRequiredDeviceCount : Nat
deriving DecidableEq

structure KioskCatalogCoverage where
  current : Nat
  stale : Nat
  absent : Nat
  incomplete : Nat
  permissionLimited : Nat
deriving DecidableEq

structure KioskAppSearchResult where
  schema : String
  query : String
  normalizedQuery : String
  asOfMs : Int
  coverage : KioskCatalogCoverage
  appMatches : List KioskAppMatch
deriving DecidableEq

def KioskCatalogEntry.tagsMatching (entry : KioskCatalogEntry) (normalizedQuery : String) : List String :=
  entry.tags.filter (containsText · normalizedQuery)

def catalogEntryMatches [UnicodeLowercase] (entry : KioskCatalogEntry) (normalizedQuery : String) : Bool :=
  entry.appIdentity == normalizedQuery ||
    containsText (normalizeCatalogText entry.displayLabel) normalizedQuery ||
    entry.packageName.any (fun package => containsText (normalizeCatalogText package) normalizedQuery) ||
    entry.tags.any (containsText · normalizedQuery)

end RustyFleet

import RustyFleet.Hub.State

namespace RustyFleet

/-- `checked_add(1)` on a `u64` counter. -/
def checkedSucc (counter : Nat) : Option Nat := if counter < u64Max then some (counter + 1) else none

/-- The codes of a rejected query or saved view, comma separated. -/
def failureCodes (failures : List ContractViolation) : String :=
  ",".intercalate (failures.map (·.code))

def savedViewConflictMessage (expected current : Nat) : String :=
  "expected saved-view revision " ++ toString expected ++ ", current revision is " ++ toString current

namespace FleetHub

variable (hub : FleetHub)

def savedViewCollection : SavedViewCollection where
  schema := "rusty.fleet.saved_view_collection.v1"
  revision := hub.savedViewRevision
  views := BTreeMap.storedValues hub.savedViews

/-- The revision the Hub moves to when the request's view is new or differs from the stored one. -/
def upsertedRevision (view : SavedView) : HubResult Nat :=
  if hub.savedViews[view.viewId]? = some view then .ok hub.savedViewRevision
  else do
    rejectIf (¬ hub.savedViews.contains view.viewId ∧ hub.savedViews.size ≥ maxSavedViews)
      "saved_view_limit_exceeded" "Fleet Hub supports at most 128 saved views"
    orRefuse (checkedSucc hub.savedViewRevision)
      "saved_view_revision_exhausted" "saved-view revision is exhausted"

def upsertChecks (request : SavedViewMutationRequest) : HubResult Nat := do
  rejectIf (¬ Valid request) "invalid_saved_view" (failureCodes (violations request))
  rejectIf (request.expectedRevision ≠ hub.savedViewRevision) "saved_view_revision_conflict"
    (savedViewConflictMessage request.expectedRevision hub.savedViewRevision)
  hub.upsertedRevision request.view

def upsertReceipt (request : SavedViewMutationRequest) (revision : Nat) : SavedViewMutationReceipt where
  schema := "rusty.fleet.saved_view_mutation_receipt.v1"
  viewId := request.view.viewId
  previousRevision := hub.savedViewRevision
  currentRevision := revision
  changed := decide (hub.savedViews[request.view.viewId]? ≠ some request.view)
  deleted := false
  view := some request.view

def deleteChecks (viewId : String) (expectedRevision : Nat) : HubResult Nat := do
  rejectIf (¬ isValidSavedViewId viewId ∨ expectedRevision = 0) "invalid_saved_view_delete"
    "saved-view deletion requires a bounded ID and positive expected revision"
  rejectIf (expectedRevision ≠ hub.savedViewRevision) "saved_view_revision_conflict"
    (savedViewConflictMessage expectedRevision hub.savedViewRevision)
  let revision ← orRefuse (checkedSucc hub.savedViewRevision)
    "saved_view_revision_exhausted" "saved-view revision is exhausted"
  rejectIf (¬ hub.savedViews.contains viewId) "saved_view_not_found" ("unknown saved view " ++ viewId)
  return revision

def deleteReceipt (viewId : String) (revision : Nat) : SavedViewMutationReceipt where
  schema := "rusty.fleet.saved_view_mutation_receipt.v1"
  viewId := viewId
  previousRevision := hub.savedViewRevision
  currentRevision := revision
  changed := true
  deleted := true
  view := none

/-- The receipt, unless `debug_assert!(receipt.validate().is_ok())` fails. -/
def assertedReceipt (receipt : SavedViewMutationReceipt) : HubResult SavedViewMutationReceipt := do
  panicIf (¬ Valid receipt) "receipt.validate().is_ok()"
  return receipt

def upsertSavedView (request : SavedViewMutationRequest) :
    HubResult SavedViewMutationReceipt × FleetHub :=
  match hub.upsertChecks request with
  | .error fault => (.error fault, hub)
  | .ok revision =>
    (assertedReceipt (hub.upsertReceipt request revision),
      { hub with
        savedViewRevision := revision
        savedViews :=
          if hub.savedViews[request.view.viewId]? = some request.view then hub.savedViews
          else hub.savedViews.insert request.view.viewId request.view })

def deleteSavedView (viewId : String) (expectedRevision : Nat) :
    HubResult SavedViewMutationReceipt × FleetHub :=
  match hub.deleteChecks viewId expectedRevision with
  | .error fault => (.error fault, hub)
  | .ok revision =>
    (assertedReceipt (hub.deleteReceipt viewId revision),
      { hub with
        savedViewRevision := revision
        savedViews := hub.savedViews.erase viewId })

end FleetHub

end RustyFleet

import RustyFleet.Contracts.KioskCatalog
import RustyFleet.Contracts.SavedViews
import RustyFleet.Contracts.WindowsHotspot
import RustyFleet.Hub.Rows
import RustyFleet.Hub.SavedViews
import RustyFleet.Support.Windows

namespace RustyFleet

structure FleetQueryResult where
  schema : String
  query : FleetQuery
  resultRevision : Nat
  asOfMs : Int
  totalCount : Nat
  windowOffset : Nat
  windowCount : Nat
  rows : List DeviceRowProjection

instance : ValidateContract FleetQueryResult where
  violations result :=
    violationIf (result.schema ≠ "rusty.fleet.query_result.v1")
      "wrong_schema" "schema" "expected rusty.fleet.query_result.v1" ++
    violationIf (result.resultRevision = 0)
      "invalid_revision" "result_revision" "result revision must be greater than zero" ++
    violationIf (result.windowCount ≠ result.rows.length ∨
        result.windowOffset + result.windowCount > result.totalCount)
      "invalid_window" "rows" "query result window metadata does not match returned rows" ++
    violations result.query

def compareOrdering (ordering : Ordering) (comparison : Comparison) (contains : Bool) : Bool :=
  match comparison with
  | .equals => ordering == .eq
  | .notEquals => ordering != .eq
  | .contains => contains
  | .lessThan => ordering == .lt
  | .lessThanOrEqual => ordering != .gt
  | .greaterThan => ordering == .gt
  | .greaterThanOrEqual => ordering != .lt
  | .exists => true

section Texts

variable [UnicodeLowercase]

open UnicodeLowercase

def compareText (actual : String) (comparison : Comparison) (value : Option QueryValue) : Bool :=
  if comparison = .exists then !actual.isEmpty
  else match value with
    | some (.text expected) =>
      compareOrdering (compare (toLowercase actual) (toLowercase expected)) comparison
        (containsText (toLowercase actual) (toLowercase expected))
    | some (.textList expected) =>
      let equal := expected.any fun item => toLowercase actual == toLowercase item
      (comparison == .equals && equal) || (comparison == .notEquals && !equal)
    | _ => false

end Texts

def compareOptionalInteger (actual : Option Int) (comparison : Comparison) (value : Option QueryValue) : Bool :=
  if comparison = .exists then actual.isSome
  else match actual, value with
    | some actual, some (.integer expected) => compareOrdering (compare actual expected) comparison false
    | _, _ => false

def compareBool (actual : Bool) (comparison : Comparison) (value : Option QueryValue) : Bool :=
  match value with
  | some (.boolean expected) =>
    (comparison == .equals && actual == expected) || (comparison == .notEquals && actual != expected)
  | _ => false

def conditionFamilyText : ConditionFamily → String
  | .identity => "identity"
  | .freshness => "freshness"
  | .power => "power"
  | .application => "application"
  | .control => "control"
  | .privileged => "privileged"
  | .media => "media"
  | .work => "work"
  | .alert => "alert"

def conditionStateText : ConditionState → String
  | .current => "current"
  | .inProgress => "in_progress"
  | .busy => "busy"
  | .stale => "stale"
  | .unknown => "unknown"
  | .unsupported => "unsupported"
  | .disabled => "disabled"
  | .unauthorized => "unauthorized"
  | .disconnected => "disconnected"
  | .unavailable => "unavailable"
  | .degraded => "degraded"
  | .failed => "failed"
  | .critical => "critical"
  | .restricted => "restricted"

def freshnessText : ProjectionFreshness → String
  | .fresh => "fresh"
  | .stale => "stale"
  | .offline => "offline"
  | .unknown => "unknown"

def freshnessRank : ProjectionFreshness → Nat
  | .fresh => 0
  | .stale => 1
  | .offline => 2
  | .unknown => 3

namespace DeviceRowProjection

variable (row : DeviceRowProjection)

def conditionValues : List String := row.conditions.toList.map fun entry => conditionFamilyText entry.1

def conditionStates : List String :=
  (BTreeMap.storedValues row.conditions).map fun condition => conditionStateText condition.state

def tagText (qualifier : Option String) : Option String := qualifier.bind (row.identity.tags[·]?)

end DeviceRowProjection

section Evaluation

variable [UnicodeLowercase]

def evaluatePredicate (field : QueryField) (comparison : Comparison) (value : Option QueryValue)
    (qualifier : Option String) (row : DeviceRowProjection) : Bool :=
  match field with
  | .deviceId => compareText row.identity.deviceId comparison value
  | .displayName => compareText row.identity.displayName comparison value
  | .model => compareText row.identity.model comparison value
  | .tag => (row.tagText qualifier).any fun actual => compareText actual comparison value
  | .freshness => compareText (freshnessText row.freshness) comparison value
  | .batteryPercent => compareOptionalInteger (row.batteryPercent.map Int.ofNat) comparison value
  | .foregroundApp => row.foregroundApp.any fun actual => compareText actual comparison value
  | .kioskState => compareText row.kioskState comparison value
  | .capability =>
    (qualifier.bind row.capabilities.get).any fun capability =>
      if comparison = .exists then true else compareBool capability.isReady comparison value
  | .conditionFamily => row.conditionValues.any fun text => compareText text comparison value
  | .conditionState => row.conditionStates.any fun state => compareText state comparison value

mutual

def evaluate (row : DeviceRowProjection) : QueryExpression → Bool
  | .predicate field comparison value qualifier => evaluatePredicate field comparison value qualifier row
  | .and expressions => evaluateAll row expressions
  | .or expressions => evaluateAny row expressions
  | .not expression => !evaluate row expression

def evaluateAll (row : DeviceRowProjection) : List QueryExpression → Bool
  | [] => true
  | expression :: rest => evaluate row expression && evaluateAll row rest

def evaluateAny (row : DeviceRowProjection) : List QueryExpression → Bool
  | [] => false
  | expression :: rest => evaluate row expression || evaluateAny row rest

end

theorem evaluateAll_eq (row : DeviceRowProjection) (expressions : List QueryExpression) :
    evaluateAll row expressions = expressions.all (evaluate row) := by
  induction expressions with
  | nil => rfl
  | cons expression rest ih => rw [evaluateAll, ih, List.all_cons]

theorem evaluateAny_eq (row : DeviceRowProjection) (expressions : List QueryExpression) :
    evaluateAny row expressions = expressions.any (evaluate row) := by
  induction expressions with
  | nil => rfl
  | cons expression rest ih => rw [evaluateAny, ih, List.any_cons]

end Evaluation

namespace SortKey

def fieldOrdering (key : SortKey) (left right : DeviceRowProjection) : Ordering :=
  match key.field with
  | .deviceId => compareOn (·.identity.deviceId) left right
  | .displayName => compareOn (·.identity.displayName) left right
  | .model => compareOn (·.identity.model) left right
  | .freshness => compareOn (freshnessRank ·.freshness) left right
  | .batteryPercent => compareOn (·.batteryPercent) left right
  | .foregroundApp => compareOn (·.foregroundApp) left right
  | .kioskState => compareOn (·.kioskState) left right
  | .tag =>
    match key.qualifier with
    | some qualifier => compareOn (fun row : DeviceRowProjection => row.identity.tags[qualifier]?) left right
    | none => .eq
  | .capability | .conditionFamily | .conditionState => .eq

def ordering (key : SortKey) (left right : DeviceRowProjection) : Ordering :=
  match key.direction with
  | .ascending => key.fieldOrdering left right
  | .descending => (key.fieldOrdering left right).swap

instance (key : SortKey) : Std.TransCmp key.fieldOrdering := by
  obtain ⟨field, direction, qualifier⟩ := key
  cases field with
  | deviceId => exact inferInstanceAs (Std.TransCmp (compareOn _))
  | displayName => exact inferInstanceAs (Std.TransCmp (compareOn _))
  | model => exact inferInstanceAs (Std.TransCmp (compareOn _))
  | freshness => exact inferInstanceAs (Std.TransCmp (compareOn fun row : DeviceRowProjection => freshnessRank row.freshness))
  | batteryPercent => exact inferInstanceAs (Std.TransCmp (compareOn _))
  | foregroundApp => exact inferInstanceAs (Std.TransCmp (compareOn _))
  | kioskState => exact inferInstanceAs (Std.TransCmp (compareOn _))
  | tag =>
    cases qualifier with
    | some qualifier => exact inferInstanceAs (Std.TransCmp (compareOn _))
    | none => exact Windows.const_trans
  | capability => exact Windows.const_trans
  | conditionFamily => exact Windows.const_trans
  | conditionState => exact Windows.const_trans

instance (key : SortKey) : Std.TransCmp key.ordering := by
  obtain ⟨field, direction, qualifier⟩ := key
  cases direction with
  | ascending => exact inferInstanceAs (Std.TransCmp (fieldOrdering _))
  | descending => exact Windows.swap_trans

end SortKey

/-- The loop over the sort keys: the first that tells the rows apart decides, then name and device id. -/
def compareByKeys : List SortKey → DeviceRowProjection → DeviceRowProjection → Ordering
  | [], left, right =>
    (compareOn (·.identity.displayName) left right).then (compareOn (·.identity.deviceId) left right)
  | key :: rest, left, right => (key.ordering left right).then (compareByKeys rest left right)

def compareRows (query : FleetQuery) (left right : DeviceRowProjection) : Ordering :=
  compareByKeys query.sort left right

instance (keys : List SortKey) : Std.TransCmp (compareByKeys keys) := by
  induction keys with
  | nil => exact Windows.then_trans
  | cons key rest ih => exact Windows.then_trans

instance (query : FleetQuery) : Std.TransCmp (compareRows query) :=
  inferInstanceAs (Std.TransCmp (compareByKeys query.sort))

/-- Rows that compare equal show one device. -/
theorem compareByKeys_eq (keys : List SortKey) (left right : DeviceRowProjection)
    (same : compareByKeys keys left right = .eq) : left.identity.deviceId = right.identity.deviceId := by
  induction keys with
  | nil => exact Std.LawfulEqOrd.eq_of_compare (Ordering.then_eq_eq.mp same).2
  | cons key rest ih => exact ih (Ordering.then_eq_eq.mp same).2

namespace FleetHub

variable [UnicodeLowercase] (hub : FleetHub)

def selects (query : FleetQuery) (row : DeviceRowProjection) : Bool := query.expression.all (evaluate row)

def matchingRows (query : FleetQuery) (nowMs : Int) : List DeviceRowProjection :=
  ((BTreeMap.storedValues hub.devices).map (hub.row · nowMs)).filter (selects query)

def sortedRows (query : FleetQuery) (nowMs : Int) : List DeviceRowProjection :=
  Windows.sortBy (compareRows query) (hub.matchingRows query nowMs)

def list (query : FleetQuery) (nowMs : Int) : HubResult FleetQueryResult := do
  rejectIf (¬ Valid query) "invalid_query" (failureCodes (violations query))
  let rows := hub.sortedRows query nowMs
  let totalCount := rows.length
  let offset := min query.offset totalCount
  let last := min (offset + query.limit) totalCount
  return {
    schema := "rusty.fleet.query_result.v1"
    query := query
    resultRevision := hub.resultRevision
    asOfMs := nowMs
    totalCount := totalCount
    windowOffset := offset
    windowCount := ((rows.take last).drop offset).length
    rows := (rows.take last).drop offset }

end FleetHub

end RustyFleet

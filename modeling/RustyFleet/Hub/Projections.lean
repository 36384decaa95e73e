import RustyFleet.Hub.Queries

namespace RustyFleet

structure DeviceDetailProjection where
  schema : String
  inspector : DeviceInspectorProjection
  conditionHistory : List StatusCondition

structure FleetSummaryProjection where
  schema : String
  asOfMs : Int
  total : Nat
  fresh : Nat
  stale : Nat
  offline : Nat
  attention : Nat
  activeWork : Nat
deriving DecidableEq, Repr

namespace FleetHub

variable (hub : FleetHub)

def detail (deviceId : String) (nowMs : Int) : HubResult DeviceDetailProjection := do
  let record ← orRefuse hub.devices[deviceId]? "device_not_found" ("unknown device " ++ deviceId)
  let inspector ← hub.inspect deviceId nowMs
  return {
    schema := "rusty.fleet.device_detail.v1"
    inspector := inspector
    conditionHistory := record.conditionHistory }

def rows (nowMs : Int) : List DeviceRowProjection :=
  (BTreeMap.storedValues hub.devices).map (hub.row · nowMs)

def summary (nowMs : Int) : FleetSummaryProjection where
  schema := "rusty.fleet.summary.v1"
  asOfMs := nowMs
  total := (hub.rows nowMs).length
  fresh := (hub.rows nowMs).countP (·.freshness = .fresh)
  stale := (hub.rows nowMs).countP (·.freshness = .stale)
  offline := (hub.rows nowMs).countP (·.freshness = .offline)
  attention := (hub.rows nowMs).countP fun row => (BTreeMap.storedValues row.conditions).any (needsAttention nowMs)
  activeWork := ((hub.rows nowMs).map (·.activeWorkCount)).sum

end FleetHub

end RustyFleet

import RustyFleet.Hub.Queries
import RustyFleet.Safety.Directory
import RustyFleet.Safety.PackageAtomicity
import RustyFleet.Safety.Revisions

namespace RustyFleet

namespace Queries

/-- A comparison of rows that is antisymmetric and transitive, and tells every two listed rows apart. -/
structure OrdersStrictly (order : DeviceRowProjection → DeviceRowProjection → Ordering)
    (rows : List DeviceRowProjection) : Prop where
  antisymmetric : ∀ left right, order right left = (order left right).swap
  transitive : ∀ first second third, (order first second).isLE = true → (order second third).isLE = true →
    (order first third).isLE = true
  separates : ∀ left ∈ rows, ∀ right ∈ rows, order left right = .eq → left = right

section Rows

variable {hub : FleetHub}

theorem rows_deviceIds (keyed : DirectoryKeyed hub) (nowMs : Int) :
    ((BTreeMap.storedValues hub.devices).map (hub.row · nowMs)).map (·.identity.deviceId) =
      hub.devices.toList.map Prod.fst := by
  rw [BTreeMap.storedValues, List.map_map, List.map_map]
  apply List.map_congr_left
  intro entry member
  obtain ⟨deviceId, record⟩ := entry
  exact keyed deviceId record (Std.ExtTreeMap.mem_toList_iff_getElem?_eq_some.mp member)

variable [UnicodeLowercase]

theorem matchingRows_deviceIds (keyed : DirectoryKeyed hub) (query : FleetQuery) (nowMs : Int) :
    ((hub.matchingRows query nowMs).map (·.identity.deviceId)).Nodup := by
  have all : (((BTreeMap.storedValues hub.devices).map (hub.row · nowMs)).map (·.identity.deviceId)).Nodup := by
    rw [rows_deviceIds keyed nowMs]
    exact BTreeMap.toList_keys_nodup hub.devices
  exact all.sublist (List.Sublist.map _ List.filter_sublist)

theorem mem_matchingRows (query : FleetQuery) (nowMs : Int) (row : DeviceRowProjection) :
    row ∈ hub.matchingRows query nowMs ↔ ∃ (deviceId : String) (record : DeviceRecord),
      hub.devices[deviceId]? = some record ∧ row = hub.row record nowMs ∧
        FleetHub.selects query row = true := by
  rw [FleetHub.matchingRows, List.mem_filter, List.mem_map]
  constructor
  · rintro ⟨⟨record, stored, rfl⟩, selected⟩
    obtain ⟨deviceId, found⟩ := (BTreeMap.mem_storedValues_iff hub.devices record).mp stored
    exact ⟨deviceId, record, found, rfl, selected⟩
  · rintro ⟨deviceId, record, found, rfl, selected⟩
    have stored := (BTreeMap.mem_storedValues_iff hub.devices record).mpr ⟨deviceId, found⟩
    exact ⟨⟨record, stored, rfl⟩, selected⟩

theorem matchingRows_ordered (keyed : DirectoryKeyed hub) (keys : List SortKey) (query : FleetQuery)
    (nowMs : Int) : OrdersStrictly (compareByKeys keys) (hub.matchingRows query nowMs) where
  antisymmetric left right := Std.OrientedCmp.eq_swap
  transitive first second third := Std.TransCmp.isLE_trans
  separates left inLeft right inRight same := by
    have device := compareByKeys_eq keys left right same
    have distinct := matchingRows_deviceIds keyed query nowMs
    exact List.inj_on_of_nodup_map distinct inLeft inRight device

theorem sortedRows_strict (keyed : DirectoryKeyed hub) (query : FleetQuery) (nowMs : Int) :
    (hub.sortedRows query nowMs).Pairwise fun left right => compareRows query left right = .lt := by
  have distinct := (matchingRows_deviceIds keyed query nowMs).of_map
  have ordered := matchingRows_ordered keyed query.sort query nowMs
  exact Windows.sortBy_strict (compareRows query) distinct ordered.separates

theorem sortedRows_deviceIds (keyed : DirectoryKeyed hub) (query : FleetQuery) (nowMs : Int) :
    ((hub.sortedRows query nowMs).map (·.identity.deviceId)).Nodup := by
  have reordered := (Windows.sortBy_perm (compareRows query) (hub.matchingRows query nowMs)).map
    (·.identity.deviceId)
  exact reordered.nodup_iff.mpr (matchingRows_deviceIds keyed query nowMs)

theorem mem_sortedRows (query : FleetQuery) (nowMs : Int) (row : DeviceRowProjection) :
    row ∈ hub.sortedRows query nowMs ↔ ∃ (deviceId : String) (record : DeviceRecord),
      hub.devices[deviceId]? = some record ∧ row = hub.row record nowMs ∧
        FleetHub.selects query row = true := by
  rw [FleetHub.sortedRows, Windows.mem_sortBy]
  exact mem_matchingRows query nowMs row

end Rows

section Results

variable [UnicodeLowercase] (hub : FleetHub)

/-- A result that shows the window of a query's rows and describes it truthfully. -/
structure ShowsWindow (query : FleetQuery) (nowMs : Int) (result : FleetQueryResult) : Prop where
  asked : result.query = query ∧ result.asOfMs = nowMs ∧ result.resultRevision = hub.resultRevision
  total : result.totalCount = (hub.sortedRows query nowMs).length
  offset : result.windowOffset = min query.offset (hub.sortedRows query nowMs).length
  count : result.windowCount = result.rows.length
  inside : result.windowOffset + result.windowCount ≤ result.totalCount
  rows : result.rows = Windows.window query.offset query.limit (hub.sortedRows query nowMs)
  valid : Valid result

/-- The rows a caller reads at an offset of a query. -/
def windowRows (query : FleetQuery) (nowMs : Int) (offset : Nat) : List DeviceRowProjection :=
  match hub.list { query with offset := offset } nowMs with
  | .ok result => result.rows
  | .error _ => []

variable {hub}

theorem list_shows (revised : Revised hub) (query : FleetQuery) (valid : Valid query) (nowMs : Int) :
    ∃ result, hub.list query nowMs = .ok result ∧ ShowsWindow hub query nowMs result := by
  unfold FleetHub.list
  rw [rejectIf, errorIf, if_neg (not_not.mpr valid)]
  refine ⟨_, rfl, ?_⟩
  have sliced := Windows.slice_eq_window query.offset query.limit (hub.sortedRows query nowMs)
  have short : ((((hub.sortedRows query nowMs).take (min (min query.offset
      (hub.sortedRows query nowMs).length + query.limit) (hub.sortedRows query nowMs).length)).drop
      (min query.offset (hub.sortedRows query nowMs).length)).length) ≤
      (hub.sortedRows query nowMs).length - min query.offset (hub.sortedRows query nowMs).length := by
    rw [List.length_drop, List.length_take]
    omega
  have inside : min query.offset (hub.sortedRows query nowMs).length ≤ (hub.sortedRows query nowMs).length :=
    Nat.min_le_right _ _
  constructor
  case asked => exact ⟨rfl, rfl, rfl⟩
  case total => rfl
  case offset => rfl
  case count => rfl
  case inside =>
    dsimp only
    omega
  case rows => exact sliced
  case valid =>
    have positive := revised.positive
    have parts : (violations query : List ContractViolation) = [] := valid
    show violations (FleetQueryResult.mk _ _ _ _ _ _ _ _) = []
    simp only [violations, List.append_eq_nil_iff, violationIf_nil] at parts ⊢
    refine ⟨⟨⟨?_, ?_⟩, ?_⟩, parts⟩
    · exact fun wrong => wrong rfl
    · omega
    · omega

end Results

section Runs

variable [HubEnvironment]

/-- Query windows partition the matching rows of every Hub that calls can lead to. -/
theorem query_windows_partition (policy : AssertedPolicy) (calls : List HubCall) (query : FleetQuery)
    (valid : Valid query) (nowMs : Int) :
    let hub := fleetHubMachine.run (.new policy) calls
    (∀ keys : List SortKey, OrdersStrictly (compareByKeys keys) (hub.matchingRows query nowMs)) ∧
      (hub.sortedRows query nowMs).Pairwise (fun left right => compareRows query left right = .lt) ∧
      ((hub.sortedRows query nowMs).map (·.identity.deviceId)).Nodup ∧
      (∀ row, row ∈ hub.sortedRows query nowMs ↔ ∃ (deviceId : String) (record : DeviceRecord),
        hub.devices[deviceId]? = some record ∧ row = hub.row record nowMs ∧
          FleetHub.selects query row = true) ∧
      (∀ offset, ∃ result, hub.list { query with offset := offset } nowMs = .ok result ∧
        ShowsWindow hub { query with offset := offset } nowMs result) ∧
      ∀ count, (hub.sortedRows query nowMs).length ≤ count * query.limit →
        (List.range count).flatMap (fun index => windowRows hub query nowMs (index * query.limit)) =
          hub.sortedRows query nowMs := by
  intro hub
  have keyed : DirectoryKeyed hub :=
    fleetHubMachine.run_invariant (fun _ _ => True) DirectoryKeyed (fun _ call _ => (call_keyed · call))
      (.new policy) calls (fleetHubMachine.admits_true _ calls) (directoryKeyed_new policy)
  have revised : Revised hub :=
    fleetHubMachine.run_invariant (fun _ _ => True) Revised (fun _ call _ => (call_revised · call))
      (.new policy) calls (fleetHubMachine.admits_true _ calls) (revised_new policy)
  have shows (offset : Nat) := list_shows revised { query with offset := offset } valid nowMs
  refine ⟨fun keys => matchingRows_ordered keyed keys query nowMs, sortedRows_strict keyed query nowMs,
    sortedRows_deviceIds keyed query nowMs, mem_sortedRows query nowMs, shows, ?_⟩
  intro count enough
  have read (offset : Nat) : windowRows hub query nowMs offset =
      Windows.window offset query.limit (hub.sortedRows query nowMs) := by
    obtain ⟨result, listed, shown⟩ := shows offset
    rw [windowRows, listed]
    exact shown.rows
  simp only [read]
  exact Windows.windows_cover enough

end Runs

def sampleQuery : FleetQuery where
  schema := "rusty.fleet.query.v1"
  queryId := "query-1"
  expression := some (.predicate .model .contains (some (.text "quest")) none)
  sort := [⟨.batteryPercent, .ascending, none⟩, ⟨.deviceId, .descending, none⟩]
  offset := 0
  limit := 1

def sampleReports : List HubCall :=
  [.observe (PackageSafety.readyObservation "d1") 1000, .observe (PackageSafety.readyObservation "d2") 1000]

def sampleDirectory : FleetHub :=
  (@fleetHubMachine PackageSafety.sampleEnvironment).run (.new PackageSafety.samplePolicy) sampleReports

def sampleRows : List DeviceRowProjection :=
  @FleetHub.sortedRows PackageSafety.sampleEnvironment.toUnicodeLowercase sampleDirectory sampleQuery 2000

theorem sample_windows_partition :
    sampleRows.map (·.identity.deviceId) = ["d2", "d1"] ∧
      (List.range 2).flatMap (fun index => @windowRows PackageSafety.sampleEnvironment.toUnicodeLowercase
        sampleDirectory sampleQuery 2000 (index * sampleQuery.limit)) = sampleRows := by
  have two : sampleRows.map (·.identity.deviceId) = ["d2", "d1"] := by decide
  have size : sampleRows.length = 2 := by
    rw [← List.length_map (f := fun row : DeviceRowProjection => row.identity.deviceId), two]
    rfl
  have enough : sampleRows.length ≤ 2 * sampleQuery.limit := Nat.le_of_eq size
  have partition := @query_windows_partition PackageSafety.sampleEnvironment PackageSafety.samplePolicy
    sampleReports sampleQuery (by decide) 2000
  exact ⟨two, partition.2.2.2.2.2 2 enough⟩

end Queries

end RustyFleet

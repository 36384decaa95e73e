import RustyFleet.Hub.Projections
import RustyFleet.Safety.QueryLists
import RustyFleet.Safety.QueryWindows
import RustyFleet.Support.Selection

namespace RustyFleet

open UnicodeLowercase

/-- Texts of ASCII characters are lowercased letter by letter. -/
class LowercasesAscii [UnicodeLowercase] : Prop where
  ascii : ∀ text : String, (∀ c ∈ text.toList, c.toNat < 128) → toLowercase text = toAsciiLowercase text

namespace FleetSummaryProjection

def freshnessCount (summary : FleetSummaryProjection) : ProjectionFreshness → Nat
  | .fresh => summary.fresh
  | .stale => summary.stale
  | .offline => summary.offline
  | .unknown => 0

end FleetSummaryProjection

namespace FleetHub

variable (hub : FleetHub)

def showsAttention (nowMs : Int) (deviceId : String) : Bool :=
  match hub.inspect deviceId nowMs with
  | .ok inspector => !inspector.attention.isEmpty
  | .error _ => false

end FleetHub

def AsksFreshness [UnicodeLowercase] (query : FleetQuery) (freshness : ProjectionFreshness) : Prop :=
  ∃ text, query.expression = some (.predicate .freshness .equals (some (.text text)) none) ∧
    toLowercase text = toLowercase (freshnessText freshness)

/-- What the projections of one moment say together. -/
structure ProjectionsAgree [UnicodeLowercase] (hub : FleetHub) (nowMs : Int) : Prop where
  total : (hub.summary nowMs).total = hub.devices.size
  partitioned : (hub.summary nowMs).fresh + (hub.summary nowMs).stale + (hub.summary nowMs).offline =
    (hub.summary nowMs).total
  counted : ∀ query freshness, Valid query → AsksFreshness query freshness →
    ∃ result, hub.list query nowMs = .ok result ∧
      (hub.summary nowMs).freshnessCount freshness = result.totalCount
  attention : (hub.summary nowMs).attention = hub.deviceIds.countP (hub.showsAttention nowMs)
  shown : ∀ deviceId ∈ hub.deviceIds, ∃ inspector detail,
    hub.inspect deviceId nowMs = .ok inspector ∧ hub.detail deviceId nowMs = .ok detail ∧
      detail.inspector = inspector ∧
      ∀ query, Valid query → FleetHub.selects query inspector.row = true →
        ∃ offset result, hub.list { query with offset := offset } nowMs = .ok result ∧
          inspector.row ∈ result.rows
  listed : ∀ query result, hub.list query nowMs = .ok result → ∀ row ∈ result.rows,
    ∃ deviceId ∈ hub.deviceIds, ∃ inspector, hub.inspect deviceId nowMs = .ok inspector ∧ inspector.row = row

/-- What one Hub shows later is no fresher and hides no attention. -/
structure OnlyAges (hub : FleetHub) (nowMs laterMs : Int) : Prop where
  freshness : ∀ deviceId before after, hub.inspect deviceId nowMs = .ok before →
    hub.inspect deviceId laterMs = .ok after → freshnessRank before.row.freshness ≤ freshnessRank after.row.freshness
  attention : ∀ deviceId, hub.showsAttention nowMs deviceId = true → hub.showsAttention laterMs deviceId = true

namespace Projections

section Conditions

theorem stale_ages {condition : StatusCondition} {nowMs laterMs : Int} (aged : nowMs ≤ laterMs)
    (stale : condition.isStaleAt nowMs = true) : condition.isStaleAt laterMs = true := by
  rw [StatusCondition.isStaleAt, Bool.or_eq_true, decide_eq_true_eq] at stale ⊢
  rcases stale with expired | marked
  · exact .inl (Int.lt_of_lt_of_le expired aged)
  · exact .inr marked

theorem needsAttention_projected (condition : StatusCondition) (nowMs : Int) :
    FleetHub.needsAttention nowMs (condition.projected nowMs) = FleetHub.needsAttention nowMs condition := by
  unfold StatusCondition.projected
  split
  · rename_i old
    have before : FleetHub.needsAttention nowMs condition = true := by
      rw [FleetHub.needsAttention, old.1, Bool.true_or]
    have after : FleetHub.needsAttention nowMs { condition with state := .stale } = true := by
      have marked : StatusCondition.isStaleAt { condition with state := .stale } nowMs = true := Bool.or_true _
      rw [FleetHub.needsAttention, marked, Bool.true_or]
    rw [before, after]
  · rfl

theorem needsAttention_ages {condition : StatusCondition} {nowMs laterMs : Int} (aged : nowMs ≤ laterMs)
    (needed : FleetHub.needsAttention nowMs condition = true) :
    FleetHub.needsAttention laterMs condition = true := by
  rw [FleetHub.needsAttention, Bool.or_eq_true] at needed ⊢
  rcases needed with stale | state
  · exact .inl (stale_ages aged stale)
  · exact .inr state

theorem newestConditions_projected (conditions : List StatusCondition) (nowMs : Int) (family : ConditionFamily) :
    (newestConditions conditions nowMs)[family]? =
      (Support.firstGreatest StatusCondition.rank (conditions.filter (·.family = family))).map
        (·.projected nowMs) := by
  have filtered : (conditions.map (·.projected nowMs)).filter (·.family = family) =
      (conditions.filter (·.family = family)).map (·.projected nowMs) := by
    rw [List.filter_map]
    congr 2
    funext condition
    simp only [Function.comp_apply, StatusCondition.projected_family]
  rw [newestConditions_lookup, filtered]
  apply Support.argmax_map
  intro condition
  exact condition.projected_rank nowMs

theorem attention_iff (conditions : List StatusCondition) (nowMs : Int) :
    (BTreeMap.storedValues (newestConditions conditions nowMs)).any (FleetHub.needsAttention nowMs) = true ↔
      ∃ family condition,
        Support.firstGreatest StatusCondition.rank (conditions.filter (·.family = family)) = some condition ∧
          FleetHub.needsAttention nowMs condition = true := by
  rw [List.any_eq_true]
  constructor
  · rintro ⟨shown, stored, needed⟩
    obtain ⟨family, found⟩ := (BTreeMap.mem_storedValues_iff _ shown).mp stored
    rw [newestConditions_projected] at found
    obtain ⟨condition, newest, rfl⟩ := Option.map_eq_some_iff.mp found
    rw [needsAttention_projected] at needed
    exact ⟨family, condition, newest, needed⟩
  · rintro ⟨family, condition, newest, needed⟩
    refine ⟨condition.projected nowMs, ?_, ?_⟩
    · rw [BTreeMap.mem_storedValues_iff]
      refine ⟨family, ?_⟩
      rw [newestConditions_projected, newest, Option.map_some]
    · rw [needsAttention_projected]
      exact needed

theorem attention_ages {conditions : List StatusCondition} {nowMs laterMs : Int} (aged : nowMs ≤ laterMs)
    (needed : (BTreeMap.storedValues (newestConditions conditions nowMs)).any
      (FleetHub.needsAttention nowMs) = true) :
    (BTreeMap.storedValues (newestConditions conditions laterMs)).any (FleetHub.needsAttention laterMs) = true := by
  obtain ⟨family, condition, newest, attended⟩ := (attention_iff conditions nowMs).mp needed
  apply (attention_iff conditions laterMs).mpr
  exact ⟨family, condition, newest, needsAttention_ages aged attended⟩

end Conditions

section Freshness

variable (hub : FleetHub)

theorem observationAge_ages (record : DeviceRecord) {nowMs laterMs : Int} (aged : nowMs ≤ laterMs) :
    FleetHub.observationAgeMs record nowMs ≤ FleetHub.observationAgeMs record laterMs := by
  unfold FleetHub.observationAgeMs saturateI64
  omega

theorem projectedFreshness_ages {ageMs laterMs : Int} (aged : ageMs ≤ laterMs) :
    freshnessRank (hub.projectedFreshness ageMs) ≤ freshnessRank (hub.projectedFreshness laterMs) := by
  unfold FleetHub.projectedFreshness
  by_cases offline : ageMs > hub.policy.offlineAfterMs
  · rw [if_pos offline, if_pos (Int.lt_of_lt_of_le offline aged)]
  · rw [if_neg offline]
    by_cases stale : ageMs > hub.policy.staleAfterMs
    · rw [if_pos stale, if_pos (Int.lt_of_lt_of_le stale aged)]
      split
      · decide
      · decide
    · rw [if_neg stale]
      exact Nat.zero_le _

theorem projectedFreshness_known (ageMs : Int) : hub.projectedFreshness ageMs ≠ .unknown := by
  unfold FleetHub.projectedFreshness
  split
  · exact nofun
  · split
    · exact nofun
    · exact nofun

end Freshness

section Texts

variable [UnicodeLowercase] [LowercasesAscii]

theorem freshnessText_lowercase (freshness : ProjectionFreshness) :
    toLowercase (freshnessText freshness) = freshnessText freshness := by
  have plain : (freshnessText freshness).toList.all (fun c => c.toNat < 128) = true ∧
      toAsciiLowercase (freshnessText freshness) = freshnessText freshness := by
    cases freshness <;> decide
  have ascii : ∀ c ∈ (freshnessText freshness).toList, c.toNat < 128 := by
    intro c member
    exact of_decide_eq_true (List.all_eq_true.mp plain.1 c member)
  rw [LowercasesAscii.ascii _ ascii]
  exact plain.2

omit [UnicodeLowercase] [LowercasesAscii] in
theorem freshnessText_injective {left right : ProjectionFreshness}
    (same : freshnessText left = freshnessText right) : left = right := by
  cases left <;> cases right <;> first | rfl | exact absurd same (by decide)

theorem selects_freshness {query : FleetQuery} {freshness : ProjectionFreshness}
    (asks : AsksFreshness query freshness) (row : DeviceRowProjection) :
    FleetHub.selects query row = decide (row.freshness = freshness) := by
  obtain ⟨text, expression, same⟩ := asks
  have compared : FleetHub.selects query row =
      (toLowercase (freshnessText row.freshness) == toLowercase text) := by
    rw [FleetHub.selects, expression, ← Queries.compareText_equals]
    rfl
  rw [compared, same, freshnessText_lowercase, freshnessText_lowercase, Bool.eq_iff_iff, beq_iff_eq,
    decide_eq_true_eq]
  exact ⟨freshnessText_injective, congrArg freshnessText⟩

end Texts

section Lists

theorem limit_of_valid {query : FleetQuery} (valid : Valid query) : 0 < query.limit := by
  have parts : (violations query : List ContractViolation) = [] := valid
  simp only [violations, List.append_eq_nil_iff, violationIf_nil] at parts
  omega

variable [UnicodeLowercase] {hub : FleetHub} {query : FleetQuery} {nowMs : Int}

theorem list_ok {result : FleetQueryResult} (listed : hub.list query nowMs = .ok result) :
    result.totalCount = (hub.sortedRows query nowMs).length ∧
      result.rows = Windows.window query.offset query.limit (hub.sortedRows query nowMs) := by
  simp only [FleetHub.list, exceptBind_ok, errorIf_ok, exceptPure_ok, not_not] at listed
  obtain ⟨_, _, rfl⟩ := listed
  exact ⟨rfl, Windows.slice_eq_window _ _ _⟩

theorem list_of_valid (valid : Valid query) : ∃ result, hub.list query nowMs = .ok result := by
  rw [FleetHub.list, rejectIf, errorIf, if_neg (not_not.mpr valid)]
  exact ⟨_, rfl⟩

theorem sortedRows_length (query : FleetQuery) :
    (hub.sortedRows query nowMs).length = (hub.rows nowMs).countP (FleetHub.selects query) := by
  rw [FleetHub.sortedRows, Windows.sortBy_length, List.countP_eq_length_filter]
  rfl

end Lists

section Summary

variable (hub : FleetHub) (nowMs : Int)

theorem rows_length : (hub.rows nowMs).length = hub.devices.size := by
  rw [FleetHub.rows, BTreeMap.storedValues, List.length_map, List.length_map]
  exact Std.ExtTreeMap.length_toList

theorem rows_known {row : DeviceRowProjection} (member : row ∈ hub.rows nowMs) : row.freshness ≠ .unknown := by
  obtain ⟨record, _, rfl⟩ := List.mem_map.mp member
  exact projectedFreshness_known hub _

theorem freshnessCount_rows (freshness : ProjectionFreshness) :
    (hub.summary nowMs).freshnessCount freshness = (hub.rows nowMs).countP (·.freshness = freshness) := by
  cases freshness with
  | fresh => rfl
  | stale => rfl
  | offline => rfl
  | unknown =>
    have nobody : (hub.rows nowMs).countP (·.freshness = .unknown) = 0 := by
      rw [List.countP_eq_zero]
      intro row member
      rw [decide_eq_true_eq]
      exact rows_known hub nowMs member
    exact nobody.symm

theorem summary_partitioned :
    (hub.summary nowMs).fresh + (hub.summary nowMs).stale + (hub.summary nowMs).offline =
      (hub.summary nowMs).total := by
  let parts : List (DeviceRowProjection → Bool) :=
    [(·.freshness = .fresh), (·.freshness = .stale), (·.freshness = .offline)]
  have exactlyOne : ∀ row ∈ hub.rows nowMs, parts.countP (fun part => part row) = if true = true then 1 else 0 := by
    intro row member
    have known := rows_known hub nowMs member
    cases shown : row.freshness with
    | unknown => exact absurd shown known
    | fresh => simp [parts, shown]
    | stale => simp [parts, shown]
    | offline => simp [parts, shown]
  have partition := Support.countP_partition parts (fun _ => true) (hub.rows nowMs) exactlyOne
  rw [List.countP_true] at partition
  simp only [parts, List.map_cons, List.map_nil, List.sum_cons, List.sum_nil] at partition
  show (hub.rows nowMs).countP _ + (hub.rows nowMs).countP _ + (hub.rows nowMs).countP _ = (hub.rows nowMs).length
  omega

end Summary

section Inspectors

variable {hub : FleetHub} {deviceId : String} {record : DeviceRecord} (nowMs : Int)

theorem mem_deviceIds : deviceId ∈ hub.deviceIds ↔ ∃ record, hub.devices[deviceId]? = some record := by
  rw [FleetHub.deviceIds, List.mem_map]
  constructor
  · rintro ⟨⟨_, record⟩, member, rfl⟩
    exact ⟨record, Std.ExtTreeMap.mem_toList_iff_getElem?_eq_some.mp member⟩
  · rintro ⟨record, stored⟩
    exact ⟨(deviceId, record), Std.ExtTreeMap.mem_toList_iff_getElem?_eq_some.mpr stored, rfl⟩

def inspectorOf (hub : FleetHub) (record : DeviceRecord) (nowMs : Int) : DeviceInspectorProjection where
  schema := "rusty.fleet.device_inspector.v1"
  row := hub.row record nowMs
  attention := (BTreeMap.storedValues (hub.row record nowMs).conditions).filter (FleetHub.needsAttention nowMs)
  streams := record.observation.streams

theorem inspect_eq (stored : hub.devices[deviceId]? = some record) :
    hub.inspect deviceId nowMs = .ok (inspectorOf hub record nowMs) := by
  rw [FleetHub.inspect, stored]
  rfl

theorem inspect_ok {inspector : DeviceInspectorProjection} (inspected : hub.inspect deviceId nowMs = .ok inspector) :
    ∃ record, hub.devices[deviceId]? = some record ∧ inspector = inspectorOf hub record nowMs := by
  cases stored : hub.devices[deviceId]? with
  | none =>
    rw [FleetHub.inspect, stored] at inspected
    cases inspected
  | some record =>
    rw [inspect_eq nowMs stored] at inspected
    cases inspected
    exact ⟨record, rfl, rfl⟩

theorem detail_ok (stored : hub.devices[deviceId]? = some record) :
    ∃ detail, hub.detail deviceId nowMs = .ok detail ∧ detail.inspector = inspectorOf hub record nowMs := by
  rw [FleetHub.detail, inspect_eq nowMs stored, stored]
  exact ⟨_, rfl, rfl⟩

theorem showsAttention_stored (stored : hub.devices[deviceId]? = some record) :
    hub.showsAttention nowMs deviceId =
      (BTreeMap.storedValues (newestConditions record.observation.conditions nowMs)).any
        (FleetHub.needsAttention nowMs) := by
  have shown : hub.showsAttention nowMs deviceId =
      !((BTreeMap.storedValues (newestConditions record.observation.conditions nowMs)).filter
        (FleetHub.needsAttention nowMs)).isEmpty := by
    rw [FleetHub.showsAttention, inspect_eq nowMs stored]
    rfl
  rw [shown, Bool.eq_iff_iff, Bool.not_eq_true', List.isEmpty_eq_false_iff, ne_eq, List.filter_eq_nil_iff,
    List.any_eq_true]
  simp only [not_forall, not_not, exists_prop]

theorem attention_counted (hub : FleetHub) :
    (hub.summary nowMs).attention = hub.deviceIds.countP (hub.showsAttention nowMs) := by
  show List.countP _ (hub.rows nowMs) = _
  rw [FleetHub.rows, BTreeMap.storedValues, FleetHub.deviceIds, List.countP_map, List.countP_map,
    List.countP_map]
  apply List.countP_congr
  rintro ⟨deviceId, record⟩ member
  have stored := Std.ExtTreeMap.mem_toList_iff_getElem?_eq_some.mp member
  show _ ↔ hub.showsAttention nowMs deviceId = true
  rw [showsAttention_stored nowMs stored]
  exact Iff.rfl

end Inspectors

section Agreement

variable [UnicodeLowercase] [LowercasesAscii] (hub : FleetHub) (nowMs : Int)

theorem projections_agree : ProjectionsAgree hub nowMs where
  total := rows_length hub nowMs
  partitioned := summary_partitioned hub nowMs
  counted query freshness valid asks := by
    obtain ⟨result, listed⟩ := list_of_valid valid
    refine ⟨result, listed, ?_⟩
    have selected : FleetHub.selects query = fun row => decide (row.freshness = freshness) := by
      funext row
      exact selects_freshness asks row
    rw [(list_ok listed).1, sortedRows_length, selected, freshnessCount_rows]
  attention := attention_counted nowMs hub
  shown deviceId member := by
    obtain ⟨record, stored⟩ := mem_deviceIds.mp member
    obtain ⟨detail, detailed, same⟩ := detail_ok nowMs stored
    refine ⟨inspectorOf hub record nowMs, detail, inspect_eq nowMs stored, detailed, same, ?_⟩
    intro query valid selected
    have sorted : (inspectorOf hub record nowMs).row ∈ hub.sortedRows query nowMs :=
      (Queries.mem_sortedRows query nowMs _).mpr ⟨deviceId, record, stored, rfl, selected⟩
    obtain ⟨offset, inside⟩ := Windows.exists_window (limit_of_valid valid) sorted
    have moved : Valid { query with offset := offset } := valid
    obtain ⟨result, listed⟩ := list_of_valid moved
    refine ⟨offset, result, listed, ?_⟩
    rw [(list_ok listed).2]
    exact inside
  listed query result listed row member := by
    rw [(list_ok listed).2] at member
    have sorted := List.mem_of_mem_drop (List.mem_of_mem_take member)
    obtain ⟨deviceId, record, stored, rfl, _⟩ := (Queries.mem_sortedRows query nowMs row).mp sorted
    exact ⟨deviceId, mem_deviceIds.mpr ⟨record, stored⟩, _, inspect_eq nowMs stored, rfl⟩

end Agreement

theorem only_ages (hub : FleetHub) {nowMs laterMs : Int} (aged : nowMs ≤ laterMs) : OnlyAges hub nowMs laterMs where
  freshness deviceId before after first second := by
    obtain ⟨record, stored, rfl⟩ := inspect_ok nowMs first
    rw [inspect_eq laterMs stored] at second
    cases second
    exact projectedFreshness_ages hub (observationAge_ages record aged)
  attention deviceId needed := by
    cases stored : hub.devices[deviceId]? with
    | none =>
      rw [FleetHub.showsAttention, FleetHub.inspect, stored] at needed
      cases needed
    | some record =>
      rw [showsAttention_stored nowMs stored] at needed
      rw [showsAttention_stored laterMs stored]
      exact attention_ages aged needed

theorem listed_by_own_id [UnicodeLowercase] {hub : FleetHub} (keyed : DirectoryKeyed hub) {query : FleetQuery}
    {nowMs : Int} {result : FleetQueryResult} (listed : hub.list query nowMs = .ok result) :
    ∀ row ∈ result.rows, ∃ inspector, hub.inspect row.identity.deviceId nowMs = .ok inspector ∧
      inspector.row = row := by
  intro row member
  rw [(list_ok listed).2] at member
  have sorted := List.mem_of_mem_drop (List.mem_of_mem_take member)
  obtain ⟨deviceId, record, stored, rfl, _⟩ := (Queries.mem_sortedRows query nowMs row).mp sorted
  have own : (hub.row record nowMs).identity.deviceId = deviceId := keyed deviceId record stored
  rw [own]
  exact ⟨_, inspect_eq nowMs stored, rfl⟩

/-- The projections of every Hub agree with each other and only age, and a Hub that calls led to lists under
each device id the row its inspector shows. -/
theorem projections_agree_and_age [HubEnvironment] [LowercasesAscii] :
    (∀ (hub : FleetHub) (nowMs : Int), ProjectionsAgree hub nowMs) ∧
      (∀ (hub : FleetHub) (nowMs laterMs : Int), nowMs ≤ laterMs → OnlyAges hub nowMs laterMs) ∧
      ∀ (policy : AssertedPolicy) (calls : List HubCall) (query : FleetQuery) (nowMs : Int)
        (result : FleetQueryResult),
        let hub := fleetHubMachine.run (.new policy) calls
        hub.list query nowMs = .ok result → ∀ row ∈ result.rows,
          ∃ inspector, hub.inspect row.identity.deviceId nowMs = .ok inspector ∧ inspector.row = row := by
  refine ⟨projections_agree, fun hub _ _ aged => only_ages hub aged, ?_⟩
  intro policy calls query nowMs result hub listed
  have keyed : DirectoryKeyed hub :=
    fleetHubMachine.run_invariant (fun _ _ => True) DirectoryKeyed (fun _ call _ => (call_keyed · call))
      (.new policy) calls (fleetHubMachine.admits_true _ calls) (directoryKeyed_new policy)
  exact listed_by_own_id keyed listed

section Samples

@[reducible] def asciiEnvironment : HubEnvironment :=
  { PackageSafety.sampleEnvironment with toLowercase := toAsciiLowercase }

theorem ascii_lowercases : @LowercasesAscii asciiEnvironment.toUnicodeLowercase :=
  @LowercasesAscii.mk asciiEnvironment.toUnicodeLowercase fun _ _ => rfl

theorem sample_ages :
    (Queries.sampleDirectory.summary 2000).fresh = 2 ∧ (Queries.sampleDirectory.summary 400000).offline = 2 ∧
      @ProjectionsAgree asciiEnvironment.toUnicodeLowercase Queries.sampleDirectory 2000 ∧
      OnlyAges Queries.sampleDirectory 2000 400000 := by
  have sound := @projections_agree_and_age asciiEnvironment ascii_lowercases
  refine ⟨by decide, by decide, sound.1 Queries.sampleDirectory 2000, ?_⟩
  exact sound.2.1 Queries.sampleDirectory 2000 400000 (by decide)

end Samples

end Projections

end RustyFleet

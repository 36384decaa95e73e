import RustyFleet.Hub.KioskApps
import RustyFleet.Safety.CatalogAdmission
import RustyFleet.Safety.PackageAtomicity

namespace RustyFleet.AppSearch

section Definitions

variable (hub : FleetHub) (nowMs : Int)

def usableCatalog (deviceId : String) (device : DeviceRecord) : Option KioskCatalogSnapshot :=
  (hub.kioskCatalogs[deviceId]?.filter fun record =>
    decide (¬ record.unbound device) && record.snapshot.grants.catalogSummary &&
      record.snapshot.permissionLimitedCount == 0 && record.snapshot.complete &&
      decide (nowMs ≤ record.snapshot.freshUntilMs)).map (·.snapshot)

def coverageTotal (coverage : KioskCatalogCoverage) : Nat :=
  coverage.current + coverage.stale + coverage.absent + coverage.incomplete + coverage.permissionLimited

variable [UnicodeLowercase] (normalizedQuery : String)

def matchingEntries (device : String × DeviceRecord) : List KioskCatalogEntry :=
  (usableCatalog hub nowMs device.1 device.2).elim []
    fun snapshot => snapshot.entries.filter (catalogEntryMatches · normalizedQuery)

def offeringDevices (appIdentity : String) : List String :=
  (hub.devices.toList.filter fun device =>
    (matchingEntries hub nowMs normalizedQuery device).any (·.appIdentity = appIdentity)).map Prod.fst

def candidateOffers (candidate : KioskAppCandidate) : Prop :=
  candidate.catalogComplete = true ∧ candidate.catalogFreshness = .fresh ∧
    ∃ record ∈ hub.kioskCatalogs[candidate.row.identity.deviceId]?, ∃ entry ∈ record.snapshot.entries,
      entry.appIdentity = candidate.appIdentity ∧ catalogEntryMatches entry normalizedQuery = true

instance (candidate : KioskAppCandidate) : Decidable (candidateOffers hub normalizedQuery candidate) :=
  inferInstanceAs (Decidable (_ ∧ _))

structure MatchAgrees (coverage : KioskCatalogCoverage) (item : KioskAppMatch) : Prop where
  counted : item.currentDeviceCount = (offeringDevices hub nowMs normalizedQuery item.appIdentity).length
  bounded : item.currentDeviceCount ≤ coverage.current
  candidates : ∃ answer, hub.kioskAppCandidates item.appIdentity nowMs = .ok answer ∧
    ((answer.candidates.filter (candidateOffers hub normalizedQuery ·)).map (·.row.identity.deviceId)).Perm
      (offeringDevices hub nowMs normalizedQuery item.appIdentity)

structure ResultAgrees (limit : Nat) (result : KioskAppSearchResult) : Prop where
  covered : coverageTotal result.coverage = hub.devices.size
  returned : result.appMatches = (hub.kioskAppMatches normalizedQuery nowMs).take limit
  ordered : (hub.kioskAppMatches normalizedQuery nowMs).Pairwise
    fun left right => KioskAppMatch.order left right = .lt
  distinct : ((hub.kioskAppMatches normalizedQuery nowMs).map (·.appIdentity)).Nodup
  listed : ∀ appIdentity, appIdentity ∈ (hub.kioskAppMatches normalizedQuery nowMs).map (·.appIdentity) ↔
    offeringDevices hub nowMs normalizedQuery appIdentity ≠ []
  agrees : ∀ item ∈ hub.kioskAppMatches normalizedQuery nowMs,
    MatchAgrees hub nowMs normalizedQuery result.coverage item

def SearchAgrees (request : KioskAppSearchRequest) : Prop :=
  ∃ result, hub.kioskAppSearch request nowMs = .ok result ∧
    ResultAgrees hub nowMs (normalizeCatalogText request.query) request.limit result

/-- No usable catalog has two matching entries of one app. -/
def OneEntryPerApp : Prop :=
  ∀ (deviceId : String) device, hub.devices[deviceId]? = some device → ∀ snapshot,
    usableCatalog hub nowMs deviceId device = some snapshot →
      ((snapshot.entries.filter (catalogEntryMatches · normalizedQuery)).map (·.appIdentity)).Nodup

end Definitions

section Search

variable [UnicodeLowercase] {hub : FleetHub} {nowMs : Int} {normalizedQuery : String}

omit [UnicodeLowercase] in
theorem usableCatalog_iff {deviceId : String} {device : DeviceRecord} {snapshot : KioskCatalogSnapshot} :
    usableCatalog hub nowMs deviceId device = some snapshot ↔ ∃ record,
      hub.kioskCatalogs[deviceId]? = some record ∧ record.snapshot = snapshot ∧ ¬ record.unbound device ∧
        snapshot.grants.catalogSummary = true ∧ snapshot.permissionLimitedCount = 0 ∧
        snapshot.complete = true ∧ nowMs ≤ snapshot.freshUntilMs := by
  simp only [usableCatalog, Option.map_eq_some_iff, Option.filter_eq_some_iff, Bool.and_eq_true,
    decide_eq_true_eq, beq_iff_eq]
  constructor
  · rintro ⟨record, ⟨stored, ⟨⟨⟨bound, granted⟩, unlimited⟩, whole⟩, inTime⟩, rfl⟩
    exact ⟨record, stored, rfl, bound, granted, unlimited, whole, inTime⟩
  · rintro ⟨record, stored, rfl, bound, granted, unlimited, whole, inTime⟩
    exact ⟨record, ⟨stored, ⟨⟨⟨bound, granted⟩, unlimited⟩, whole⟩, inTime⟩, rfl⟩

variable (hub nowMs normalizedQuery) in
theorem searchDevice_step (state : KioskCatalogCoverage × FleetHub.AppMatches) (device : String × DeviceRecord) :
    coverageTotal (hub.searchDevice normalizedQuery nowMs state device).1 = coverageTotal state.1 + 1 ∧
      (hub.searchDevice normalizedQuery nowMs state device).1.current =
        state.1.current + (if (usableCatalog hub nowMs device.1 device.2).isSome then 1 else 0) ∧
      (hub.searchDevice normalizedQuery nowMs state device).2 =
        Tally.tally (·.appIdentity) (KioskAppMatch.found normalizedQuery) (KioskAppMatch.withEntry normalizedQuery)
          state.2 (matchingEntries hub nowMs normalizedQuery device) := by
  obtain ⟨coverage, found⟩ := state
  cases stored : hub.kioskCatalogs[device.1]? with
  | none =>
    have unusable : usableCatalog hub nowMs device.1 device.2 = none := by simp [usableCatalog, stored]
    simp only [FleetHub.searchDevice, stored, matchingEntries, unusable, coverageTotal]
    exact ⟨by omega, rfl, rfl⟩
  | some record =>
    have usable := fun snapshot => (@usableCatalog_iff hub nowMs device.1 device.2 snapshot).mp
    by_cases usableNow : ∃ snapshot, usableCatalog hub nowMs device.1 device.2 = some snapshot
    · obtain ⟨snapshot, isUsable⟩ := usableNow
      obtain ⟨known, same, rfl, bound, granted, unlimited, whole, inTime⟩ := usable snapshot isUsable
      rw [stored] at same
      cases same
      simp only [FleetHub.searchDevice, stored, matchingEntries, isUsable, if_neg bound, granted, unlimited, whole,
        if_pos inTime, coverageTotal]
      refine ⟨?_, ?_, ?_⟩
      · simp
        omega
      · simp
      · simp [FleetHub.searchEntries]
    · have unusable : usableCatalog hub nowMs device.1 device.2 = none := by
        cases found : usableCatalog hub nowMs device.1 device.2 with
        | none => rfl
        | some snapshot => exact absurd ⟨snapshot, found⟩ usableNow
      simp only [FleetHub.searchDevice, stored, matchingEntries, unusable, coverageTotal, Option.isSome_none,
        Bool.false_eq_true, if_false, Nat.add_zero, Option.elim_none]
      by_cases unbound : record.unbound device.2
      · rw [if_pos unbound]
        exact ⟨by dsimp only; omega, rfl, rfl⟩
      rw [if_neg unbound]
      by_cases limited : ¬ record.snapshot.grants.catalogSummary = true ∨ record.snapshot.permissionLimitedCount > 0
      · rw [if_pos limited]
        exact ⟨by dsimp only; omega, rfl, rfl⟩
      rw [if_neg limited]
      by_cases partly : ¬ record.snapshot.complete = true
      · rw [if_pos partly]
        exact ⟨by dsimp only; omega, rfl, rfl⟩
      rw [if_neg partly]
      by_cases inTime : nowMs ≤ record.snapshot.freshUntilMs
      · rw [not_or] at limited
        have isUsable : usableCatalog hub nowMs device.1 device.2 = some record.snapshot :=
          usableCatalog_iff.mpr
            ⟨record, stored, rfl, unbound, not_not.mp limited.1, by omega, not_not.mp partly, inTime⟩
        rw [unusable] at isUsable
        cases isUsable
      · rw [if_neg inTime]
        exact ⟨by dsimp only; omega, rfl, rfl⟩

variable (hub nowMs normalizedQuery) in
theorem searchDevices_run (devices : List (String × DeviceRecord))
    (state : KioskCatalogCoverage × FleetHub.AppMatches) :
    coverageTotal (devices.foldl (hub.searchDevice normalizedQuery nowMs) state).1 =
        coverageTotal state.1 + devices.length ∧
      (devices.foldl (hub.searchDevice normalizedQuery nowMs) state).1.current =
        state.1.current + devices.countP (fun device => (usableCatalog hub nowMs device.1 device.2).isSome) ∧
      (devices.foldl (hub.searchDevice normalizedQuery nowMs) state).2 =
        Tally.tally (·.appIdentity) (KioskAppMatch.found normalizedQuery) (KioskAppMatch.withEntry normalizedQuery)
          state.2 (devices.flatMap (matchingEntries hub nowMs normalizedQuery)) := by
  induction devices generalizing state with
  | nil => exact ⟨rfl, rfl, rfl⟩
  | cons first rest ih =>
    obtain ⟨total, current, found⟩ := searchDevice_step hub nowMs normalizedQuery state first
    obtain ⟨totals, currents, all⟩ := ih (hub.searchDevice normalizedQuery nowMs state first)
    rw [List.foldl_cons, List.length_cons, List.countP_cons, List.flatMap_cons, Tally.tally_append]
    refine ⟨by omega, by omega, ?_⟩
    rw [all, found]

variable (hub nowMs normalizedQuery) in
theorem searchDevices_ends :
    coverageTotal (hub.searchDevices normalizedQuery nowMs).1 = hub.devices.size ∧
      (hub.searchDevices normalizedQuery nowMs).1.current =
        hub.devices.toList.countP (fun device => (usableCatalog hub nowMs device.1 device.2).isSome) ∧
      (hub.searchDevices normalizedQuery nowMs).2 =
        Tally.tally (·.appIdentity) (KioskAppMatch.found normalizedQuery) (KioskAppMatch.withEntry normalizedQuery) ∅
          (hub.devices.toList.flatMap (matchingEntries hub nowMs normalizedQuery)) := by
  obtain ⟨total, current, found⟩ := searchDevices_run hub nowMs normalizedQuery hub.devices.toList
    ({ current := 0, stale := 0, absent := 0, incomplete := 0, permissionLimited := 0 }, ∅)
  rw [Std.ExtTreeMap.length_toList] at total
  refine ⟨?_, ?_, found⟩
  · exact total.trans (Nat.zero_add _)
  · exact current.trans (Nat.zero_add _)

omit [UnicodeLowercase] in
theorem tally_named (entries : List KioskCatalogEntry) (appIdentity : String) (item : KioskAppMatch)
    (stored : (Tally.tally (·.appIdentity) (KioskAppMatch.found normalizedQuery)
      (KioskAppMatch.withEntry normalizedQuery) ∅ entries)[appIdentity]? = some item) :
    item.appIdentity = appIdentity := by
  apply Tally.tally_forall (fun key (item : KioskAppMatch) => item.appIdentity = key) _ _ _ appIdentity item stored
  · exact fun _ => rfl
  · exact fun _ _ same => same
  · intro key other held
    simp at held

theorem match_counts {item : KioskAppMatch} (listed : item ∈ hub.kioskAppMatches normalizedQuery nowMs) :
    item.currentDeviceCount =
      (hub.devices.toList.flatMap (matchingEntries hub nowMs normalizedQuery)).countP
        (·.appIdentity = item.appIdentity) := by
  obtain ⟨key, stored⟩ := (BTreeMap.mem_storedValues_iff _ _).mp ((Windows.mem_sortBy _).mp listed)
  rw [(searchDevices_ends hub nowMs normalizedQuery).2.2] at stored
  have named := tally_named _ key item stored
  rw [named]
  have counts : ∀ (prior : KioskAppMatch) entry,
      (KioskAppMatch.withEntry normalizedQuery prior entry).currentDeviceCount = prior.currentDeviceCount + 1 :=
    fun _ _ => rfl
  have starts : ∀ entry, (KioskAppMatch.found normalizedQuery entry).currentDeviceCount = 0 := fun _ => rfl
  exact Tally.tally_measure counts starts stored

theorem match_listed (appIdentity : String) :
    appIdentity ∈ (hub.kioskAppMatches normalizedQuery nowMs).map (·.appIdentity) ↔
      offeringDevices hub nowMs normalizedQuery appIdentity ≠ [] := by
  have named : ∀ (key : String) item, (hub.searchDevices normalizedQuery nowMs).2[key]? = some item →
      item.appIdentity = key := by
    rw [(searchDevices_ends hub nowMs normalizedQuery).2.2]
    exact tally_named _
  have present : (hub.searchDevices normalizedQuery nowMs).2[appIdentity]?.isSome = true ↔
      ∃ entry ∈ hub.devices.toList.flatMap (matchingEntries hub nowMs normalizedQuery),
        entry.appIdentity = appIdentity := by
    rw [(searchDevices_ends hub nowMs normalizedQuery).2.2]
    exact Tally.tally_isSome_iff
  have offered : (∃ entry ∈ hub.devices.toList.flatMap (matchingEntries hub nowMs normalizedQuery),
      entry.appIdentity = appIdentity) ↔ offeringDevices hub nowMs normalizedQuery appIdentity ≠ [] := by
    rw [offeringDevices, ne_eq, List.map_eq_nil_iff, List.filter_eq_nil_iff]
    simp only [List.mem_flatMap, List.any_eq_true, decide_eq_true_eq, not_forall, not_not, exists_prop]
    constructor
    · rintro ⟨entry, ⟨device, known, inside⟩, same⟩
      exact ⟨device, known, entry, inside, same⟩
    · rintro ⟨device, known, entry, inside, same⟩
      exact ⟨entry, ⟨device, known, inside⟩, same⟩
  rw [← offered, ← present]
  constructor
  · intro member
    obtain ⟨item, listed, same⟩ := List.mem_map.mp member
    obtain ⟨key, stored⟩ := (BTreeMap.mem_storedValues_iff _ _).mp ((Windows.mem_sortBy _).mp listed)
    rw [← same, named key item stored, stored]
    rfl
  · intro held
    obtain ⟨item, stored⟩ := Option.isSome_iff_exists.mp held
    apply List.mem_map.mpr
    refine ⟨item, (Windows.mem_sortBy _).mpr ((BTreeMap.mem_storedValues_iff _ _).mpr ⟨_, stored⟩), ?_⟩
    exact named appIdentity item stored

theorem matches_distinct : ((hub.kioskAppMatches normalizedQuery nowMs).map (·.appIdentity)).Nodup := by
  have named : ∀ entry ∈ (hub.searchDevices normalizedQuery nowMs).2.toList, entry.2.appIdentity = entry.1 := by
    rw [(searchDevices_ends hub nowMs normalizedQuery).2.2]
    intro entry member
    exact tally_named _ entry.1 entry.2 (Std.ExtTreeMap.mem_toList_iff_getElem?_eq_some.mp member)
  have keys : (BTreeMap.storedValues (hub.searchDevices normalizedQuery nowMs).2).map (·.appIdentity) =
      (hub.searchDevices normalizedQuery nowMs).2.toList.map Prod.fst := by
    rw [BTreeMap.storedValues, List.map_map]
    exact List.map_congr_left named
  have sorted := (Windows.sortBy_perm KioskAppMatch.order
    (BTreeMap.storedValues (hub.searchDevices normalizedQuery nowMs).2)).map (·.appIdentity)
  rw [FleetHub.kioskAppMatches, sorted.nodup_iff, keys]
  exact BTreeMap.toList_keys_nodup _

theorem matches_ordered : (hub.kioskAppMatches normalizedQuery nowMs).Pairwise
    fun left right => KioskAppMatch.order left right = .lt := by
  have distinct : ((BTreeMap.storedValues (hub.searchDevices normalizedQuery nowMs).2).map
      (·.appIdentity)).Nodup := by
    have sorted := (Windows.sortBy_perm KioskAppMatch.order
      (BTreeMap.storedValues (hub.searchDevices normalizedQuery nowMs).2)).map (·.appIdentity)
    exact sorted.nodup_iff.mp matches_distinct
  apply Windows.sortBy_strict KioskAppMatch.order distinct.of_map
  intro left inLeft right inRight same
  exact List.inj_on_of_nodup_map distinct inLeft inRight (KioskAppMatch.order_eq same)

theorem counted_iff {item : KioskAppMatch} (listed : item ∈ hub.kioskAppMatches normalizedQuery nowMs) :
    item.currentDeviceCount = (offeringDevices hub nowMs normalizedQuery item.appIdentity).length ↔
      ∀ device ∈ hub.devices.toList,
        (matchingEntries hub nowMs normalizedQuery device).countP (·.appIdentity = item.appIdentity) ≤ 1 := by
  rw [match_counts listed, offeringDevices, List.length_map, ← List.countP_eq_length_filter]
  exact Tally.members_eq_groups_iff _ _ _

theorem offering_bounded (appIdentity : String) :
    (offeringDevices hub nowMs normalizedQuery appIdentity).length ≤
      (hub.searchDevices normalizedQuery nowMs).1.current := by
  rw [(searchDevices_ends hub nowMs normalizedQuery).2.1, offeringDevices, List.length_map,
    ← List.countP_eq_length_filter]
  apply List.countP_mono_left
  intro device _ offers
  cases usable : usableCatalog hub nowMs device.1 device.2 with
  | none => simp [matchingEntries, usable] at offers
  | some snapshot => rfl

end Search

section Candidates

variable {hub : FleetHub} {nowMs : Int} {appIdentity deviceId : String} {record : KioskCatalogRecord}
  {device : DeviceRecord}

structure Shown (hub : FleetHub) (nowMs : Int) (appIdentity : String) (record : KioskCatalogRecord)
    (device : DeviceRecord) (candidate : KioskAppCandidate) : Prop where
  bound : ¬ record.unbound device
  row : candidate.row = hub.row device nowMs
  named : candidate.appIdentity = appIdentity
  whole : candidate.catalogComplete = record.snapshot.complete
  inTime : candidate.catalogFreshness = .fresh ↔ nowMs ≤ record.snapshot.freshUntilMs

theorem candidate_shown {candidate : KioskAppCandidate}
    (shown : hub.kioskAppCandidate appIdentity nowMs deviceId record = some candidate) :
    ∃ device, hub.devices[deviceId]? = some device ∧ Shown hub nowMs appIdentity record device candidate := by
  unfold FleetHub.kioskAppCandidate at shown
  cases found : record.snapshot.entries.find? (·.appIdentity == appIdentity) with
  | none => simp [found] at shown
  | some entry =>
    have named : entry.appIdentity = appIdentity := by simpa using List.find?_some found
    cases known : hub.devices[deviceId]? with
    | none => simp [found, known] at shown
    | some device =>
      by_cases bound : record.unbound device
      · simp [found, known, bound, guard] at shown
      · simp only [found, known, bound, not_false_eq_true, guard, if_true, Option.bind_eq_bind, Option.bind_some,
          pure, Option.some.injEq] at shown
        subst shown
        refine ⟨device, rfl, bound, rfl, named, rfl, ?_⟩
        by_cases current : nowMs ≤ record.snapshot.freshUntilMs
        · simp [current]
        · simp [current]

variable (nowMs) in
theorem candidate_exists {entry : KioskCatalogEntry} (listed : entry ∈ record.snapshot.entries)
    (named : entry.appIdentity = appIdentity) (known : hub.devices[deviceId]? = some device)
    (bound : ¬ record.unbound device) :
    ∃ candidate, hub.kioskAppCandidate appIdentity nowMs deviceId record = some candidate := by
  unfold FleetHub.kioskAppCandidate
  cases found : record.snapshot.entries.find? (·.appIdentity == appIdentity) with
  | none =>
    have absent := List.find?_eq_none.mp found entry listed
    exact absurd (beq_iff_eq.mpr named) absent
  | some first =>
    simp only [known, bound, not_false_eq_true, guard, if_true, Option.bind_eq_bind, Option.bind_some, pure]
    exact ⟨_, rfl⟩

variable [UnicodeLowercase] {normalizedQuery : String}

structure CatalogsSound (hub : FleetHub) : Prop where
  keyed : DirectoryKeyed hub
  valid : ∀ (deviceId : String) record, hub.kioskCatalogs[deviceId]? = some record → Valid record.snapshot

theorem entries_valid {entryIds : List String} {index : Nat} {entries : List KioskCatalogEntry}
    (valid : KioskCatalogSnapshot.entriesViolations entryIds index entries = []) :
    ∀ entry ∈ entries, Valid entry := by
  induction entries generalizing entryIds index with
  | nil =>
    intro entry member
    cases member
  | cons first rest ih =>
    simp only [KioskCatalogSnapshot.entriesViolations, List.append_eq_nil_iff, List.map_eq_nil_iff] at valid
    intro entry member
    rcases List.mem_cons.mp member with rfl | later
    · exact valid.1.1
    · exact ih valid.2 entry later

theorem snapshot_facts {snapshot : KioskCatalogSnapshot} (valid : Valid snapshot) :
    (snapshot.complete = true → snapshot.permissionLimitedCount = 0) ∧
      (∀ entry ∈ snapshot.entries, snapshot.grants.catalogSummary = true ∧ entry.appIdentity.isEmpty = false ∧
        entry.appIdentity.utf8ByteSize ≤ 160) := by
  have parts : (_ ++ _ : List ContractViolation) = [] := valid
  simp only [List.append_eq_nil_iff, violationIf_nil, not_or, not_not, not_and] at parts
  obtain ⟨⟨⟨⟨⟨⟨_, granted⟩, _⟩, _⟩, _⟩, _, _, _, whole⟩, entries⟩ := parts
  constructor
  · intro complete
    rw [complete] at whole
    simp only [Bool.true_eq, Bool.and_eq_true, beq_iff_eq] at whole
    exact whole.1.2
  · intro entry listed
    have own : (_ ++ _ : List ContractViolation) = [] := entries_valid entries entry listed
    simp only [List.append_eq_nil_iff, violationIf_nil, not_or, not_not] at own
    obtain ⟨⟨⟨⟨⟨_, identity, _⟩, _⟩, _⟩, _⟩, _⟩ := own
    simp only [isBoundedIdentifier, Bool.and_eq_true, Bool.not_eq_true', decide_eq_true_eq] at identity
    refine ⟨?_, identity.1.1, identity.1.2⟩
    by_contra ungranted
    exact List.ne_nil_of_mem listed (granted ungranted)

theorem candidate_offers_iff (sound : CatalogsSound hub) {candidate : KioskAppCandidate}
    (stored : hub.kioskCatalogs[deviceId]? = some record)
    (known : hub.devices[deviceId]? = some device)
    (shown : Shown hub nowMs appIdentity record device candidate) :
    candidateOffers hub normalizedQuery candidate ↔
      (matchingEntries hub nowMs normalizedQuery (deviceId, device)).any (·.appIdentity = appIdentity) = true := by
  have valid := snapshot_facts (sound.valid deviceId record stored)
  have here : candidate.row.identity.deviceId = deviceId := by
    rw [shown.row]
    exact sound.keyed deviceId device known
  rw [candidateOffers, shown.whole, shown.inTime, here, shown.named, stored]
  constructor
  · rintro ⟨whole, inTime, kept, same, entry, listed, named, fits⟩
    cases same
    have granted := (valid.2 entry listed).1
    have usable : usableCatalog hub nowMs deviceId device = some record.snapshot :=
      usableCatalog_iff.mpr ⟨record, stored, rfl, shown.bound, granted, valid.1 whole, whole, inTime⟩
    simp only [matchingEntries, usable, Option.elim_some]
    exact List.any_eq_true.mpr ⟨entry, List.mem_filter.mpr ⟨listed, fits⟩, decide_eq_true named⟩
  · intro offers
    cases usable : usableCatalog hub nowMs deviceId device with
    | none => simp [matchingEntries, usable] at offers
    | some snapshot =>
      obtain ⟨same, kept, rfl, _, _, _, whole, inTime⟩ := usableCatalog_iff.mp usable
      rw [stored] at kept
      cases kept
      simp only [matchingEntries, usable, Option.elim_some] at offers
      obtain ⟨entry, member, named⟩ := List.any_eq_true.mp offers
      obtain ⟨listed, fits⟩ := List.mem_filter.mp member
      exact ⟨whole, inTime, record, rfl, entry, listed, of_decide_eq_true named, fits⟩

theorem listed_bounded (sound : CatalogsSound hub) {entry : KioskCatalogEntry}
    (listed : entry ∈ hub.devices.toList.flatMap (matchingEntries hub nowMs normalizedQuery)) :
    ¬ (entry.appIdentity.isEmpty = true ∨ entry.appIdentity.utf8ByteSize > 160) := by
  obtain ⟨⟨deviceId, device⟩, known, member⟩ := List.mem_flatMap.mp listed
  cases usable : usableCatalog hub nowMs deviceId device with
  | none => simp [matchingEntries, usable] at member
  | some snapshot =>
    obtain ⟨record, stored, rfl, _⟩ := usableCatalog_iff.mp usable
    simp only [matchingEntries, usable, Option.elim_some] at member
    have facts := (snapshot_facts (sound.valid deviceId record stored)).2 entry (List.mem_filter.mp member).1
    rw [facts.2.1]
    have short := facts.2.2
    simp only [Bool.false_eq_true, false_or]
    omega

omit [UnicodeLowercase] in
theorem candidate_device (keyed : DirectoryKeyed hub) {candidate : KioskAppCandidate}
    (shows : hub.kioskAppCandidate appIdentity nowMs deviceId record = some candidate) :
    candidate.row.identity.deviceId = deviceId := by
  obtain ⟨device, known, shown⟩ := candidate_shown shows
  rw [shown.row]
  exact keyed deviceId device known

omit [UnicodeLowercase] in
theorem candidates_distinct (keyed : DirectoryKeyed hub) :
    ((hub.kioskCatalogs.toList.filterMap fun entry =>
      hub.kioskAppCandidate appIdentity nowMs entry.1 entry.2).map (·.row.identity.deviceId)).Nodup := by
  have keys := BTreeMap.toList_keys_nodup hub.kioskCatalogs
  rw [List.nodup_iff_pairwise_ne, List.pairwise_map] at keys ⊢
  rw [List.pairwise_filterMap]
  refine keys.imp fun {left right} apart candidate shows other otherShows same => apart ?_
  rw [← candidate_device keyed shows, ← candidate_device keyed otherShows, same]

theorem candidates_agree (sound : CatalogsSound hub) {entry : KioskCatalogEntry}
    (listed : entry ∈ hub.devices.toList.flatMap (matchingEntries hub nowMs normalizedQuery))
    (named : entry.appIdentity = appIdentity) :
    ∃ answer, hub.kioskAppCandidates appIdentity nowMs = .ok answer ∧
      ((answer.candidates.filter (candidateOffers hub normalizedQuery ·)).map (·.row.identity.deviceId)).Perm
        (offeringDevices hub nowMs normalizedQuery appIdentity) := by
  have bounded := listed_bounded sound listed
  rw [named] at bounded
  simp only [FleetHub.kioskAppCandidates, exceptBind_ok, errorIf_ok, exceptPure_ok]
  refine ⟨_, ⟨(), bounded, rfl⟩, ?_⟩
  have sorted := Windows.sortBy_perm KioskAppCandidate.order (hub.kioskCatalogs.toList.filterMap fun entry =>
    hub.kioskAppCandidate appIdentity nowMs entry.1 entry.2)
  refine ((sorted.filter _).map _).trans ?_
  apply (List.perm_ext_iff_of_nodup ?_ ?_).mpr
  · intro deviceId
    simp only [List.mem_map, List.mem_filter, List.mem_filterMap, decide_eq_true_eq, offeringDevices]
    constructor
    · rintro ⟨candidate, ⟨⟨⟨key, record⟩, kept, shows⟩, offers⟩, rfl⟩
      have stored := Std.ExtTreeMap.mem_toList_iff_getElem?_eq_some.mp kept
      obtain ⟨device, known, shown⟩ := candidate_shown shows
      have offered := (candidate_offers_iff sound stored known shown).mp offers
      rw [candidate_device sound.keyed shows]
      exact ⟨(key, device), ⟨Std.ExtTreeMap.mem_toList_iff_getElem?_eq_some.mpr known, offered⟩, rfl⟩
    · rintro ⟨⟨key, device⟩, ⟨kept, offered⟩, rfl⟩
      have known := Std.ExtTreeMap.mem_toList_iff_getElem?_eq_some.mp kept
      cases usable : usableCatalog hub nowMs key device with
      | none => simp [matchingEntries, usable] at offered
      | some snapshot =>
        obtain ⟨record, stored, rfl, bound, _⟩ := usableCatalog_iff.mp usable
        have inside := offered
        simp only [matchingEntries, usable, Option.elim_some] at inside
        obtain ⟨own, member, ownName⟩ := List.any_eq_true.mp inside
        obtain ⟨candidate, shows⟩ := candidate_exists nowMs (List.mem_filter.mp member).1
          (of_decide_eq_true ownName) known bound
        obtain ⟨same, sameKnown, shown⟩ := candidate_shown shows
        rw [known] at sameKnown
        cases sameKnown
        refine ⟨candidate, ⟨⟨(key, record), Std.ExtTreeMap.mem_toList_iff_getElem?_eq_some.mpr stored, shows⟩, ?_⟩,
          candidate_device sound.keyed shows⟩
        exact (candidate_offers_iff sound stored known shown).mpr offered
  · exact (candidates_distinct sound.keyed).sublist (List.filter_sublist.map _)
  · exact (BTreeMap.toList_keys_nodup _).sublist (List.filter_sublist.map _)

end Candidates

section Agreement

variable [UnicodeLowercase] {hub : FleetHub} {nowMs : Int} {normalizedQuery : String}

theorem oneEntry_nodup_iff : OneEntryPerApp hub nowMs normalizedQuery ↔ ∀ device ∈ hub.devices.toList,
    ((matchingEntries hub nowMs normalizedQuery device).map (·.appIdentity)).Nodup := by
  constructor
  · intro once device known
    cases usable : usableCatalog hub nowMs device.1 device.2 with
    | none => simp [matchingEntries, usable]
    | some snapshot =>
      have stored := Std.ExtTreeMap.mem_toList_iff_getElem?_eq_some.mp known
      simp only [matchingEntries, usable, Option.elim_some]
      exact once device.1 device.2 stored snapshot usable
  · intro once deviceId device stored snapshot usable
    have own := once (deviceId, device) (Std.ExtTreeMap.mem_toList_iff_getElem?_eq_some.mpr stored)
    simpa only [matchingEntries, usable, Option.elim_some] using own

theorem oneEntry_iff : OneEntryPerApp hub nowMs normalizedQuery ↔ ∀ device ∈ hub.devices.toList, ∀ appIdentity,
    (matchingEntries hub nowMs normalizedQuery device).countP (·.appIdentity = appIdentity) ≤ 1 := by
  rw [oneEntry_nodup_iff]
  refine forall_congr' fun device => imp_congr_right fun _ => ?_
  rw [List.nodup_iff_count_le_one]
  refine forall_congr' fun appIdentity => ?_
  rw [List.count, List.countP_map]
  rfl

variable (hub nowMs) in
theorem search_answers {request : KioskAppSearchRequest} (valid : Valid request) :
    ∃ result, hub.kioskAppSearch request nowMs = .ok result ∧
      result.coverage = (hub.searchDevices (normalizeCatalogText request.query) nowMs).1 ∧
      result.appMatches = (hub.kioskAppMatches (normalizeCatalogText request.query) nowMs).take request.limit := by
  simp only [FleetHub.kioskAppSearch, exceptBind_ok, errorIf_ok, exceptPure_ok, not_not]
  exact ⟨_, ⟨(), valid, rfl⟩, rfl, rfl⟩

theorem searchAgrees_iff (sound : CatalogsSound hub) {request : KioskAppSearchRequest} (valid : Valid request) :
    SearchAgrees hub nowMs request ↔ OneEntryPerApp hub nowMs (normalizeCatalogText request.query) := by
  rw [oneEntry_iff]
  constructor
  · rintro ⟨result, _, agrees⟩ device known appIdentity
    by_contra twice
    have some_entry : ∃ entry ∈ matchingEntries hub nowMs (normalizeCatalogText request.query) device,
        entry.appIdentity = appIdentity := by
      have counted := List.countP_pos_iff.mp (Nat.lt_of_succ_lt (Nat.not_le.mp twice))
      simpa using counted
    obtain ⟨entry, inside, named⟩ := some_entry
    have offered : offeringDevices hub nowMs (normalizeCatalogText request.query) appIdentity ≠ [] := by
      apply List.ne_nil_of_mem
      apply List.mem_map.mpr
      exact ⟨device, List.mem_filter.mpr ⟨known, List.any_eq_true.mpr ⟨entry, inside, decide_eq_true named⟩⟩, rfl⟩
    obtain ⟨item, listed, rfl⟩ := List.mem_map.mp ((match_listed appIdentity).mpr offered)
    exact twice ((counted_iff listed).mp (agrees.agrees item listed).counted device known)
  · intro once
    obtain ⟨result, answered, coverage, returned⟩ := search_answers hub nowMs valid
    refine ⟨result, answered, ?_, returned, matches_ordered, matches_distinct, match_listed, ?_⟩
    · rw [coverage]
      exact (searchDevices_ends hub nowMs _).1
    · intro item listed
      have counted := (counted_iff listed).mpr fun device known => once device known item.appIdentity
      refine ⟨counted, ?_, ?_⟩
      · rw [counted, coverage]
        exact offering_bounded item.appIdentity
      · have offered := (match_listed item.appIdentity).mp (List.mem_map.mpr ⟨item, listed, rfl⟩)
        obtain ⟨deviceId, member⟩ := List.exists_mem_of_ne_nil _ offered
        obtain ⟨device, kept, _⟩ := List.mem_map.mp member
        obtain ⟨known, offers⟩ := List.mem_filter.mp kept
        obtain ⟨entry, inside, named⟩ := List.any_eq_true.mp offers
        exact candidates_agree sound (List.mem_flatMap.mpr ⟨device, known, inside⟩) (of_decide_eq_true named)

end Agreement

section Runs

variable [HubEnvironment]

theorem run_catalogs_sound (policy : AssertedPolicy) (calls : List HubCall) :
    CatalogsSound (fleetHubMachine.run (.new policy) calls) where
  keyed := by
    apply fleetHubMachine.run_invariant (fun _ _ => True) DirectoryKeyed _ _ calls (fleetHubMachine.admits_true _ _)
      (directoryKeyed_new policy)
    exact fun hub call _ keyed => call_keyed keyed call
  valid := by
    intro deviceId record stored
    have ledger := (CatalogSafety.catalog_admissions_sound policy calls []).1
    obtain ⟨admitted, member, _, retained, _⟩ := ledger.retained deviceId record stored
    have parts : (_ ++ _ : List ContractViolation) = [] := (ledger.checked admitted member).1
    rw [retained]
    exact (List.append_eq_nil_iff.mp (List.append_eq_nil_iff.mp parts).1).2

/-- In every reachable Hub a valid search agrees with the catalogs and the candidates exactly when no usable catalog
holds two matching entries of one app. -/
theorem app_search_agrees_iff (policy : AssertedPolicy) (calls : List HubCall) (request : KioskAppSearchRequest)
    (valid : Valid request) (nowMs : Int) :
    SearchAgrees (fleetHubMachine.run (.new policy) calls) nowMs request ↔
      OneEntryPerApp (fleetHubMachine.run (.new policy) calls) nowMs (normalizeCatalogText request.query) :=
  searchAgrees_iff (run_catalogs_sound policy calls) valid

end Runs

section Samples

open PackageSafety

def catalogDigest : String := String.ofList (List.replicate 64 'a')

def mirrorEntry (entryId : String) : KioskCatalogEntry where
  appIdentity := "app.mirror"
  entryId := entryId
  entryDigest := catalogDigest
  displayLabel := "Mirror"
  disambiguator := "com.mirror"
  packageName := none
  installed := true
  launchable := true
  tags := []

def kioskObservation : DeviceObservation :=
  { readyObservation "d1" with
    capabilities :=
      { capabilities := .ofList [(kioskDirectOperatorCapabilityId,
          { readyCapability with
            capabilityId := kioskDirectOperatorCapabilityId
            owner := "rusty-kiosk" })] compare
        extensions := ∅ } }

def mirrorSnapshot (entryIds : List String) : KioskCatalogSnapshot where
  schema := kioskCatalogSnapshotSchema
  ownerSchema := kioskOwnerCatalogSnapshotSchema
  rawOwnerSha256 := catalogDigest
  operatorAuthority := some
    { receiptSha256 := catalogDigest
      grantRevision := 1
      routeId := kioskV2EncryptedRouteId
      deviceId := "d1"
      identityRevision := 1
      kioskOwnerEpoch := "owner-epoch-0001"
      issuedAtMs := 1000
      expiresAtMs := 20000
      scopes := [kioskCatalogSummaryScope] }
  deviceId := "d1"
  identityRevision := 1
  kioskOwnerEpoch := "owner-epoch-0001"
  snapshotId := "snapshot-1"
  catalogRevision := catalogDigest
  snapshotDigest := catalogDigest
  observedAtMs := 1001
  freshUntilMs := 60000
  searchSemantics := kioskCatalogSearchSemantics
  complete := true
  truncated := false
  totalCandidateCount := entryIds.length
  permissionLimitedCount := 0
  grants := { catalogSummary := true, catalogDetail := false, appLaunch := false }
  entries := entryIds.map mirrorEntry

def mirrorAdmission (entryIds : List String) : ProductionKioskCatalogAdmission where
  binding :=
    { schema := kioskV2CatalogAdmissionSchema
      requestId := "request-1"
      responseRequestId := "request-1"
      replayIdentity := catalogDigest
      requestEnvelopeSha256 := catalogDigest
      responseEnvelopeSha256 := catalogDigest
      rawOwnerCatalogSha256 := catalogDigest
      ownerGrantReceiptSha256 := catalogDigest
      capabilityId := kioskDirectOperatorCapabilityId
      capabilityEvidenceRevision := 1
      grantRevision := 1
      routeId := kioskV2EncryptedRouteId
      deviceId := "d1"
      identityRevision := 1
      kioskOwnerEpoch := "owner-epoch-0001"
      catalogRevision := catalogDigest
      snapshotDigest := catalogDigest
      issuedAtMs := 1000
      expiresAtMs := 20000
      scopes := [kioskCatalogSummaryScope] }
  snapshot := mirrorSnapshot entryIds

def catalogCalls (entryIds : List String) : List HubCall :=
  [.observe kioskObservation 1000, .catalog (mirrorAdmission entryIds) "profile-1" 1002]

def mirrorSearch : KioskAppSearchRequest where
  schema := kioskAppSearchRequestSchema
  query := "Mirror"
  limit := 1

def catalogHub (entryIds : List String) : FleetHub :=
  (@fleetHubMachine sampleEnvironment).run (.new samplePolicy) (catalogCalls entryIds)

theorem single_entry_agrees :
    Valid mirrorSearch ∧ @SearchAgrees (catalogHub ["entry-1"]) 2000 sampleEnvironment.toUnicodeLowercase mirrorSearch := by
  have valid : Valid mirrorSearch := by decide
  have once : ∀ device ∈ (catalogHub ["entry-1"]).devices.toList,
      ((@matchingEntries (catalogHub ["entry-1"]) 2000 sampleEnvironment.toUnicodeLowercase
        (@normalizeCatalogText sampleEnvironment.toUnicodeLowercase mirrorSearch.query) device).map
          (·.appIdentity)).Nodup := by
    decide +kernel
  refine ⟨valid, (@app_search_agrees_iff sampleEnvironment samplePolicy (catalogCalls ["entry-1"]) mirrorSearch
    valid 2000).mpr ?_⟩
  exact (@oneEntry_nodup_iff sampleEnvironment.toUnicodeLowercase _ _ _).mpr once

/-- Two entries of one app in one catalog are counted as two devices. -/
theorem double_entry_counted_twice :
    ∃ (_ : HubEnvironment) (policy : AssertedPolicy) (calls : List HubCall) (request : KioskAppSearchRequest)
      (nowMs : Int), Valid request ∧ ¬ SearchAgrees (fleetHubMachine.run (.new policy) calls) nowMs request := by
  have valid : Valid mirrorSearch := by decide
  refine ⟨sampleEnvironment, samplePolicy, catalogCalls ["entry-1", "entry-2"], mirrorSearch, 2000, valid, ?_⟩
  intro agrees
  have sound := @run_catalogs_sound sampleEnvironment samplePolicy (catalogCalls ["entry-1", "entry-2"])
  have once := (@oneEntry_nodup_iff sampleEnvironment.toUnicodeLowercase _ _ _).mp
    ((@searchAgrees_iff sampleEnvironment.toUnicodeLowercase _ _ sound _ valid).mp agrees)
  have twice : ¬ ∀ device ∈ (catalogHub ["entry-1", "entry-2"]).devices.toList,
      ((@matchingEntries (catalogHub ["entry-1", "entry-2"]) 2000 sampleEnvironment.toUnicodeLowercase
        (@normalizeCatalogText sampleEnvironment.toUnicodeLowercase mirrorSearch.query) device).map
          (·.appIdentity)).Nodup := by
    decide +kernel
  exact twice once

end Samples

end RustyFleet.AppSearch

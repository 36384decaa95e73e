import RustyFleet.Safety.Directory

namespace RustyFleet.CatalogSafety

structure AdmittedCatalog where
  admission : ProductionKioskCatalogAdmission
  profileId : String
  receivedAtMs : Int

namespace AdmittedCatalog

def deviceId (admitted : AdmittedCatalog) : String := admitted.admission.snapshot.deviceId

def observedAtMs (admitted : AdmittedCatalog) : Int := admitted.admission.snapshot.observedAtMs

def replayIdentity (admitted : AdmittedCatalog) : String := admitted.admission.binding.replayIdentity

def association (admitted : AdmittedCatalog) : KioskCatalogAssociation :=
  admitted.admission.association admitted.profileId

def retained (admitted : AdmittedCatalog) (sourceEpoch : String) : KioskCatalogRecord where
  snapshot := admitted.admission.snapshot
  receivedAtMs := admitted.receivedAtMs
  sourceEpoch := sourceEpoch
  productionAdmission := some admitted.admission.binding

end AdmittedCatalog

section Admissions

variable [UnicodeLowercase] {hub : FleetHub}

structure CatalogChecks (hub : FleetHub) (admitted : AdmittedCatalog) (device : DeviceRecord) : Prop where
  associated : ∀ stored, hub.kioskCatalogAssociations[admitted.deviceId]? = some stored →
    stored = admitted.association
  profile : isCatalogProfileId admitted.profileId = true
  associationRoom : hub.kioskCatalogAssociations.contains admitted.deviceId = true ∨
    hub.kioskCatalogAssociations.size < maxKioskCatalogs
  valid : Valid admitted.admission
  issued : admitted.admission.binding.issuedAtMs ≤ admitted.receivedAtMs
  unexpired : admitted.receivedAtMs ≤ admitted.admission.binding.expiresAtMs
  observed : admitted.observedAtMs ≤ admitted.receivedAtMs
  fresh : admitted.receivedAtMs ≤ admitted.admission.snapshot.freshUntilMs
  unseen : admitted.replayIdentity ∉ hub.seenKioskCatalogReplayIdentities
  replayRoom : hub.seenKioskCatalogReplayIdentities.size < maxKioskCatalogReplayIdentities
  enrolled : hub.devices[admitted.deviceId]? = some device
  identity : device.observation.identity.identityRevision = admitted.admission.snapshot.identityRevision
  advances : ∀ existing, hub.kioskCatalogs[admitted.deviceId]? = some existing →
    existing.receivedAtMs ≤ admitted.receivedAtMs ∧ existing.snapshot.observedAtMs < admitted.observedAtMs
  catalogRoom : hub.kioskCatalogs.contains admitted.deviceId = true ∨ hub.kioskCatalogs.size < maxKioskCatalogs

def admittedHub (hub : FleetHub) (admitted : AdmittedCatalog) (device : DeviceRecord) : FleetHub :=
  { hub with
    kioskCatalogs := hub.kioskCatalogs.insert admitted.deviceId (admitted.retained device.observation.sourceEpoch)
    seenKioskCatalogReplayIdentities := hub.seenKioskCatalogReplayIdentities.insert admitted.replayIdentity
    kioskCatalogAssociations := hub.kioskCatalogAssociations.insert admitted.deviceId admitted.association
    resultRevision := saturatingSucc hub.resultRevision }

omit [UnicodeLowercase] in
theorem requireCatalogAdvance_ok {snapshot : KioskCatalogSnapshot} {receivedAtMs : Int}
    (ok : hub.requireCatalogAdvance snapshot receivedAtMs = .ok ()) :
    ∀ existing, hub.kioskCatalogs[snapshot.deviceId]? = some existing →
      existing.receivedAtMs ≤ receivedAtMs ∧ existing.snapshot.observedAtMs < snapshot.observedAtMs := by
  intro existing stored
  simp only [FleetHub.requireCatalogAdvance, stored, exceptBind_ok, errorIf_ok] at ok
  obtain ⟨_, received, observed⟩ := ok
  omega

omit [UnicodeLowercase] in
theorem insert_twice (catalogs : BTreeMap String KioskCatalogRecord) (deviceId : String)
    (first second : KioskCatalogRecord) :
    (catalogs.insert deviceId first).insert deviceId second = catalogs.insert deviceId second := by
  apply Std.ExtTreeMap.ext_getElem?
  intro other
  by_cases same : other = deviceId
  · rw [same, BTreeMap.lookup_insert_self, BTreeMap.lookup_insert_self]
  · rw [BTreeMap.lookup_insert_of_ne _ _ same, BTreeMap.lookup_insert_of_ne _ _ same,
      BTreeMap.lookup_insert_of_ne _ _ same]

theorem profiledCatalogEdit_ok {admission : ProductionKioskCatalogAdmission} {profileId : String}
    {receivedAtMs : Int} {next : FleetHub}
    (ok : hub.profiledCatalogEdit admission profileId receivedAtMs = .ok next) :
    ∃ device, CatalogChecks hub ⟨admission, profileId, receivedAtMs⟩ device ∧
      next = admittedHub hub ⟨admission, profileId, receivedAtMs⟩ device := by
  simp only [FleetHub.profiledCatalogEdit, exceptBind_ok, errorIf_ok, exceptPure_ok] at ok
  obtain ⟨_, sameSetup, _, setup, candidate, accepted, rfl⟩ := ok
  simp only [FleetHub.acceptProductionKioskCatalog, exceptBind_ok, errorIf_ok, orError_ok] at accepted
  obtain ⟨_, valid, _, window, _, unseen, _, room, device, enrolled, _, _, _, _, retaining, internal, bound⟩ :=
    accepted
  simp only [FleetHub.acceptKioskCatalogInternal, exceptBind_ok, errorIf_ok, orError_ok, exceptPure_ok] at internal
  obtain ⟨_, _, _, _, current, known, _, identity, _, advances, _, catalogRoom, rfl⟩ := internal
  simp only [FleetHub.bindProductionAdmission, exceptBind_ok, orError_ok, exceptPure_ok] at bound
  obtain ⟨record, stored, rfl⟩ := bound
  rw [BTreeMap.lookup_insert_self] at stored
  obtain rfl := Option.some.inj stored
  rw [enrolled] at known
  obtain rfl := Option.some.inj known
  refine ⟨device, ⟨?_, ?_, ?_, not_not.mp valid, ?_, ?_, ?_, ?_, ?_, ?_, enrolled, not_not.mp identity,
    requireCatalogAdvance_ok advances, ?_⟩, ?_⟩
  · intro association found
    have found : hub.kioskCatalogAssociations[admission.snapshot.deviceId]? = some association := found
    rw [found] at sameSetup
    have same : association = admission.association profileId := by simpa using sameSetup
    exact same
  · exact not_not.mp fun wrong => setup (.inl wrong)
  · by_contra full
    rw [not_or] at full
    exact setup (.inr ⟨full.1, Nat.not_lt.mp full.2⟩)
  · dsimp only
    omega
  · dsimp only
    omega
  · simp only [AdmittedCatalog.observedAtMs]
    omega
  · dsimp only
    omega
  · simpa [AdmittedCatalog.replayIdentity] using unseen
  · omega
  · by_contra full
    rw [not_or] at full
    exact catalogRoom ⟨full.1, Nat.not_lt.mp full.2⟩
  · simp only [admittedHub, insert_twice, AdmittedCatalog.deviceId, AdmittedCatalog.retained,
      AdmittedCatalog.replayIdentity, AdmittedCatalog.association]

/-- The Hub's catalog state against the catalogs it has admitted, oldest first. -/
structure CatalogLedger (hub : FleetHub) (admissions : List AdmittedCatalog) : Prop where
  checked : ∀ admitted ∈ admissions, Valid admitted.admission ∧ isCatalogProfileId admitted.profileId = true ∧
    admitted.admission.binding.issuedAtMs ≤ admitted.receivedAtMs ∧
    admitted.receivedAtMs ≤ admitted.admission.binding.expiresAtMs ∧
    admitted.observedAtMs ≤ admitted.receivedAtMs ∧
    admitted.receivedAtMs ≤ admitted.admission.snapshot.freshUntilMs
  once : (admissions.map (·.replayIdentity)).Nodup
  consumed : ∀ identity, identity ∈ hub.seenKioskCatalogReplayIdentities ↔
    identity ∈ admissions.map (·.replayIdentity)
  ordered : admissions.Pairwise fun earlier later => earlier.deviceId = later.deviceId →
    earlier.observedAtMs < later.observedAtMs ∧ earlier.receivedAtMs ≤ later.receivedAtMs
  retained : ∀ (deviceId : String) record, hub.kioskCatalogs[deviceId]? = some record →
    ∃ admitted ∈ admissions, admitted.deviceId = deviceId ∧ record = admitted.retained record.sourceEpoch ∧
      ∀ other ∈ admissions, other.deviceId = deviceId →
        other.observedAtMs ≤ admitted.observedAtMs ∧ other.receivedAtMs ≤ admitted.receivedAtMs
  kept : ∀ admitted ∈ admissions, hub.kioskCatalogs[admitted.deviceId]?.isSome = true
  associated : ∀ admitted ∈ admissions,
    hub.kioskCatalogAssociations[admitted.deviceId]? = some admitted.association
  setUp : ∀ (deviceId : String) association, hub.kioskCatalogAssociations[deviceId]? = some association →
    ∃ admitted ∈ admissions, admitted.deviceId = deviceId ∧ admitted.association = association
  boundedCatalogs : hub.kioskCatalogs.size ≤ maxKioskCatalogs
  boundedAssociations : hub.kioskCatalogAssociations.size ≤ maxKioskCatalogs
  boundedReplays : hub.seenKioskCatalogReplayIdentities.size ≤ maxKioskCatalogReplayIdentities

theorem catalogLedger_new (policy : AssertedPolicy) : CatalogLedger (.new policy) [] where
  checked := by intro admitted member; cases member
  once := List.nodup_nil
  consumed := by
    intro identity
    simp [FleetHub.new]
  ordered := List.Pairwise.nil
  retained := by
    intro deviceId record stored
    simp [FleetHub.new] at stored
  kept := by intro admitted member; cases member
  associated := by intro admitted member; cases member
  setUp := by
    intro deviceId association stored
    simp [FleetHub.new] at stored
  boundedCatalogs := by simp [FleetHub.new]
  boundedAssociations := by simp [FleetHub.new]
  boundedReplays := by simp [FleetHub.new]

theorem CatalogLedger.of_same {other : FleetHub} {admissions : List AdmittedCatalog}
    (ledger : CatalogLedger hub admissions) (catalogs : other.kioskCatalogs = hub.kioskCatalogs)
    (replays : other.seenKioskCatalogReplayIdentities = hub.seenKioskCatalogReplayIdentities)
    (associations : other.kioskCatalogAssociations = hub.kioskCatalogAssociations) :
    CatalogLedger other admissions where
  checked := ledger.checked
  once := ledger.once
  consumed := by
    rw [replays]
    exact ledger.consumed
  ordered := ledger.ordered
  retained := by
    rw [catalogs]
    exact ledger.retained
  kept := by
    rw [catalogs]
    exact ledger.kept
  associated := by
    rw [associations]
    exact ledger.associated
  setUp := by
    rw [associations]
    exact ledger.setUp
  boundedCatalogs := by
    rw [catalogs]
    exact ledger.boundedCatalogs
  boundedAssociations := by
    rw [associations]
    exact ledger.boundedAssociations
  boundedReplays := by
    rw [replays]
    exact ledger.boundedReplays

omit [UnicodeLowercase] in
theorem insert_bounded {Value : Type} (entries : BTreeMap String Value) (key : String) (value : Value)
    {limit : Nat} (bounded : entries.size ≤ limit)
    (room : entries.contains key = true ∨ entries.size < limit) : (entries.insert key value).size ≤ limit := by
  rcases room with present | free
  · rw [Std.ExtTreeMap.size_insert, if_pos present]
    exact bounded
  · have grown := Std.ExtTreeMap.size_insert_le (t := entries) (k := key) (v := value)
    omega

section Ledger

variable {admissions : List AdmittedCatalog} {admitted : AdmittedCatalog} {device : DeviceRecord}

theorem admitted_unseen (ledger : CatalogLedger hub admissions) (checks : CatalogChecks hub admitted device) :
    admitted.replayIdentity ∉ admissions.map (·.replayIdentity) :=
  fun repeated => checks.unseen ((ledger.consumed _).mpr repeated)

theorem admitted_later (ledger : CatalogLedger hub admissions) (checks : CatalogChecks hub admitted device) :
    ∀ prior ∈ admissions, prior.deviceId = admitted.deviceId →
      prior.observedAtMs < admitted.observedAtMs ∧ prior.receivedAtMs ≤ admitted.receivedAtMs := by
  intro prior member same
  obtain ⟨existing, stored⟩ := Option.isSome_iff_exists.mp (ledger.kept prior member)
  rw [same] at stored
  obtain ⟨received, observed⟩ := checks.advances existing stored
  obtain ⟨newest, _, _, record, bound⟩ := ledger.retained admitted.deviceId existing stored
  have above := bound prior member same
  have observedSame : existing.snapshot.observedAtMs = newest.observedAtMs := by rw [record]; rfl
  have receivedSame : existing.receivedAtMs = newest.receivedAtMs := by rw [record]; rfl
  omega

theorem admitted_consumed (ledger : CatalogLedger hub admissions) (identity : String) :
    identity ∈ (admittedHub hub admitted device).seenKioskCatalogReplayIdentities ↔
      identity ∈ (admissions ++ [admitted]).map (·.replayIdentity) := by
  rw [List.map_append, List.map_singleton, List.mem_append, List.mem_singleton, ← ledger.consumed identity]
  simp only [admittedHub, Std.ExtTreeSet.mem_insert, Std.LawfulEqCmp.compare_eq_iff_eq]
  constructor
  · rintro (same | seen)
    · exact .inr same.symm
    · exact .inl seen
  · rintro (seen | same)
    · exact .inr seen
    · exact .inl same.symm

theorem admitted_retained (ledger : CatalogLedger hub admissions) (checks : CatalogChecks hub admitted device)
    {deviceId : String} {record : KioskCatalogRecord}
    (stored : (admittedHub hub admitted device).kioskCatalogs[deviceId]? = some record) :
    ∃ newest ∈ admissions ++ [admitted], newest.deviceId = deviceId ∧
      record = newest.retained record.sourceEpoch ∧
      ∀ other ∈ admissions ++ [admitted], other.deviceId = deviceId →
        other.observedAtMs ≤ newest.observedAtMs ∧ other.receivedAtMs ≤ newest.receivedAtMs := by
  by_cases same : deviceId = admitted.deviceId
  · rw [admittedHub, same, BTreeMap.lookup_insert_self] at stored
    obtain rfl := Option.some.inj stored
    refine ⟨admitted, List.mem_append_right _ (List.mem_singleton_self _), same.symm, rfl, ?_⟩
    intro other member device
    rcases List.mem_append.mp member with earlier | single
    · obtain ⟨observed, received⟩ := admitted_later ledger checks other earlier (device.trans same)
      exact ⟨Int.le_of_lt observed, received⟩
    · rw [List.mem_singleton.mp single]
      exact ⟨Int.le_refl _, Int.le_refl _⟩
  · rw [admittedHub, BTreeMap.lookup_insert_of_ne _ _ same] at stored
    obtain ⟨newest, member, device, retained, bound⟩ := ledger.retained deviceId record stored
    refine ⟨newest, List.mem_append_left _ member, device, retained, ?_⟩
    intro other inAll named
    rcases List.mem_append.mp inAll with earlier | single
    · exact bound other earlier named
    · rw [List.mem_singleton.mp single] at named
      exact absurd named.symm same

theorem admitted_kept (ledger : CatalogLedger hub admissions) {other : AdmittedCatalog}
    (member : other ∈ admissions ++ [admitted]) :
    (admittedHub hub admitted device).kioskCatalogs[other.deviceId]?.isSome = true := by
  by_cases same : other.deviceId = admitted.deviceId
  · rw [admittedHub, same, BTreeMap.lookup_insert_self]
    rfl
  · rw [admittedHub, BTreeMap.lookup_insert_of_ne _ _ same]
    rcases List.mem_append.mp member with earlier | single
    · exact ledger.kept other earlier
    · rw [List.mem_singleton.mp single] at same
      exact absurd rfl same

theorem admitted_associated (ledger : CatalogLedger hub admissions) (checks : CatalogChecks hub admitted device)
    {other : AdmittedCatalog} (member : other ∈ admissions ++ [admitted]) :
    (admittedHub hub admitted device).kioskCatalogAssociations[other.deviceId]? = some other.association := by
  rcases List.mem_append.mp member with earlier | single
  · by_cases same : other.deviceId = admitted.deviceId
    · have known := ledger.associated other earlier
      rw [same] at known
      rw [admittedHub, same, BTreeMap.lookup_insert_self, checks.associated _ known]
    · rw [admittedHub, BTreeMap.lookup_insert_of_ne _ _ same]
      exact ledger.associated other earlier
  · rw [List.mem_singleton.mp single, admittedHub, BTreeMap.lookup_insert_self]

theorem admitted_setUp (ledger : CatalogLedger hub admissions) {deviceId : String}
    {association : KioskCatalogAssociation}
    (stored : (admittedHub hub admitted device).kioskCatalogAssociations[deviceId]? = some association) :
    ∃ setup ∈ admissions ++ [admitted], setup.deviceId = deviceId ∧ setup.association = association := by
  by_cases same : deviceId = admitted.deviceId
  · rw [admittedHub, same, BTreeMap.lookup_insert_self] at stored
    exact ⟨admitted, List.mem_append_right _ (List.mem_singleton_self _), same.symm, Option.some.inj stored⟩
  · rw [admittedHub, BTreeMap.lookup_insert_of_ne _ _ same] at stored
    obtain ⟨prior, member, facts⟩ := ledger.setUp deviceId association stored
    exact ⟨prior, List.mem_append_left _ member, facts⟩

theorem admitted_ledger (ledger : CatalogLedger hub admissions) (checks : CatalogChecks hub admitted device) :
    CatalogLedger (admittedHub hub admitted device) (admissions ++ [admitted]) where
  checked other member := by
    rcases List.mem_append.mp member with earlier | single
    · exact ledger.checked other earlier
    · rw [List.mem_singleton.mp single]
      exact ⟨checks.valid, checks.profile, checks.issued, checks.unexpired, checks.observed, checks.fresh⟩
  once := by
    rw [List.map_append, List.map_singleton]
    refine Support.pairwise_snoc ledger.once ?_
    intro identity earlier same
    exact admitted_unseen ledger checks (same ▸ earlier)
  consumed := admitted_consumed ledger
  ordered := Support.pairwise_snoc ledger.ordered (admitted_later ledger checks)
  retained _ _ stored := admitted_retained ledger checks stored
  kept _ member := admitted_kept ledger member
  associated _ member := admitted_associated ledger checks member
  setUp _ _ stored := admitted_setUp ledger stored
  boundedCatalogs := insert_bounded _ _ _ ledger.boundedCatalogs checks.catalogRoom
  boundedAssociations := insert_bounded _ _ _ ledger.boundedAssociations checks.associationRoom
  boundedReplays := by
    have grown := Std.ExtTreeSet.size_insert_le (t := hub.seenKioskCatalogReplayIdentities)
      (k := admitted.replayIdentity)
    have room := checks.replayRoom
    simp only [admittedHub]
    omega

end Ledger

/-- A catalog call that returns an error leaves the Hub as it was. -/
def CatalogErrorAtomic (hub : FleetHub) : HubCall → Prop
  | .catalog admission profileId receivedAtMs =>
    (hub.acceptProfiledKioskCatalog admission profileId receivedAtMs).1 ≠ .ok () →
      (hub.acceptProfiledKioskCatalog admission profileId receivedAtMs).2 = hub
  | _ => True

theorem catalog_errors_atomic (hub : FleetHub) (call : HubCall) : CatalogErrorAtomic hub call := by
  cases call with
  | catalog admission profileId receivedAtMs =>
    intro failed
    simp only [FleetHub.acceptProfiledKioskCatalog] at failed ⊢
    cases edit : hub.profiledCatalogEdit admission profileId receivedAtMs with
    | error fault => rfl
    | ok next =>
      rw [edit] at failed
      exact absurd rfl failed
  | _ => trivial

end Admissions

section Runs

variable [HubEnvironment] {hub : FleetHub}

/-- The catalog a call has admitted, where it has. -/
def admittedBy (_ : FleetHub) : HubCall → HubAnswer → List AdmittedCatalog
  | .catalog admission profileId receivedAtMs, .catalog (.ok ()) => [⟨admission, profileId, receivedAtMs⟩]
  | _, _ => []

theorem call_keeps_catalogs {admissions : List AdmittedCatalog} (ledger : CatalogLedger hub admissions)
    (call : HubCall) :
    CatalogLedger (fleetHubMachine.next hub call)
      (admissions ++ admittedBy hub call (fleetHubMachine.answer hub call)) := by
  by_cases own : ∃ admission profileId receivedAtMs, call = .catalog admission profileId receivedAtMs
  · obtain ⟨admission, profileId, receivedAtMs, rfl⟩ := own
    simp only [Machine.next, Machine.answer, fleetHubMachine, FleetHub.handle, answeredBy,
      FleetHub.acceptProfiledKioskCatalog]
    cases edit : hub.profiledCatalogEdit admission profileId receivedAtMs with
    | error fault =>
      simp only [admittedBy, List.append_nil]
      exact ledger
    | ok next =>
      obtain ⟨device, checks, rfl⟩ := profiledCatalogEdit_ok edit
      exact admitted_ledger ledger checks
  · obtain ⟨catalogs, replays, associations⟩ := (hub.handle_leaves_others call).catalogs
      fun admission profileId receivedAtMs same => own ⟨admission, profileId, receivedAtMs, same⟩
    have silent : admittedBy hub call (fleetHubMachine.answer hub call) = [] := by
      unfold admittedBy
      split
      · exact absurd ⟨_, _, _, rfl⟩ own
      · rfl
    rw [silent, List.append_nil]
    exact ledger.of_same catalogs replays associations

/-- In any run every catalog is admitted once, in the order of its device's observations, under the one
association its device was set up with; what is retained of them stays within its bounds. -/
theorem catalog_admissions_sound (policy : AssertedPolicy) (calls further : List HubCall) :
    let hub := fleetHubMachine.run (.new policy) calls
    CatalogLedger hub (fleetHubMachine.history admittedBy (.new policy) calls) ∧
      (∀ (deviceId : String) association, hub.kioskCatalogAssociations[deviceId]? = some association →
        (fleetHubMachine.run hub further).kioskCatalogAssociations[deviceId]? = some association) ∧
      ∀ call, CatalogErrorAtomic hub call := by
  intro hub
  have ledger : CatalogLedger hub (fleetHubMachine.history admittedBy (.new policy) calls) := by
    have ending := fleetHubMachine.run_history admittedBy (fun _ _ => True)
      (fun hub admissions => CatalogLedger hub admissions)
      (fun hub call admissions _ kept => call_keeps_catalogs kept call) (.new policy) calls []
      (fleetHubMachine.admits_true _ _) (catalogLedger_new policy)
    simpa using ending
  refine ⟨ledger, ?_, catalog_errors_atomic hub⟩
  intro deviceId association stored
  have later := fleetHubMachine.run_history admittedBy (fun _ _ => True)
    (fun hub admissions => CatalogLedger hub admissions)
    (fun hub call admissions _ kept => call_keeps_catalogs kept call) hub further _
    (fleetHubMachine.admits_true _ _) ledger
  obtain ⟨admitted, member, rfl, rfl⟩ := ledger.setUp deviceId association stored
  exact later.associated admitted (List.mem_append_left _ member)

end Runs

end RustyFleet.CatalogSafety

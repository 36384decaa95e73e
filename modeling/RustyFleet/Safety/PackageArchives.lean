import RustyFleet.Safety.PackageHistory

namespace RustyFleet.PackageSafety

variable {hub : FleetHub}

/-- The id names an operation the Hub still keeps, active or archived. -/
def Keeps (hub : FleetHub) (operationId : String) : Prop :=
  operationId ∈ hub.packageOperations ∨ operationId ∈ hub.packageOperationArchives

section Archive

variable [OperationDigest]

theorem archive_again (packages : PackageHub hub) {archive : PackageInstallReleaseArchive}
    (request : PackageOperationArchiveRequest) (nowMs : Int)
    (archived : hub.packageOperationArchives[request.operationId]? = some archive)
    (schema : request.schema = packageOperationArchiveRequestSchema) (clock : 0 ≤ nowMs)
    (digest : request.expectedOperationSha256 = archive.operationSha256) :
    hub.archivePackageOperation request nowMs = (.ok archive, hub) := by
  have retained := packages.holds.2 request.operationId archive archived
  have valid : Valid request := by
    simp only [Valid, violations, violationIf_nil, not_or, not_not]
    exact ⟨schema, retained.portable, digest ▸ retained.prefixed⟩
  have edit : hub.packageArchiveEdit request nowMs = .ok (.unchanged archive) :=
    (archiveEdit_ok hub request nowMs _).mpr
      ⟨⟨valid, clock⟩, .inl ⟨archive, archived, digest.symm, rfl⟩⟩
  unfold FleetHub.archivePackageOperation
  rw [edit]

theorem archive_changed {archive : PackageInstallReleaseArchive}
    (request : PackageOperationArchiveRequest) (nowMs : Int)
    (archived : hub.packageOperationArchives[request.operationId]? = some archive)
    (digest : request.expectedOperationSha256 ≠ archive.operationSha256) :
    ∃ error, hub.archivePackageOperation request nowMs = (.error (.hubError error), hub) := by
  have refused : ∃ error, hub.packageArchiveEdit request nowMs = .error (.hubError error) := by
    unfold FleetHub.packageArchiveEdit
    by_cases wrong : ¬ Valid request ∨ nowMs < 0
    · simp only [rejectIf, errorIf, if_pos wrong, bind, Except.bind]
      exact ⟨_, rfl⟩
    · simp only [rejectIf, errorIf, if_neg wrong, archived, ne_eq, digest.symm, not_false_eq_true, if_true,
        bind, Except.bind]
      exact ⟨_, rfl⟩
  obtain ⟨error, edit⟩ := refused
  refine ⟨error, ?_⟩
  unfold FleetHub.archivePackageOperation
  rw [edit]

/-- What an archive call that reports success has done: an active operation has left the active ones, and
the record it answers with, now stored, is the one built of that operation at that time. -/
structure Archived (hub later : FleetHub) (operationId : String) (nowMs : Int)
    (archive : PackageInstallReleaseArchive) : Prop where
  inactive : operationId ∉ later.packageOperations
  stored : later.packageOperationArchives[operationId]? = some archive
  moved : ∀ operation, hub.packageOperations[operationId]? = some operation →
    archive = FleetHub.archiveRecord operation nowMs
  read : operationId ∉ hub.packageOperations → later = hub
  others : ∀ other, other ≠ operationId → later.packageOperations[other]? = hub.packageOperations[other]? ∧
    later.packageOperationArchives[other]? = hub.packageOperationArchives[other]?

theorem archive_ok (packages : PackageHub hub) (request : PackageOperationArchiveRequest) (nowMs : Int)
    (archive : PackageInstallReleaseArchive) (later : FleetHub)
    (ok : hub.archivePackageOperation request nowMs = (.ok archive, later)) :
    Archived hub later request.operationId nowMs archive := by
  unfold FleetHub.archivePackageOperation at ok
  split at ok
  · cases ok
  · rename_i existing decided
    cases ok
    obtain ⟨_, ⟨record, archived, _, same⟩ | ⟨_, _, ⟨⟩⟩⟩ := (archiveEdit_ok hub request nowMs _).mp decided
    cases same
    have inactive : hub.packageOperations[request.operationId]? = none := by
      cases active : hub.packageOperations[request.operationId]? with
      | none => rfl
      | some operation => cases archived.symm.trans (packages.apart request.operationId operation active)
    constructor
    case inactive =>
      rw [Std.ExtTreeMap.mem_iff_isSome_getElem?, inactive]
      exact Bool.false_ne_true
    case stored => exact archived
    case moved =>
      intro operation active
      cases active.symm.trans inactive
    case read =>
      intro _
      rfl
    case others =>
      intro other _
      exact ⟨rfl, rfl⟩
  · rename_i record decided
    cases ok
    obtain ⟨_, ⟨_, _, _, ⟨⟩⟩ | ⟨operation, checks, same⟩⟩ := (archiveEdit_ok hub request nowMs _).mp decided
    cases same
    constructor
    case inactive =>
      intro active
      exact (Std.ExtTreeMap.mem_erase.mp active).1 Std.ReflCmp.compare_self
    case stored => exact BTreeMap.lookup_insert_self _ _ _
    case moved =>
      intro active stored
      cases checks.stored.symm.trans stored
      rfl
    case read =>
      intro absent
      rw [Std.ExtTreeMap.mem_iff_isSome_getElem?, checks.stored] at absent
      exact absurd rfl absent
    case others =>
      intro other differ
      exact ⟨BTreeMap.lookup_erase_of_ne _ differ, BTreeMap.lookup_insert_of_ne _ _ differ⟩

end Archive

theorem preview_again (plan : PackageInstallReleasePreviewPlan)
    (kept : Keeps hub plan.operationId) :
    (hub.previewPackageInstallRelease plan).2 = hub ∧
      ∀ operation, (hub.previewPackageInstallRelease plan).1 = .ok operation →
        hub.packageOperation plan.operationId = .ok operation ∧ plan.matchesOperation operation := by
  have replayed : ∀ edit, hub.packagePreviewEdit plan = .ok edit →
      ∃ operation, edit = .unchanged operation ∧
        hub.packageOperation plan.operationId = .ok operation ∧ plan.matchesOperation operation := by
    intro edit decided
    obtain ⟨_, ⟨existing, active, agrees, rfl⟩ | ⟨inactive, archive, archived, agrees, rfl⟩ |
      ⟨_, checks, _⟩⟩ := (previewEdit_ok hub plan edit).mp decided
    · exact ⟨existing, rfl, (packageOperation_ok _ _ _).mpr (.inl active), agrees⟩
    · exact ⟨archive.operation, rfl,
        (packageOperation_ok _ _ _).mpr (.inr ⟨inactive, archive, archived, rfl⟩), agrees⟩
    · rcases kept with active | archived
      · rw [Std.ExtTreeMap.mem_iff_isSome_getElem?, checks.unused] at active
        cases active
      · rw [Std.ExtTreeMap.mem_iff_isSome_getElem?, checks.unarchived] at archived
        cases archived
  unfold FleetHub.previewPackageInstallRelease FleetHub.settlePackage
  split
  · exact ⟨rfl, fun operation same => by cases same⟩
  · rename_i existing decided
    obtain ⟨operation, same, readable, agrees⟩ := replayed _ decided
    cases same
    exact ⟨rfl, fun operation same => by cases same; exact ⟨readable, agrees⟩⟩
  · rename_i operation decided
    obtain ⟨_, ⟨⟩, _⟩ := replayed _ decided

section Runs

variable [HubEnvironment]

theorem keeps_later {hub : FleetHub} (packages : PackageHub hub) (further : List HubCall)
    (operationId : String) (kept : Keeps hub operationId) :
    Keeps (fleetHubMachine.run hub further) operationId := by
  have keeps := run_keeps packages further
  rcases kept with active | archived
  · obtain ⟨operation, stored⟩ :=
      Option.isSome_iff_exists.mp (Std.ExtTreeMap.mem_iff_isSome_getElem?.mp active)
    rcases keeps.active operationId operation stored with ⟨next, live, _⟩ | ⟨record, retired, _⟩
    · exact .inl (Std.ExtTreeMap.mem_iff_isSome_getElem?.mpr (Option.isSome_iff_exists.mpr ⟨next, live⟩))
    · exact .inr
        (Std.ExtTreeMap.mem_iff_isSome_getElem?.mpr (Option.isSome_iff_exists.mpr ⟨record, retired⟩))
  · obtain ⟨archive, stored⟩ :=
      Option.isSome_iff_exists.mp (Std.ExtTreeMap.mem_iff_isSome_getElem?.mp archived)
    exact .inr (Std.ExtTreeMap.mem_iff_isSome_getElem?.mpr
      (Option.isSome_iff_exists.mpr ⟨archive, keeps.archived operationId archive stored⟩))

/-- Archiving conserves operations: nothing is lost, duplicated, revised or named twice. -/
theorem archive_conserves (policy : AssertedPolicy) (calls : List HubCall) :
    let hub := fleetHubMachine.run (.new policy) calls
    (∀ operationId, ¬ (operationId ∈ hub.packageOperations ∧ operationId ∈ hub.packageOperationArchives)) ∧
      (∀ further operationId, Keeps hub operationId →
        Keeps (fleetHubMachine.run hub further) operationId) ∧
      (∀ further operationId archive, hub.packageOperationArchives[operationId]? = some archive →
        let later := fleetHubMachine.run hub further
        later.packageOperationArchives[operationId]? = some archive ∧
          later.packageOperation operationId = .ok archive.operation ∧
          later.packageOperationProgress operationId = .ok archive.progress) ∧
      (∀ request nowMs archive, hub.packageOperationArchives[request.operationId]? = some archive →
        (request.schema = packageOperationArchiveRequestSchema → 0 ≤ nowMs →
            request.expectedOperationSha256 = archive.operationSha256 →
            hub.archivePackageOperation request nowMs = (.ok archive, hub)) ∧
          (request.expectedOperationSha256 ≠ archive.operationSha256 →
            ∃ error, hub.archivePackageOperation request nowMs = (.error (.hubError error), hub))) ∧
      (∀ request nowMs archive later, hub.archivePackageOperation request nowMs = (.ok archive, later) →
        Archived hub later request.operationId nowMs archive) ∧
      ∀ plan : PackageInstallReleasePreviewPlan, Keeps hub plan.operationId →
        (hub.previewPackageInstallRelease plan).2 = hub ∧
          ∀ operation, (hub.previewPackageInstallRelease plan).1 = .ok operation →
            hub.packageOperation plan.operationId = .ok operation ∧ plan.matchesOperation operation := by
  intro hub
  have packages : PackageHub hub := run_packages policy calls
  refine ⟨?_, fun further operationId => keeps_later packages further operationId, ?_, ?_, archive_ok packages,
    preview_again⟩
  · rintro operationId ⟨active, archived⟩
    obtain ⟨operation, stored⟩ :=
      Option.isSome_iff_exists.mp (Std.ExtTreeMap.mem_iff_isSome_getElem?.mp active)
    have absent : hub.packageOperationArchives[operationId]? = none :=
      packages.apart operationId operation stored
    rw [Std.ExtTreeMap.mem_iff_isSome_getElem?, absent] at archived
    cases archived
  · intro further operationId archive archived later
    have kept := (run_keeps packages further).archived operationId archive archived
    have invariant : PackageHub later := fleetHubMachine.run_invariant (fun _ _ => True) PackageHub
      (fun _ call _ inv => call_keeps_packages inv call) hub further (fleetHubMachine.admits_true _ _) packages
    exact ⟨kept, archived_readable invariant kept⟩
  · intro request nowMs archive archived
    exact ⟨archive_again packages request nowMs archived, archive_changed request nowMs archived⟩

end Runs

end RustyFleet.PackageSafety

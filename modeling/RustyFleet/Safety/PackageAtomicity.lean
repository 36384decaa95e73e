import RustyFleet.Safety.PackageValidity

namespace RustyFleet.PackageSafety

variable {hub : FleetHub}

/-- The package maps of a Hub none of whose stored operations is half applied. -/
structure ValidPackages (hub : FleetHub) [OperationDigest] : Prop where
  packages : PackageHub hub
  valid : ∀ (operationId : String) (operation : PackageInstallReleaseOperation),
    hub.packageOperations[operationId]? = some operation → Valid operation

/-- The call does not edit an operation into one that the contract then refuses. -/
def KeepsContract (hub : FleetHub) : PackageCall → Prop
  | .confirm operationId previewId nowMs => ∀ operation,
    ConfirmChecks hub operationId previewId nowMs operation → operation.createdAtMs ≤ nowMs
  | .prepare operationId deviceId ownerActionRequestId nowMs => ∀ operation target,
    PrepareChecks hub operationId deviceId nowMs operation target →
      operation.createdAtMs ≤ nowMs ∧ isPortableId ownerActionRequestId 256 = true
  | .offer claim nowMs => ∀ operation target, OfferChecks hub claim nowMs operation target →
      operation.createdAtMs ≤ nowMs ∧ operation.occupiedDeliverySlots < operation.maxParallelism
  | .acknowledgement acknowledgement nowMs => ∀ operation target invocation,
    AcknowledgementChecks hub acknowledgement nowMs operation target invocation →
      operation.createdAtMs ≤ nowMs ∧ (acknowledgement.accepted = true → target.ownerClaim = none →
        operation.occupiedDeliverySlots < operation.maxParallelism)
  | .receipt receipt nowMs => ∀ operation target invocation,
    ReceiptChecks hub receipt nowMs operation target invocation → operation.createdAtMs ≤ nowMs
  | .progress progress nowMs => ∀ operation target invocation,
    ReportChecks hub progress nowMs operation target invocation → AdvanceChecks progress target →
      operation.createdAtMs ≤ nowMs ∧ (target.stage = .cancellationRequested →
        progress.stage = .recoveryRequired →
        operation.occupiedDeliverySlots < operation.maxParallelism)
  | .preview _ | .expire _ | .archive .. => True

def KeepsContractCall (hub : FleetHub) : HubCall → Prop
  | .package call => KeepsContract hub call
  | _ => True

/-- A call reported an error and still changed the Hub, or it did not. -/
def AtomicOnError [OperationDigest] (hub : FleetHub) (call : PackageCall) : Prop :=
  (hub.handlePackage call).1.isErr = true → (hub.handlePackage call).2 = hub

theorem settle_atomic_iff (valid : ∀ (key : String) (operation : PackageInstallReleaseOperation),
      hub.packageOperations[key]? = some operation → Valid operation)
    (operationId : String) (edit : HubResult (LedgerEdit PackageInstallReleaseOperation)) :
    (returnsErr (hub.settlePackage operationId edit).1 = true →
        (hub.settlePackage operationId edit).2 = hub) ↔
      ∀ next, edit = .ok (.rewritten next) → Valid next := by
  constructor
  · rintro atomic next rfl
    by_contra invalid
    have reported : returnsErr (hub.settlePackage operationId (.ok (.rewritten next))).1 = true := by
      simp only [FleetHub.settlePackage, validatePackageOperation, rejectIf, errorIf, if_pos invalid]
      rfl
    have same := atomic reported
    have stored : (hub.settlePackage operationId
        (.ok (.rewritten next))).2.packageOperations[operationId]? = some next :=
      BTreeMap.lookup_insert_self _ _ _
    rw [same] at stored
    exact invalid (valid operationId next stored)
  · intro accepted reported
    rcases edit with fault | operation | next
    · rfl
    · rfl
    · have admitted := accepted next rfl
      simp only [FleetHub.settlePackage, validatePackageOperation, rejectIf, errorIf,
        if_neg (not_not.mpr admitted)] at reported
      cases reported

theorem settle_valid (valid : ∀ (key : String) (operation : PackageInstallReleaseOperation),
      hub.packageOperations[key]? = some operation → Valid operation)
    (operationId : String) (edit : HubResult (LedgerEdit PackageInstallReleaseOperation))
    (accepted : ∀ next, edit = .ok (.rewritten next) → Valid next) :
    ∀ (key : String) (operation : PackageInstallReleaseOperation),
      (hub.settlePackage operationId edit).2.packageOperations[key]? = some operation →
        Valid operation := by
  rcases settle_cases operationId edit with same | ⟨next, rewritten, changed⟩
  · rw [same]
    exact valid
  · rw [changed]
    exact BTreeMap.insert_forall _ operationId next (fun _ operation => Valid operation) valid
      (accepted next rewritten)

theorem expire_valid (nowMs : Int) (rest : List (String × PackageInstallReleaseOperation)) (expired : Nat)
    (stored : BTreeMap String PackageInstallReleaseOperation)
    (valid : ∀ (key : String) (operation : PackageInstallReleaseOperation),
      stored[key]? = some operation → Valid operation)
    (waiting : ∀ entry ∈ rest, OperationLedger entry.2 ∧ Valid entry.2) :
    (∃ count, (FleetHub.expireClaimsLoop nowMs expired stored rest).1 = .ok count) ∧
      ∀ (key : String) (operation : PackageInstallReleaseOperation),
        (FleetHub.expireClaimsLoop nowMs expired stored rest).2[key]? = some operation →
          Valid operation := by
  induction rest generalizing expired stored with
  | nil => exact ⟨⟨expired, rfl⟩, valid⟩
  | cons entry rest ih =>
    obtain ⟨operationId, operation⟩ := entry
    obtain ⟨ledger, own⟩ := waiting (operationId, operation) List.mem_cons_self
    have admitted : Valid (operation.claimsExpired nowMs) := claimsExpired_valid nowMs ledger own
    simp only [FleetHub.expireClaimsLoop, validatePackageOperation, rejectIf, errorIf,
      if_neg (not_not.mpr admitted)]
    exact ih _ _ (BTreeMap.insert_forall stored operationId _ (fun _ operation => Valid operation) valid
      admitted) fun later member => waiting later (List.mem_cons_of_mem _ member)

section Calls

variable [OperationDigest]

theorem ValidPackages.waiting (sound : ValidPackages hub) :
    ∀ entry ∈ hub.packageOperations.toList, OperationLedger entry.2 ∧ Valid entry.2 := by
  intro entry member
  have stored := Std.ExtTreeMap.mem_toList_iff_getElem?_eq_some.mp member
  exact ⟨sound.packages.ledger stored, sound.valid _ _ stored⟩

theorem archive_errors (request : PackageOperationArchiveRequest) (nowMs : Int) :
    returnsErr (hub.archivePackageOperation request nowMs).1 = true →
      (hub.archivePackageOperation request nowMs).2 = hub := by
  intro reported
  unfold FleetHub.archivePackageOperation at reported ⊢
  split
  · rfl
  · rfl
  · rename_i archive rewritten
    rw [rewritten] at reported
    cases reported

theorem archive_valid (request : PackageOperationArchiveRequest) (nowMs : Int)
    (valid : ∀ (key : String) (operation : PackageInstallReleaseOperation),
      hub.packageOperations[key]? = some operation → Valid operation) :
    ∀ (key : String) (operation : PackageInstallReleaseOperation),
      (hub.archivePackageOperation request nowMs).2.packageOperations[key]? = some operation →
        Valid operation := by
  unfold FleetHub.archivePackageOperation
  split
  · exact valid
  · exact valid
  · exact BTreeMap.erase_forall _ _ (fun _ operation => Valid operation) valid

theorem accepted_iff (sound : ValidPackages hub) (operationId : String)
    (edit : HubResult (LedgerEdit PackageInstallReleaseOperation)) (keeps : Prop)
    (judged : (∀ next, edit = .ok (.rewritten next) → Valid next) ↔ keeps) :
    ((returnsErr (hub.settlePackage operationId edit).1 = true →
        (hub.settlePackage operationId edit).2 = hub) ↔ keeps) ∧
      (keeps → ∀ (key : String) (operation : PackageInstallReleaseOperation),
        (hub.settlePackage operationId edit).2.packageOperations[key]? = some operation →
          Valid operation) :=
  ⟨(settle_atomic_iff sound.valid operationId edit).trans judged,
    fun kept => settle_valid sound.valid operationId edit (judged.mpr kept)⟩

theorem confirm_accepted_iff (sound : ValidPackages hub) (operationId previewId : String) (nowMs : Int) :
    (∀ next, hub.packageConfirmEdit operationId previewId nowMs = .ok (.rewritten next) → Valid next) ↔
      KeepsContract hub (.confirm operationId previewId nowMs) := by
  constructor
  · intro accepted operation checks
    refine (confirmed_valid_iff (sound.packages.ledger checks.stored) checks
      (sound.valid _ _ checks.stored)).mp (accepted _ ?_)
    exact (confirmEdit_rewritten hub _ _ _ _).mpr ⟨operation, checks, rfl⟩
  · intro kept next rewritten
    obtain ⟨operation, checks, rfl⟩ := (confirmEdit_rewritten hub _ _ _ _).mp rewritten
    exact (confirmed_valid_iff (sound.packages.ledger checks.stored) checks
      (sound.valid _ _ checks.stored)).mpr (kept operation checks)

theorem prepare_accepted_iff (sound : ValidPackages hub) (operationId deviceId requestId : String)
    (nowMs : Int) :
    (∀ next, hub.packagePrepareEdit operationId deviceId requestId nowMs = .ok (.rewritten next) →
        Valid next) ↔
      KeepsContract hub (.prepare operationId deviceId requestId nowMs) := by
  constructor
  · intro accepted operation target checks
    refine (prepared_valid_iff requestId (sound.packages.ledger checks.stored) checks
      (sound.valid _ _ checks.stored)).mp (accepted _ ?_)
    exact (prepareEdit_rewritten hub _ _ _ _ _).mpr ⟨operation, target, checks, rfl⟩
  · intro kept next rewritten
    obtain ⟨operation, target, checks, rfl⟩ := (prepareEdit_rewritten hub _ _ _ _ _).mp rewritten
    exact (prepared_valid_iff requestId (sound.packages.ledger checks.stored) checks
      (sound.valid _ _ checks.stored)).mpr (kept operation target checks)

theorem offer_accepted_iff (sound : ValidPackages hub) (claim : PackageUpdaterClaim) (nowMs : Int) :
    (∀ next, hub.packageOfferEdit claim nowMs = .ok (.rewritten next) → Valid next) ↔
      KeepsContract hub (.offer claim nowMs) := by
  constructor
  · intro accepted operation target checks
    refine (offered_valid_iff (sound.packages.ledger checks.stored) checks
      (sound.valid _ _ checks.stored)).mp (accepted _ ?_)
    exact (offerEdit_ok hub _ _ _).mpr ⟨operation, target, checks, rfl⟩
  · intro kept next rewritten
    obtain ⟨operation, target, checks, ⟨⟩⟩ := (offerEdit_ok hub _ _ _).mp rewritten
    exact (offered_valid_iff (sound.packages.ledger checks.stored) checks
      (sound.valid _ _ checks.stored)).mpr (kept operation target checks)

theorem acknowledgement_accepted_iff (sound : ValidPackages hub)
    (acknowledgement : PackageUpdaterInvocationAcknowledgement) (nowMs : Int) :
    (∀ next, hub.packageAcknowledgementEdit acknowledgement nowMs = .ok (.rewritten next) →
        Valid next) ↔
      KeepsContract hub (.acknowledgement acknowledgement nowMs) := by
  constructor
  · intro accepted operation target invocation checks
    refine (acknowledged_valid_iff (sound.packages.ledger checks.stored) checks
      (sound.valid _ _ checks.stored)).mp (accepted _ ?_)
    exact (acknowledgementEdit_rewritten hub _ _ _).mpr ⟨operation, target, invocation, checks, rfl⟩
  · intro kept next rewritten
    obtain ⟨operation, target, invocation, checks, rfl⟩ :=
      (acknowledgementEdit_rewritten hub _ _ _).mp rewritten
    exact (acknowledged_valid_iff (sound.packages.ledger checks.stored) checks
      (sound.valid _ _ checks.stored)).mpr (kept operation target invocation checks)

theorem receipt_accepted_iff (sound : ValidPackages hub) (receipt : PackageUpdaterEffectiveReceipt)
    (nowMs : Int) :
    (∀ next, hub.packageReceiptEdit receipt nowMs = .ok (.rewritten next) → Valid next) ↔
      KeepsContract hub (.receipt receipt nowMs) := by
  constructor
  · intro accepted operation target invocation checks
    refine (received_valid_iff (sound.packages.ledger checks.stored) checks
      (sound.valid _ _ checks.stored)).mp (accepted _ ?_)
    exact (receiptEdit_rewritten hub _ _ _).mpr ⟨operation, target, invocation, checks, rfl⟩
  · intro kept next rewritten
    obtain ⟨operation, target, invocation, checks, rfl⟩ := (receiptEdit_rewritten hub _ _ _).mp rewritten
    exact (received_valid_iff (sound.packages.ledger checks.stored) checks
      (sound.valid _ _ checks.stored)).mpr (kept operation target invocation checks)

theorem progress_accepted_iff (sound : ValidPackages hub) (progress : PackageUpdaterProgress)
    (nowMs : Int) :
    (∀ next, hub.packageProgressEdit progress nowMs = .ok (.rewritten next) → Valid next) ↔
      KeepsContract hub (.progress progress nowMs) := by
  constructor
  · intro accepted operation target invocation checks advance
    refine (progressed_valid_iff (sound.packages.ledger checks.stored) checks advance
      (sound.valid _ _ checks.stored)).mp (accepted _ ?_)
    exact (progressEdit_ok hub _ _ _).mpr ⟨operation, target, invocation, checks, .inr ⟨advance, rfl⟩⟩
  · intro kept next rewritten
    obtain ⟨operation, target, invocation, checks, ⟨_, ⟨⟩⟩ | ⟨advance, ⟨⟩⟩⟩ :=
      (progressEdit_ok hub _ _ _).mp rewritten
    exact (progressed_valid_iff (sound.packages.ledger checks.stored) checks advance
      (sound.valid _ _ checks.stored)).mpr (kept operation target invocation checks advance)

theorem call_atomic_iff (sound : ValidPackages hub) (call : PackageCall) :
    (AtomicOnError hub call ↔ KeepsContract hub call) ∧
      (KeepsContract hub call →
        ∀ (key : String) (operation : PackageInstallReleaseOperation),
          (hub.handlePackage call).2.packageOperations[key]? = some operation → Valid operation) := by
  cases call with
  | preview plan =>
    refine accepted_iff sound plan.operationId _ _ ⟨fun _ => trivial, fun _ next rewritten => ?_⟩
    obtain ⟨_, ⟨_, _, _, ⟨⟩⟩ | ⟨_, _, _, _, ⟨⟩⟩ | ⟨preflights, checks, ⟨⟩⟩⟩ :=
      (previewEdit_ok hub plan _).mp rewritten
    exact checks.admitted
  | confirm operationId previewId nowMs =>
    exact accepted_iff sound operationId _ _ (confirm_accepted_iff sound operationId previewId nowMs)
  | prepare operationId deviceId requestId nowMs =>
    exact accepted_iff sound operationId _ _ (prepare_accepted_iff sound operationId deviceId requestId nowMs)
  | offer claim nowMs => exact accepted_iff sound _ _ _ (offer_accepted_iff sound claim nowMs)
  | expire nowMs =>
    obtain ⟨⟨count, ok⟩, valid⟩ :=
      expire_valid nowMs hub.packageOperations.toList 0 hub.packageOperations sound.valid sound.waiting
    refine ⟨⟨fun _ => trivial, fun _ reported => ?_⟩, fun _ => valid⟩
    simp only [FleetHub.handlePackage, FleetHub.expirePackageUpdaterClaims, Prod.map_fst, ok] at reported
    cases reported
  | acknowledgement acknowledgement nowMs =>
    exact accepted_iff sound _ _ _ (acknowledgement_accepted_iff sound acknowledgement nowMs)
  | receipt receipt nowMs => exact accepted_iff sound _ _ _ (receipt_accepted_iff sound receipt nowMs)
  | progress progress nowMs => exact accepted_iff sound _ _ _ (progress_accepted_iff sound progress nowMs)
  | archive request nowMs =>
    exact ⟨⟨fun _ => trivial, fun _ => archive_errors request nowMs⟩,
      fun _ => archive_valid request nowMs sound.valid⟩

end Calls

section Runs

variable [HubEnvironment]

theorem validPackages_new (policy : AssertedPolicy) : ValidPackages (.new policy) where
  packages := packageHub_new policy
  valid := by
    intro key operation stored
    simp [FleetHub.new] at stored

theorem call_stays_valid (sound : ValidPackages hub) (call : HubCall)
    (kept : KeepsContractCall hub call) : ValidPackages (hub.handle call).1 := by
  refine ⟨call_keeps_packages sound.packages call, ?_⟩
  by_cases own : ∃ package, call = .package package
  · obtain ⟨package, rfl⟩ := own
    rw [FleetHub.handle_package]
    exact (call_atomic_iff sound package).2 kept
  · have same := ((hub.handle_leaves_others call).packages fun package same => own ⟨package, same⟩).1
    rw [same]
    exact sound.valid

theorem reachable_valid {policy : AssertedPolicy}
    (reachable : fleetHubMachine.Reachable KeepsContractCall (.new policy) hub) : ValidPackages hub :=
  Machine.Reachable.invariant fleetHubMachine (fun hub => ValidPackages hub)
    (fun _ call kept sound => call_stays_valid sound call kept) (validPackages_new policy) reachable

/-- In a run whose calls keep the contract every package error is atomic, and only such calls keep it so. -/
theorem package_errors_atomic (policy : AssertedPolicy) (calls : List HubCall)
    (kept : fleetHubMachine.Admits KeepsContractCall (.new policy) calls) :
    (∀ hub call answer, (hub, HubCall.package call, answer) ∈ fleetHubMachine.trace (.new policy) calls →
        answer.isErr = true → (hub.handle (.package call)).1 = hub) ∧
      ∀ call, AtomicOnError (fleetHubMachine.run (.new policy) calls) call ↔
        KeepsContract (fleetHubMachine.run (.new policy) calls) call := by
  refine ⟨?_, fun call => (call_atomic_iff (reachable_valid ⟨calls, kept, rfl⟩) call).1⟩
  intro hub call answer member reported
  obtain ⟨reachable, permitted, rfl⟩ :=
    fleetHubMachine.mem_trace KeepsContractCall _ hub (.package call) answer calls kept member
  rw [FleetHub.handle_package]
  exact (call_atomic_iff (reachable_valid reachable) call).1.mpr permitted reported

end Runs

section Samples

def sampleDigest : String := "sha256:" ++ String.ofList (List.replicate 64 'a')

@[reducible] def sampleEnvironment : HubEnvironment where
  streamViolations _ := []
  encodedBytes _ := some 1024
  toLowercase value := String.ofList (value.toList.map Char.toLower)
  operationSha256 _ := sampleDigest
  sha256Hex _ := String.ofList (List.replicate 64 'a')

def samplePolicy : AssertedPolicy := ⟨.default, by decide⟩

def readyCapability : CapabilityState where
  capabilityId := packageUpdaterCapabilityId
  support := .supported
  enablement := .enabled
  authorization := .authorized
  reachability := .reachable
  freshness := .current
  evidenceRevision := 1
  observedAtMs := 1000
  freshUntilMs := 61000
  owner := packageUpdaterOwner
  reason := "owner_ready"
  extensions := ∅

def readyObservation (deviceId : String) : DeviceObservation where
  schema := "rusty.fleet.device_observation.v1"
  identity :=
    { deviceId := deviceId
      identityRevision := 1
      displayName := "Headset"
      model := "quest-3"
      hardwareClass := "xr-headset"
      tags := ∅
      extensions := ∅ }
  sourceEpoch := "boot-1"
  sourceRevision := 1
  sourceTimeMs := 1000
  receivedTimeMs := 1000
  batteryPercent := none
  charging := none
  foregroundApp := none
  agent := none
  power := none
  application := none
  kioskState := .unknown
  conditions := []
  capabilities :=
    { capabilities := .ofList [(packageUpdaterCapabilityId, readyCapability)] compare
      extensions := ∅ }
  streams := []
  extensions := ∅

def readyPlan (operationId : String) (deviceIds : List String) (maxParallelism : Nat) :
    PackageInstallReleasePreviewPlan where
  operationId := operationId
  previewId := "preview-1"
  request :=
    { schema := packageInstallPreviewRequestSchema
      actionId := packagesInstallReleaseActionId
      release := .releaseId "release-15"
      expectedPackageName := "a.kiosk"
      expectedRolloutRing := "stable"
      targets := .ofList (deviceIds.map fun deviceId => (deviceId, 1)) compare }
  createdAtMs := 1000
  expiresAtMs := 61000
  maxParallelism := maxParallelism

def previewedCalls (deviceIds : List String) (maxParallelism : Nat) : List HubCall :=
  (deviceIds.map fun deviceId => .observe (readyObservation deviceId) 1000) ++
    [.package (.preview (readyPlan "op-1" deviceIds maxParallelism))]

def confirmCall (operationId : String) : HubCall :=
  .package (.confirm operationId "preview-1" 1001)

def samplePrepare (operationId deviceId : String) : HubCall :=
  .package (.prepare operationId deviceId "ask-1" 1002)

/-- The invocation `samplePrepare` freezes. -/
def sampleInvocation (operationId deviceId : String) : PackageUpdaterInvocation where
  schema := "rusty.fleet.package_updater_invocation.v1"
  operationId := operationId
  previewId := "preview-1"
  deviceId := deviceId
  identityRevision := 1
  ownerActionRequestId := "ask-1"
  release := .releaseId "release-15"
  expectedPackageName := "a.kiosk"
  expectedRolloutRing := "stable"
  expiresAtMs := 61000

def sampleClaim (operationId deviceId claimId requestId : String) : PackageUpdaterClaim where
  schema := packageUpdaterClaimSchema
  claimId := claimId
  ownerId := "owner-1"
  requestId := requestId
  claimedAtMs := 1003
  expiresAtMs := 2000
  invocationSha256 := sampleDigest
  releaseSha256 := sampleDigest
  targetSha256 := sampleDigest
  invocation := sampleInvocation operationId deviceId

def sampleAcknowledgement (operationId deviceId : String) (accepted : Bool) :
    PackageUpdaterInvocationAcknowledgement where
  schema := packageUpdaterAckSchema
  operationId := operationId
  deviceId := deviceId
  ownerActionRequestId := "ask-1"
  accepted := accepted
  code := "answered"
  acknowledgedAtMs := 1004

def sampleProgress (deviceId : String) (stage : PackageUpdaterProgressStage) (observedAtMs : Int) :
    PackageUpdaterProgress where
  schema := packageUpdaterProgressSchema
  operationId := "op-1"
  deviceId := deviceId
  ownerActionRequestId := "ask-1"
  stage := stage
  code := "reported"
  message := "m"
  observedAtMs := observedAtMs

theorem previewed_run_atomic :
    (∀ hub call answer, (hub, HubCall.package call, answer) ∈
        (@fleetHubMachine sampleEnvironment).trace (.new samplePolicy) (previewedCalls ["d1"] 1) →
      answer.isErr = true → (@FleetHub.handle hub sampleEnvironment (.package call)).1 = hub) ∧
      ∀ call, @AtomicOnError sampleEnvironment.toOperationDigest
          ((@fleetHubMachine sampleEnvironment).run (.new samplePolicy) (previewedCalls ["d1"] 1)) call ↔
        KeepsContract ((@fleetHubMachine sampleEnvironment).run (.new samplePolicy)
          (previewedCalls ["d1"] 1)) call :=
  @package_errors_atomic sampleEnvironment samplePolicy (previewedCalls ["d1"] 1)
    ⟨trivial, trivial, trivial⟩

/-- A confirmation whose clock precedes the preview fails and leaves the operation confirmed. -/
theorem package_error_half_applied :
    ∃ (_ : HubEnvironment) (policy : AssertedPolicy) (calls : List HubCall) (call : PackageCall),
      ((fleetHubMachine.run (.new policy) calls).handlePackage call).1.isErr = true ∧
        ((fleetHubMachine.run (.new policy) calls).handlePackage call).2 ≠
          fleetHubMachine.run (.new policy) calls := by
  refine ⟨sampleEnvironment, samplePolicy, previewedCalls ["d1"] 1,
    .confirm "op-1" "preview-1" 999, by decide, fun same => ?_⟩
  have lifecycle := congrArg (fun hub : FleetHub =>
    hub.packageOperations["op-1"]?.map (·.lifecycle)) same
  revert lifecycle
  decide

end Samples

end RustyFleet.PackageSafety

import RustyFleet.Safety.Directory
import RustyFleet.Safety.PackageChecks
import RustyFleet.Safety.PackageSteps
import RustyFleet.Support.Retention

namespace RustyFleet.PackageSafety

variable {hub : FleetHub} {operation : PackageInstallReleaseOperation}

theorem FrozenHeader.of_valid (valid : Valid operation) : FrozenHeader operation := by
  simp only [Valid, violations, List.append_eq_nil_iff, violationIf_nil, List.map_eq_nil_iff] at valid
  obtain ⟨⟨⟨⟨⟨own, preview⟩, bound⟩, _⟩, _⟩, _⟩ := valid
  simp only [not_or, not_not, ne_eq] at own bound
  obtain ⟨schema, portable, action, created, parallelism, clean⟩ := own
  obtain ⟨named, sameAction, sameStart, length⟩ := bound
  refine ⟨schema, portable, action, by omega, parallelism, by simpa using clean, ?_, named, sameAction,
    sameStart, length⟩
  simpa only [Valid, violations, List.append_eq_nil_iff, violationIf_nil] using preview

theorem valid_targets (valid : Valid operation) : operation.targetsViolations [] 0 operation.targets = [] := by
  simp only [Valid, violations, List.append_eq_nil_iff] at valid
  exact valid.1.1.2

theorem targets_facts (seen : List String) (index : Nat) (targets : List PackageInstallTargetLedger)
    (clear : operation.targetsViolations seen index targets = []) :
    ∀ target ∈ targets, operation.previews[target.deviceId]? = some target.preflight ∧
      target.identityRevision = target.preflight.identityRevision ∧
      isPortableId target.reasonCode 256 = true ∧ target.message.isEmpty = false := by
  induction targets generalizing seen index with
  | nil => intro target member; cases member
  | cons first rest ih =>
    rw [PackageInstallReleaseOperation.targetsViolations, List.append_eq_nil_iff] at clear
    intro target member
    rcases List.mem_cons.mp member with rfl | later
    · have own := clear.1
      simp only [PackageInstallReleaseOperation.targetViolations, List.append_eq_nil_iff, violationIf_nil,
        not_or, not_not, ne_eq] at own
      obtain ⟨⟨_, frozen, identity, _, reason, message⟩, _⟩ := own
      exact ⟨frozen, identity, reason, by simpa using message⟩
    · exact ih _ _ clear.2 target later

theorem plan_targets {plan : PackageInstallReleasePreviewPlan}
    (bounded : plan.validatePackagePreviewPlan = .ok ()) :
    ∀ entry ∈ plan.request.targets.toList, isPortableId entry.1 256 = true ∧ entry.2 ≠ 0 := by
  rw [PackageInstallReleasePreviewPlan.validatePackagePreviewPlan, errorIf_ok] at bounded
  simp only [not_or, not_not, Valid, violations, List.append_eq_nil_iff, packageTargetViolations,
    List.flatMap_eq_nil_iff, violationIf_nil] at bounded
  intro entry member
  exact bounded.2.2.2.2.1.2.2 entry member

theorem proposed_unevidenced (createdAtMs : Int) (preflight : PackageInstallTargetPreflight) :
    ¬ (PackageInstallTargetLedger.proposed createdAtMs preflight).hasOwnerEvidence := by
  simp [PackageInstallTargetLedger.hasOwnerEvidence, PackageInstallTargetLedger.proposed]

theorem proposed_ledger {plan : PackageInstallReleasePreviewPlan}
    {preflights : List PackageInstallTargetPreflight} {fleetRevision : Nat}
    (bounded : plan.validatePackagePreviewPlan = .ok ())
    (named : preflights.map (fun current => (current.deviceId, current.identityRevision)) =
      plan.request.targets.toList)
    (valid : Valid (plan.proposedOperation fleetRevision preflights)) :
    OperationLedger (plan.proposedOperation fleetRevision preflights) := by
  have header := FrozenHeader.of_valid valid
  have facts := targets_facts [] 0 _ (valid_targets valid)
  obtain ⟨_, _, _, _, _, distinct, positive⟩ := preview_facts header.preview
  refine ⟨header, ?_, ?_, rfl, ?_⟩
  · have devices : (plan.proposedOperation fleetRevision preflights).targets.map (·.deviceId) =
        preflights.map (·.deviceId) := List.map_map
    rw [devices]
    exact distinct
  · intro target member
    obtain ⟨frozen, identity, reason, message⟩ := facts target member
    obtain ⟨preflight, known, rfl⟩ := List.mem_map.mp member
    have requested : (preflight.deviceId, preflight.identityRevision) ∈ plan.request.targets.toList := by
      rw [← named]
      exact List.mem_map_of_mem (f := fun current => (current.deviceId, current.identityRevision)) known
    have unevidenced := proposed_unevidenced plan.createdAtMs preflight
    refine
      { frozen := frozen, identity := identity, reason := reason, message := message
        positive := Nat.pos_of_ne_zero (positive preflight known)
        portable := (plan_targets bounded _ requested).1
        invocation := nofun, excluded := ?_, claims := ?_, phase := ?_ }
    · intro excluded
      have ineligible : preflight.eligible = false := excluded
      refine ⟨?_, ?_, unevidenced⟩ <;>
        simp only [PackageInstallTargetLedger.proposed, ineligible, Bool.false_eq_true, if_false]
    · intro _
      exact ⟨Nat.zero_le _, nofun, nofun, Nat.zero_le _, nofun, List.Pairwise.nil⟩
    · intro eligible
      have ready : preflight.eligible = true := eligible
      have lifecycle : (PackageInstallTargetLedger.proposed plan.createdAtMs preflight).lifecycle =
          .proposed := by
        simp only [PackageInstallTargetLedger.proposed, ready, if_true]
      have stage : (PackageInstallTargetLedger.proposed plan.createdAtMs preflight).stage =
          .previewReady := by
        simp only [PackageInstallTargetLedger.proposed, ready, if_true]
      rw [PhaseFacts, lifecycle]
      exact ⟨stage, unevidenced⟩
  · rintro _ target member eligible
    obtain ⟨preflight, _, rfl⟩ := List.mem_map.mp member
    have ready : preflight.eligible = true := eligible
    simp only [PackageInstallTargetLedger.proposed, ready, if_true]

theorem replays_false (claim : PackageUpdaterClaim) (fresh : hub.replaysConsumedClaim claim = false)
    (key : String) (operation : PackageInstallReleaseOperation)
    (stored : hub.packageOperations[key]? = some operation) (target : PackageInstallTargetLedger)
    (member : target ∈ operation.targets) :
    ∀ identity ∈ target.consumedOwnerClaimIdentities,
      identity.claimId ≠ claim.claimId ∧ identity.requestId ≠ claim.requestId := by
  rw [FleetHub.replaysConsumedClaim, BTreeMap.anyEntry_false_iff] at fresh
  have clear := fresh key operation stored
  simp only [List.any_eq_false, Bool.or_eq_true, beq_iff_eq, not_or, List.any_eq_true, not_exists,
    not_and] at clear
  exact clear target member

theorem offered_rederived (ledger : OperationLedger operation) (claim : PackageUpdaterClaim) (nowMs : Int)
    (target : PackageInstallTargetLedger)
    (found : operation.findTarget claim.invocation.deviceId = some target) :
    operation.rewriteTarget claim.invocation.deviceId (·.offered claim nowMs) =
      (operation.rewriteTarget claim.invocation.deviceId (·.offered claim nowMs)).rederived := by
  have same : (operation.rewriteTarget claim.invocation.deviceId
      (·.offered claim nowMs)).derivedLifecycle = operation.derivedLifecycle := by
    refine derived_congr ((Support.modifyFirst_forall₂ _ _ _ target found).imp ?_)
    rintro before after (rfl | ⟨rfl, rfl⟩)
    · exact ⟨rfl, rfl⟩
    · exact ⟨rfl, rfl⟩
  rw [PackageInstallReleaseOperation.rederived, same, ← ledger.derived]
  rfl

theorem ConfirmChecks.step {operationId previewId : String} {nowMs : Int}
    (checks : ConfirmChecks hub operationId previewId nowMs operation) :
    OperationStep operation (operation.confirmed nowMs) :=
  .confirmed nowMs checks.proposed

theorem PrepareChecks.step {operationId deviceId : String} {nowMs : Int}
    {target : PackageInstallTargetLedger} (ownerActionRequestId : String)
    (checks : PrepareChecks hub operationId deviceId nowMs operation target) :
    OperationStep operation (operation.rewriteTarget deviceId
      (·.prepared (operation.invocationFor target ownerActionRequestId) nowMs)).rederived := by
  refine .rewritten deviceId _ target checks.found ?_
    (.prepared ownerActionRequestId nowMs checks.accepted checks.approved)
  rw [checks.accepted]
  decide

theorem OfferChecks.step {claim : PackageUpdaterClaim} {nowMs : Int}
    {target : PackageInstallTargetLedger} (ledger : OperationLedger operation)
    (checks : OfferChecks hub claim nowMs operation target) :
    OperationStep operation
      (operation.rewriteTarget claim.invocation.deviceId (·.offered claim nowMs)) := by
  have member := (findTarget_some checks.found).1
  have fresh := replays_false claim checks.fresh _ operation checks.stored target member
  rw [offered_rederived ledger claim nowMs target checks.found]
  refine .rewritten _ _ target checks.found ?_ (.offered claim nowMs checks.ready checks.valid checks.begun
    checks.alive checks.bound checks.free checks.room fresh)
  rw [checks.ready.1]
  decide

theorem AcknowledgementChecks.step {acknowledgement : PackageUpdaterInvocationAcknowledgement}
    {nowMs : Int} {target : PackageInstallTargetLedger} {invocation : PackageUpdaterInvocation}
    (checks : AcknowledgementChecks hub acknowledgement nowMs operation target invocation) :
    OperationStep operation (operation.rewriteTarget acknowledgement.deviceId
      (·.acknowledged acknowledgement nowMs)).rederived := by
  refine .rewritten _ _ target checks.found ?_ (.acknowledged acknowledgement invocation nowMs checks.ready
    checks.bound checks.valid checks.operationId checks.deviceId checks.requestId)
  rw [checks.ready.1]
  decide

theorem ReceiptChecks.step {receipt : PackageUpdaterEffectiveReceipt} {nowMs : Int}
    {target : PackageInstallTargetLedger} {invocation : PackageUpdaterInvocation}
    (checks : ReceiptChecks hub receipt nowMs operation target invocation) :
    OperationStep operation
      (operation.rewriteTarget receipt.deviceId (·.received receipt nowMs)).rederived := by
  refine .rewritten _ _ target checks.found ?_
    (.received receipt invocation nowMs checks.inflight checks.bound checks.proves)
  intro proposed
  have inflight := checks.inflight
  rw [proposed] at inflight
  exact absurd inflight (by decide)

theorem ReportChecks.step {progress : PackageUpdaterProgress} {nowMs : Int}
    {target : PackageInstallTargetLedger} {invocation : PackageUpdaterInvocation}
    (ledger : OperationLedger operation)
    (checks : ReportChecks hub progress nowMs operation target invocation)
    (advance : AdvanceChecks progress target) :
    OperationStep operation
      (operation.rewriteTarget progress.deviceId (·.progressed progress nowMs)).rederived := by
  refine .rewritten _ _ target checks.found ?_ (.progressed progress invocation nowMs checks.bound
    checks.reports checks.acknowledged advance.newer advance.allowed)
  have own := ledger.targets target (findTarget_some checks.found).1
  obtain ⟨_, lifecycle | lifecycle | lifecycle⟩ := own.inflight_of_transition progress.stage advance.allowed <;>
    rw [lifecycle] <;> decide

theorem settle_cases (operationId : String) (edit : HubResult (LedgerEdit PackageInstallReleaseOperation)) :
    (hub.settlePackage operationId edit).2 = hub ∨
      ∃ next, edit = .ok (.rewritten next) ∧
        (hub.settlePackage operationId edit).2 =
          { hub with packageOperations := hub.packageOperations.insert operationId next } := by
  unfold FleetHub.settlePackage
  split
  · exact .inl rfl
  · exact .inl rfl
  · exact .inr ⟨_, rfl, rfl⟩

theorem settle_ok_iff (operationId : String) (edit : HubResult (LedgerEdit PackageInstallReleaseOperation))
    (result : PackageInstallReleaseOperation) :
    (hub.settlePackage operationId edit).1 = .ok result ↔
      edit = .ok (.unchanged result) ∨ (edit = .ok (.rewritten result) ∧ Valid result) := by
  rcases edit with fault | operation | next
  · simp [FleetHub.settlePackage]
  · simp [FleetHub.settlePackage]
  · by_cases admitted : Valid next
    · simp only [FleetHub.settlePackage, validatePackageOperation, rejectIf, errorIf, if_neg (not_not.mpr admitted)]
      constructor
      · rintro ⟨⟩
        exact .inr ⟨rfl, admitted⟩
      · rintro (⟨⟨⟩⟩ | ⟨⟨⟩, _⟩)
        rfl
    · simp only [FleetHub.settlePackage, validatePackageOperation, rejectIf, errorIf, if_pos admitted]
      constructor
      · rintro ⟨⟩
      · rintro (⟨⟨⟩⟩ | ⟨⟨⟩, valid⟩)
        exact absurd valid admitted

section Moves

variable [OperationDigest]

def packageShelf (hub : FleetHub) :
    Retention String PackageInstallReleaseOperation PackageInstallReleaseArchive where
  active := hub.packageOperations
  archived := hub.packageOperationArchives

def Stored (operationId : String) (operation : PackageInstallReleaseOperation) : Prop :=
  operation.operationId = operationId ∧ OperationLedger operation

structure Retained (operationId : String) (archive : PackageInstallReleaseArchive) : Prop where
  named : archive.operationId = operationId
  ledger : Stored operationId archive.operation
  terminal : archive.operation.isTerminal = true
  valid : Valid archive
  digest : archive.operationSha256 = archive.operation.operationSha256
  prefixed : isPrefixedSha256 archive.operationSha256 = true
  portable : isPortableId operationId 256 = true

structure Archives (operationId : String) (operation : PackageInstallReleaseOperation)
    (archive : PackageInstallReleaseArchive) : Prop where
  record : ∃ nowMs, archive = FleetHub.archiveRecord operation nowMs
  terminal : operation.isTerminal = true
  valid : Valid archive
  prefixed : isPrefixedSha256 operation.operationSha256 = true
  portable : isPortableId operationId 256 = true

abbrev PackageShelf := Retention String PackageInstallReleaseOperation PackageInstallReleaseArchive

def Move : PackageShelf → PackageShelf → Prop :=
  Retention.Step Stored (fun _ => OperationStep) Archives

/-- The invariant of the package maps over every run. -/
structure PackageHub (hub : FleetHub) : Prop where
  keyed : DirectoryKeyed hub
  holds : (packageShelf hub).Holds Stored Retained
  apart : (packageShelf hub).Apart

theorem packageHub_new (policy : AssertedPolicy) : PackageHub (.new policy) where
  keyed := directoryKeyed_new policy
  holds := by
    constructor <;> intro key entry stored <;> simp [packageShelf, FleetHub.new] at stored
  apart := by
    intro key entry stored
    simp [packageShelf, FleetHub.new] at stored

theorem PackageHub.ledger (packages : PackageHub hub) {operationId : String}
    (stored : hub.packageOperations[operationId]? = some operation) : OperationLedger operation :=
  (packages.holds.1 operationId operation stored).2

theorem edited_move {operationId : String} {next : PackageInstallReleaseOperation}
    (stored : hub.packageOperations[operationId]? = some operation)
    (step : OperationStep operation next) :
    Move (packageShelf hub)
      (packageShelf { hub with packageOperations := hub.packageOperations.insert operationId next }) :=
  .edited operationId operation next stored step

theorem settle_moves (operationId : String) (edit : HubResult (LedgerEdit PackageInstallReleaseOperation))
    (steps : ∀ next, edit = .ok (.rewritten next) →
      ∃ operation, hub.packageOperations[operationId]? = some operation ∧ OperationStep operation next) :
    Relation.ReflTransGen Move (packageShelf hub) (packageShelf (hub.settlePackage operationId edit).2) := by
  rcases settle_cases operationId edit with same | ⟨next, rewritten, changed⟩
  · rw [same]
  · obtain ⟨operation, stored, step⟩ := steps next rewritten
    rw [changed]
    exact .single (edited_move stored step)

theorem preview_moves (packages : PackageHub hub) (plan : PackageInstallReleasePreviewPlan) :
    Relation.ReflTransGen Move (packageShelf hub)
      (packageShelf (hub.previewPackageInstallRelease plan).2) := by
  unfold FleetHub.previewPackageInstallRelease
  rcases settle_cases plan.operationId (hub.packagePreviewEdit plan) with same | ⟨next, rewritten, changed⟩
  · rw [same]
  · rw [changed]
    obtain ⟨_, ⟨_, _, _, ⟨⟩⟩ | ⟨_, _, _, _, ⟨⟩⟩ | ⟨preflights, checks, ⟨⟩⟩⟩ :=
      (previewEdit_ok hub plan _).mp rewritten
    have named := requestedPreflights_named packages.keyed packageTargetTexts _
      (fun _ record current judged => by cases judged; exact ⟨rfl, rfl⟩) _ preflights checks.frozen
    have ledger := proposed_ledger checks.bounded named checks.admitted
    exact .single (.created plan.operationId _ checks.unused checks.unarchived ⟨rfl, ledger⟩)

theorem expire_moves (nowMs : Int) (archives : BTreeMap String PackageInstallReleaseArchive)
    (rest : List (String × PackageInstallReleaseOperation)) (expired : Nat)
    (stored : BTreeMap String PackageInstallReleaseOperation)
    (remaining : ∀ entry ∈ rest, stored[entry.1]? = some entry.2)
    (distinct : (rest.map Prod.fst).Nodup) :
    Relation.ReflTransGen Move ⟨stored, archives⟩
      ⟨(FleetHub.expireClaimsLoop nowMs expired stored rest).2, archives⟩ := by
  induction rest generalizing expired stored with
  | nil => exact .refl
  | cons entry rest ih =>
    obtain ⟨operationId, operation⟩ := entry
    simp only [List.map_cons, List.nodup_cons] at distinct
    have known := remaining (operationId, operation) List.mem_cons_self
    have first : Move ⟨stored, archives⟩
        ⟨stored.insert operationId (operation.claimsExpired nowMs), archives⟩ :=
      .edited operationId operation _ known (.expired nowMs)
    unfold FleetHub.expireClaimsLoop
    simp only
    split
    · exact .single first
    · refine .head first (ih _ _ (fun later member => ?_) distinct.2)
      have other : later.1 ≠ operationId := fun same =>
        distinct.1 (same ▸ List.mem_map_of_mem member)
      rw [BTreeMap.lookup_insert_of_ne _ _ other]
      exact remaining later (List.mem_cons_of_mem _ member)

theorem archive_moves (request : PackageOperationArchiveRequest) (nowMs : Int) :
    Relation.ReflTransGen Move (packageShelf hub)
      (packageShelf (hub.archivePackageOperation request nowMs).2) := by
  unfold FleetHub.archivePackageOperation
  split
  · exact .refl
  · exact .refl
  · rename_i archive rewritten
    obtain ⟨⟨valid, _⟩, ⟨_, _, _, ⟨⟩⟩ | ⟨operation, checks, ⟨⟩⟩⟩ :=
      (archiveEdit_ok hub request nowMs _).mp rewritten
    simp only [Valid, violations, violationIf_nil, not_or, not_not] at valid
    exact .single (.retired request.operationId operation _ checks.stored
      ⟨⟨nowMs, rfl⟩, checks.terminal, checks.admitted, checks.digest ▸ valid.2.2, valid.2.1⟩)

theorem package_moves (packages : PackageHub hub) (call : PackageCall) :
    Relation.ReflTransGen Move (packageShelf hub) (packageShelf (hub.handlePackage call).2) := by
  cases call with
  | preview plan => exact preview_moves packages plan
  | confirm operationId previewId nowMs =>
    refine settle_moves operationId _ fun next rewritten => ?_
    obtain ⟨operation, checks, rfl⟩ := (confirmEdit_rewritten hub _ _ _ _).mp rewritten
    exact ⟨operation, checks.stored, checks.step⟩
  | prepare operationId deviceId ownerActionRequestId nowMs =>
    refine settle_moves operationId _ fun next rewritten => ?_
    obtain ⟨operation, target, checks, rfl⟩ := (prepareEdit_rewritten hub _ _ _ _ _).mp rewritten
    exact ⟨operation, checks.stored, checks.step ownerActionRequestId⟩
  | offer claim nowMs =>
    refine settle_moves claim.invocation.operationId _ fun next rewritten => ?_
    obtain ⟨operation, target, checks, ⟨⟩⟩ := (offerEdit_ok hub _ _ _).mp rewritten
    exact ⟨operation, checks.stored, checks.step (packages.ledger checks.stored)⟩
  | expire nowMs =>
    refine expire_moves nowMs hub.packageOperationArchives _ 0 hub.packageOperations ?_
      (BTreeMap.toList_keys_nodup _)
    exact fun entry member => Std.ExtTreeMap.mem_toList_iff_getElem?_eq_some.mp member
  | acknowledgement acknowledgement nowMs =>
    refine settle_moves acknowledgement.operationId _ fun next rewritten => ?_
    obtain ⟨operation, target, invocation, checks, rfl⟩ :=
      (acknowledgementEdit_rewritten hub _ _ _).mp rewritten
    exact ⟨operation, checks.stored, checks.step⟩
  | receipt receipt nowMs =>
    refine settle_moves receipt.operationId _ fun next rewritten => ?_
    obtain ⟨operation, target, invocation, checks, rfl⟩ := (receiptEdit_rewritten hub _ _ _).mp rewritten
    exact ⟨operation, checks.stored, checks.step⟩
  | progress progress nowMs =>
    refine settle_moves progress.operationId _ fun next rewritten => ?_
    obtain ⟨operation, target, invocation, checks, ⟨_, ⟨⟩⟩ | ⟨advance, ⟨⟩⟩⟩ :=
      (progressEdit_ok hub _ _ _).mp rewritten
    exact ⟨operation, checks.stored, checks.step (packages.ledger checks.stored) advance⟩
  | archive request nowMs => exact archive_moves request nowMs

theorem archive_retained {operationId : String} {archive : PackageInstallReleaseArchive}
    (stored : Stored operationId operation) (change : Archives operationId operation archive) :
    Retained operationId archive := by
  obtain ⟨nowMs, rfl⟩ := change.record
  exact ⟨stored.1, stored, change.terminal, change.valid, rfl, change.prefixed, change.portable⟩

theorem moves_keep {before after : PackageShelf} (holds : before.Holds Stored Retained)
    (apart : before.Apart) (path : Relation.ReflTransGen Move before after) :
    after.Holds Stored Retained ∧ after.Apart ∧
      Retention.Keeps LaterOperation (·.operation) before after := by
  refine Retention.path_keeps LaterOperation.refl (fun _ _ _ before after => before.trans after)
    (fun _ _ stored => stored) ?_ (fun _ _ _ => archive_retained) ?_ holds apart path
  · intro operationId operation next stored step
    refine ⟨⟨?_, step.ledger stored.2⟩, step.later stored.2⟩
    rw [step.frozen]
    exact stored.1
  · intro operationId operation archive change
    obtain ⟨nowMs, rfl⟩ := change.record
    exact LaterOperation.refl operation

end Moves

section Runs

variable [HubEnvironment]

theorem call_moves (packages : PackageHub hub) (call : HubCall) :
    Relation.ReflTransGen Move (packageShelf hub) (packageShelf (hub.handle call).1) := by
  by_cases own : ∃ package, call = .package package
  · obtain ⟨package, rfl⟩ := own
    rw [FleetHub.handle_package]
    exact package_moves packages package
  · obtain ⟨operations, archives⟩ := (hub.handle_leaves_others call).packages
      fun package same => own ⟨package, same⟩
    rw [packageShelf, packageShelf, operations, archives]

theorem call_keeps_packages (packages : PackageHub hub) (call : HubCall) :
    PackageHub (hub.handle call).1 := by
  obtain ⟨holds, apart, _⟩ := moves_keep packages.holds packages.apart (call_moves packages call)
  exact ⟨call_keyed packages.keyed call, holds, apart⟩

theorem run_packages (policy : AssertedPolicy) (calls : List HubCall) :
    PackageHub (fleetHubMachine.run (.new policy) calls) :=
  fleetHubMachine.run_invariant (fun _ _ => True) PackageHub
    (fun _ call _ packages => call_keeps_packages packages call) _ calls
    (fleetHubMachine.admits_true _ _) (packageHub_new policy)

theorem run_keeps (packages : PackageHub hub) (calls : List HubCall) :
    Retention.Keeps LaterOperation (·.operation) (packageShelf hub)
      (packageShelf (fleetHubMachine.run hub calls)) := by
  refine fleetHubMachine.run_relation (fun _ _ => True) PackageHub
    (fun before after => Retention.Keeps LaterOperation (·.operation) (packageShelf before) (packageShelf after))
    (fun _ call _ inv => call_keeps_packages inv call)
    (fun state => Retention.Keeps.refl LaterOperation.refl _)
    (fun _ _ _ => Retention.Keeps.trans fun _ _ _ before after => before.trans after)
    (fun state call _ inv => (moves_keep inv.holds inv.apart (call_moves inv call)).2.2) hub calls
    (fleetHubMachine.admits_true _ _) packages

end Runs

end RustyFleet.PackageSafety

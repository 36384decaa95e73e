import RustyFleet.Safety.PackageHistory
import RustyFleet.Safety.PackageAtomicity

namespace RustyFleet.PackageSafety

variable {hub : FleetHub}

/-- The identifiers a call's accepted owner claim consumed. -/
def consumedBy (_ : FleetHub) (call : HubCall) (answer : HubAnswer) :
    List ConsumedPackageUpdaterClaimIdentity :=
  match call, answer with
  | .package (.offer claim _), .package (.operation (.ok _)) => [⟨claim.claimId, claim.requestId⟩]
  | _, _ => []

def distinctIds (earlier later : ConsumedPackageUpdaterClaimIdentity) : Prop :=
  earlier.claimId ≠ later.claimId ∧ earlier.requestId ≠ later.requestId

/-- An offer that passes the active replay check reuses no identifier of an archived operation either. -/
def FreshAcrossArchive (hub : FleetHub) : HubCall → Prop
  | .package (.offer claim nowMs) => ∀ operation target, OfferChecks hub claim nowMs operation target →
    ∀ (operationId : String) (archive : PackageInstallReleaseArchive),
      hub.packageOperationArchives[operationId]? = some archive →
        ∀ spent ∈ archive.operation.targets, ∀ identity ∈ spent.consumedOwnerClaimIdentities,
          distinctIds identity ⟨claim.claimId, claim.requestId⟩
  | _ => True

def Spent [OperationDigest] (hub : FleetHub) (identity : ConsumedPackageUpdaterClaimIdentity) : Prop :=
  ∃ operationId operation, hub.packageOperation operationId = .ok operation ∧
    ∃ target ∈ operation.targets, identity ∈ target.consumedOwnerClaimIdentities

structure ReplayLedger [OperationDigest] (hub : FleetHub)
    (accepted : List ConsumedPackageUpdaterClaimIdentity) : Prop where
  packages : PackageHub hub
  spent : ∀ identity ∈ accepted, Spent hub identity
  distinct : accepted.Pairwise distinctIds

theorem offer_ok_cases (claim : PackageUpdaterClaim) (nowMs : Int)
    (result : PackageInstallReleaseOperation)
    (ok : (hub.offerPackageUpdaterClaim claim nowMs).1 = .ok result) :
    ∃ operation target, OfferChecks hub claim nowMs operation target ∧
      (hub.offerPackageUpdaterClaim claim nowMs).2 =
        { hub with
          packageOperations := hub.packageOperations.insert claim.invocation.operationId
            (operation.rewriteTarget claim.invocation.deviceId (·.offered claim nowMs)) } := by
  unfold FleetHub.offerPackageUpdaterClaim at ok ⊢
  cases decided : hub.packageOfferEdit claim nowMs with
  | error fault =>
    rw [decided] at ok
    cases ok
  | ok edit =>
    obtain ⟨operation, target, checks, rfl⟩ := (offerEdit_ok hub claim nowMs edit).mp decided
    exact ⟨operation, target, checks, rfl⟩

section Calls

variable [OperationDigest]

theorem offer_fresh {claim : PackageUpdaterClaim} {nowMs : Int}
    {operation : PackageInstallReleaseOperation} {target : PackageInstallTargetLedger}
    (checks : OfferChecks hub claim nowMs operation target)
    (unarchived : FreshAcrossArchive hub (.package (.offer claim nowMs)))
    (identity : ConsumedPackageUpdaterClaimIdentity) (spent : Spent hub identity) :
    distinctIds identity ⟨claim.claimId, claim.requestId⟩ := by
  obtain ⟨operationId, kept, known, holder, member, consumed⟩ := spent
  rcases (packageOperation_ok hub operationId kept).mp known with active | ⟨_, archive, archived, rfl⟩
  · exact replays_false claim checks.fresh operationId kept active holder member identity consumed
  · exact unarchived operation target checks operationId archive archived holder member identity consumed

theorem offer_spends {claim : PackageUpdaterClaim} {nowMs : Int}
    {operation : PackageInstallReleaseOperation} {target : PackageInstallTargetLedger}
    (found : operation.findTarget claim.invocation.deviceId = some target) (next : FleetHub)
    (stored : next.packageOperations = hub.packageOperations.insert claim.invocation.operationId
      (operation.rewriteTarget claim.invocation.deviceId (·.offered claim nowMs))) :
    Spent next ⟨claim.claimId, claim.requestId⟩ := by
  refine ⟨claim.invocation.operationId,
    operation.rewriteTarget claim.invocation.deviceId (·.offered claim nowMs),
    (packageOperation_ok _ _ _).mpr (.inl ?_), target.offered claim nowMs,
    Support.modified_mem _ (·.offered claim nowMs) _ target found, ?_⟩
  · rw [stored]
    exact BTreeMap.lookup_insert_self _ _ _
  · exact List.mem_append_right _ (List.mem_singleton_self _)

end Calls

section Runs

variable [HubEnvironment]

theorem spent_later (packages : PackageHub hub) (call : HubCall)
    (identity : ConsumedPackageUpdaterClaimIdentity) (spent : Spent hub identity) :
    Spent (hub.handle call).1 identity := by
  obtain ⟨operationId, operation, known, target, member, consumed⟩ := spent
  obtain ⟨next, readable, later⟩ := packageOperation_later packages [call] known
  obtain ⟨after, also, change⟩ := Support.forall₂_left later.targets target member
  exact ⟨operationId, next, readable, after, also, change.consumed identity consumed⟩

theorem call_keeps_replayLedger {accepted : List ConsumedPackageUpdaterClaimIdentity}
    (ledger : ReplayLedger hub accepted) (call : HubCall) (fresh : FreshAcrossArchive hub call) :
    ReplayLedger (hub.handle call).1 (accepted ++ consumedBy hub call (hub.handle call).2) := by
  have packages := call_keeps_packages ledger.packages call
  have spent : ∀ identity ∈ accepted, Spent (hub.handle call).1 identity :=
    fun identity member => spent_later ledger.packages call identity (ledger.spent identity member)
  unfold consumedBy
  split
  · rename_i claim nowMs result answered
    have ok : (hub.offerPackageUpdaterClaim claim nowMs).1 = .ok result :=
      PackageAnswer.operation.inj (HubAnswer.package.inj answered)
    obtain ⟨operation, target, checks, changed⟩ := offer_ok_cases claim nowMs result ok
    have own : Spent (hub.handle (.package (.offer claim nowMs))).1 ⟨claim.claimId, claim.requestId⟩ :=
      offer_spends checks.found _ (congrArg FleetHub.packageOperations changed)
    refine ⟨packages, fun identity member => ?_, Support.pairwise_snoc ledger.distinct
      fun identity member => offer_fresh checks fresh identity (ledger.spent identity member)⟩
    rcases List.mem_append.mp member with earlier | single
    · exact spent identity earlier
    · rw [List.mem_singleton.mp single]
      exact own
  · rw [List.append_nil]
    exact ⟨packages, spent, ledger.distinct⟩

/-- No claim or request identifier is accepted twice while no offer reuses an archived one. -/
theorem claim_ids_one_use (policy : AssertedPolicy) (calls : List HubCall)
    (fresh : fleetHubMachine.Admits FreshAcrossArchive (.new policy) calls) :
    (fleetHubMachine.history consumedBy (.new policy) calls).Pairwise fun earlier later =>
      earlier.claimId ≠ later.claimId ∧ earlier.requestId ≠ later.requestId := by
  have start : ReplayLedger (.new policy) [] :=
    ⟨packageHub_new policy, (fun _ member => nomatch member), List.Pairwise.nil⟩
  have carried := fleetHubMachine.run_history consumedBy FreshAcrossArchive
    (fun hub accepted => ReplayLedger hub accepted)
    (fun _ call _ allowed ledger => call_keeps_replayLedger ledger call allowed)
    (.new policy) calls [] fresh start
  rw [List.nil_append] at carried
  exact carried.distinct

end Runs

section Samples

def sampleArchive (operationId : String) : HubCall :=
  .package (.archive ⟨packageOperationArchiveRequestSchema, operationId, sampleDigest⟩ 1005)

def archivedClaimCalls : List HubCall :=
  previewedCalls ["d1"] 1 ++
    [confirmCall "op-1", samplePrepare "op-1" "d1",
      .package (.offer (sampleClaim "op-1" "d1" "claim-1" "request-1") 1003),
      .package (.acknowledgement (sampleAcknowledgement "op-1" "d1" false) 1004),
      sampleArchive "op-1",
      .package (.preview (readyPlan "op-2" ["d1"] 1)),
      confirmCall "op-2", samplePrepare "op-2" "d1"]

def secondOffer (claimId requestId : String) : HubCall :=
  .package (.offer (sampleClaim "op-2" "d1" claimId requestId) 1003)

theorem freshAcrossArchive_of_clear (claim : PackageUpdaterClaim) (nowMs : Int)
    (clear : BTreeMap.anyEntry hub.packageOperationArchives (fun _ archive =>
      archive.operation.targets.any fun target => target.consumedOwnerClaimIdentities.any fun identity =>
        identity.claimId == claim.claimId || identity.requestId == claim.requestId) = false) :
    FreshAcrossArchive hub (.package (.offer claim nowMs)) := by
  intro operation target checks operationId archive archived spent member identity consumed
  have own := (BTreeMap.anyEntry_false_iff _ _).mp clear operationId archive archived
  simp only [List.any_eq_false, Bool.or_eq_true, beq_iff_eq, not_or, List.any_eq_true, not_exists,
    not_and] at own
  exact own spent member identity consumed

theorem fresh_claims_one_use :
    ((@fleetHubMachine sampleEnvironment).history consumedBy (.new samplePolicy)
      (archivedClaimCalls ++ [secondOffer "claim-2" "request-2"])).Pairwise fun earlier later =>
        earlier.claimId ≠ later.claimId ∧ earlier.requestId ≠ later.requestId := by
  refine @claim_ids_one_use sampleEnvironment samplePolicy
    (archivedClaimCalls ++ [secondOffer "claim-2" "request-2"])
    ⟨trivial, trivial, trivial, trivial, freshAcrossArchive_of_clear _ _ ?_, trivial, trivial, trivial,
      trivial, trivial, freshAcrossArchive_of_clear _ _ ?_, trivial⟩
  · decide +kernel
  · decide +kernel

/-- Once its operation is archived, a claim can be replayed. -/
theorem archived_claim_replayed :
    ∃ (_ : HubEnvironment) (policy : AssertedPolicy) (calls : List HubCall),
      ¬ (fleetHubMachine.history consumedBy (.new policy) calls).Pairwise fun earlier later =>
        earlier.claimId ≠ later.claimId ∧ earlier.requestId ≠ later.requestId := by
  refine ⟨sampleEnvironment, samplePolicy, archivedClaimCalls ++ [secondOffer "claim-1" "request-1"], ?_⟩
  decide +kernel

end Samples

end RustyFleet.PackageSafety

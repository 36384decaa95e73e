import RustyFleet.Safety.ProgressAdmission

namespace RustyFleet.PackageSafety

variable {hub : FleetHub} {operation : PackageInstallReleaseOperation} {target : PackageInstallTargetLedger}

/-- The selector and the admitter agree on whether the operation has a delivery slot to give away. -/
def SlotCountsAgree (operation : PackageInstallReleaseOperation) (nowMs : Int) : Prop :=
  operation.occupiedForSelection nowMs < operation.maxParallelism ↔
    operation.activeClaims nowMs < operation.maxParallelism

/-- No stored target consumed the claim's identifier or its request's. -/
def FreshClaim (hub : FleetHub) (claim : PackageUpdaterClaim) : Prop :=
  ∀ (operationId : String) (operation : PackageInstallReleaseOperation),
    hub.packageOperations[operationId]? = some operation →
      ∀ target ∈ operation.targets, ∀ identity ∈ target.consumedOwnerClaimIdentities,
        identity.claimId ≠ claim.claimId ∧ identity.requestId ≠ claim.requestId

/-- The target the claim names waits for exactly this claim's invocation. -/
structure AwaitsClaim (hub : FleetHub) (claim : PackageUpdaterClaim)
    (operation : PackageInstallReleaseOperation) (target : PackageInstallTargetLedger) : Prop where
  stored : hub.packageOperations[claim.invocation.operationId]? = some operation
  found : operation.findTarget claim.invocation.deviceId = some target
  ready : target.dispatchReady
  bound : target.invocation = some claim.invocation
  free : target.ownerClaim = none
  room : target.consumedOwnerClaimIdentities.length < maxConsumedPackageOwnerClaims

def ClaimsReleased (operation : PackageInstallReleaseOperation) (nowMs : Int) : Prop :=
  ∀ target ∈ operation.targets, target.dispatchReady →
    ∀ claim, target.ownerClaim = some claim → nowMs < claim.expiresAtMs

theorem freshClaim_iff (claim : PackageUpdaterClaim) :
    FreshClaim hub claim ↔ hub.replaysConsumedClaim claim = false := by
  constructor
  · intro fresh
    rw [FleetHub.replaysConsumedClaim, BTreeMap.anyEntry_false_iff]
    intro operationId operation stored
    simp only [List.any_eq_false, Bool.or_eq_true, beq_iff_eq, not_or, List.any_eq_true, not_exists, not_and]
    exact fresh operationId operation stored
  · intro clear operationId operation stored target member
    exact replays_false claim clear operationId operation stored target member

theorem offerChecks_iff (claim : PackageUpdaterClaim) (nowMs : Int) (valid : Valid claim)
    (fresh : FreshClaim hub claim) :
    OfferChecks hub claim nowMs operation target ↔
      AwaitsClaim hub claim operation target ∧ claim.claimedAtMs ≤ nowMs ∧ nowMs < claim.expiresAtMs ∧
        operation.activeClaims nowMs < operation.maxParallelism := by
  constructor
  · intro checks
    exact ⟨⟨checks.stored, checks.found, checks.ready, checks.bound, checks.free, checks.room⟩, checks.begun,
      checks.alive, checks.slot⟩
  · rintro ⟨awaits, begun, alive, slot⟩
    exact ⟨valid, begun, alive, (freshClaim_iff claim).mp fresh, awaits.stored, slot, awaits.found,
      awaits.ready, awaits.bound, awaits.free, awaits.room⟩

section Expiry

theorem claimExpired_released (nowMs : Int) (ready : (target.claimExpired nowMs).dispatchReady)
    (claim : PackageUpdaterClaim) (held : (target.claimExpired nowMs).ownerClaim = some claim) :
    nowMs < claim.expiresAtMs := by
  cases expired : target.expiredClaim nowMs with
  | some prior =>
    simp only [PackageInstallTargetLedger.claimExpired, expired, PackageInstallTargetLedger.claimReleased]
      at held
    split at held <;> cases held
  | none =>
    simp only [PackageInstallTargetLedger.claimExpired, expired] at ready held
    have waiting : target.lifecycle = .accepted ∧ target.stage = .dispatchReady := ready
    rw [PackageInstallTargetLedger.expiredClaim, if_pos waiting, held] at expired
    have alive : ¬ claim.expiresAtMs ≤ nowMs := by simpa [Option.filter] using expired
    omega

theorem claimsExpired_released (operation : PackageInstallReleaseOperation) (nowMs : Int) :
    ClaimsReleased (operation.claimsExpired nowMs) nowMs := by
  intro target member ready claim held
  obtain ⟨origin, _, rfl⟩ := List.mem_map.mp member
  exact claimExpired_released nowMs ready claim held

theorem expire_released (nowMs : Int) (rest : List (String × PackageInstallReleaseOperation))
    (expired count : Nat) (stored : BTreeMap String PackageInstallReleaseOperation)
    (ok : (FleetHub.expireClaimsLoop nowMs expired stored rest).1 = .ok count)
    (visited : ∀ (key : String) (operation : PackageInstallReleaseOperation),
      stored[key]? = some operation → key ∈ rest.map Prod.fst ∨ ClaimsReleased operation nowMs) :
    ∀ (key : String) (operation : PackageInstallReleaseOperation),
      (FleetHub.expireClaimsLoop nowMs expired stored rest).2[key]? = some operation →
        ClaimsReleased operation nowMs := by
  induction rest generalizing expired stored with
  | nil =>
    intro key operation found
    rcases visited key operation found with member | released
    · cases member
    · exact released
  | cons entry rest ih =>
    obtain ⟨operationId, operation⟩ := entry
    unfold FleetHub.expireClaimsLoop at ok ⊢
    simp only at ok ⊢
    cases admitted : validatePackageOperation (operation.claimsExpired nowMs) with
    | error fault =>
      rw [admitted] at ok
      cases ok
    | ok done =>
      rw [admitted] at ok
      refine ih _ _ ok (fun key kept found => ?_)
      by_cases same : key = operationId
      · subst same
        rw [BTreeMap.lookup_insert_self] at found
        cases found
        exact .inr (claimsExpired_released operation nowMs)
      · rw [BTreeMap.lookup_insert_of_ne _ _ same] at found
        rcases visited key kept found with member | released
        · refine .inl ((List.mem_cons.mp member).resolve_left same)
        · exact .inr released

variable [HubEnvironment]

theorem expired_hub (sound : ValidPackages hub) (nowMs : Int) :
    ValidPackages (hub.expirePackageUpdaterClaims nowMs).2 ∧
      ∀ (key : String) (operation : PackageInstallReleaseOperation),
        (hub.expirePackageUpdaterClaims nowMs).2.packageOperations[key]? = some operation →
          ClaimsReleased operation nowMs := by
  have later := call_stays_valid sound (.package (.expire nowMs)) trivial
  rw [FleetHub.handle_package] at later
  refine ⟨later, ?_⟩
  obtain ⟨⟨count, ok⟩, _⟩ :=
    expire_valid nowMs hub.packageOperations.toList 0 hub.packageOperations sound.valid sound.waiting
  refine expire_released nowMs hub.packageOperations.toList 0 count hub.packageOperations ok
    (fun key operation found => .inl ?_)
  exact List.mem_map.mpr ⟨(key, operation), Std.ExtTreeMap.mem_toList_iff_getElem?_eq_some.mpr found, rfl⟩

end Expiry

section Selection

theorem selection_counts_slots (ledger : OperationLedger operation) (nowMs : Int)
    (released : ClaimsReleased operation nowMs) :
    operation.occupiedForSelection nowMs = operation.occupiedDeliverySlots := by
  unfold PackageInstallReleaseOperation.occupiedForSelection PackageInstallReleaseOperation.occupiedDeliverySlots
  refine List.countP_congr fun target member => ?_
  simp only [PackageInstallTargetLedger.occupiesSlot, Bool.or_eq_true, Bool.and_eq_true, beq_iff_eq,
    Option.any_eq_true, decide_eq_true_eq]
  refine or_congr_right (and_congr_right fun accepted => ?_)
  rw [Option.isSome_iff_exists]
  refine exists_congr fun claim => ⟨fun held => held.1, fun held => ⟨held, ?_⟩⟩
  have own := ledger.targets target member
  have eligible := own.eligible_of_lifecycle (by rw [accepted]; decide)
  have phase := own.phase eligible
  simp only [PhaseFacts, accepted] at phase
  rcases phase.1 with ⟨_, _, unclaimed⟩ | ⟨ready, _⟩
  · rw [unclaimed] at held
    cases held
  · exact released target member ⟨accepted, ready⟩ claim held

theorem offerable_some {nowMs : Int} {invocation : PackageUpdaterInvocation}
    (offered : PackageInstallReleaseOperation.offerableInvocation nowMs target = some invocation) :
    target.invocation = some invocation ∧ target.dispatchReady ∧
      (∀ claim, target.ownerClaim = some claim → claim.expiresAtMs ≤ nowMs) ∧
      target.consumedOwnerClaimIdentities.length < maxConsumedPackageOwnerClaims := by
  obtain ⟨bound, conditions⟩ := Option.filter_eq_some_iff.mp offered
  simp only [Bool.and_eq_true, beq_iff_eq, decide_eq_true_eq, Option.all_eq_true] at conditions
  obtain ⟨⟨⟨⟨accepted, stage⟩, expired⟩, room⟩, _⟩ := conditions
  exact ⟨bound, ⟨accepted, stage⟩, expired, room⟩

theorem select_some {nowMs : Int} {claim : PackageUpdaterClaim}
    (packages : ∀ (key : String) (operation : PackageInstallReleaseOperation),
      hub.packageOperations[key]? = some operation →
        operation.operationId = key ∧ OperationLedger operation ∧ ClaimsReleased operation nowMs)
    (selected : hub.selectPackageUpdaterOffer nowMs = some claim.invocation) :
    ∃ operation target, AwaitsClaim hub claim operation target ∧
      operation.occupiedForSelection nowMs < operation.maxParallelism := by
  obtain ⟨operation, member, offered⟩ := List.exists_of_findSome?_eq_some selected
  obtain ⟨key, stored⟩ := (BTreeMap.mem_storedValues_iff _ _).mp member
  obtain ⟨named, ledger, released⟩ := packages key operation stored
  unfold PackageInstallReleaseOperation.selectOffer at offered
  split at offered
  · cases offered
  · rename_i slot
    obtain ⟨target, waiting, chosen⟩ := List.exists_of_findSome?_eq_some offered
    obtain ⟨bound, ready, expired, room⟩ := offerable_some chosen
    have frozen := (ledger.targets target waiting).invocation claim.invocation bound
    have operationId : claim.invocation.operationId = key := by
      rw [frozen]
      exact named
    have deviceId : claim.invocation.deviceId = target.deviceId := by
      rw [frozen]
      rfl
    have free : target.ownerClaim = none := by
      cases held : target.ownerClaim with
      | none => rfl
      | some prior =>
        have alive := released target waiting ready prior held
        have ended := expired prior held
        omega
    refine ⟨operation, target, ⟨?_, ?_, ready, bound, free, room⟩, by omega⟩
    · rw [operationId]
      exact stored
    · rw [deviceId]
      simpa [PackageInstallReleaseOperation.findTarget, beq_eq_decide] using
        Support.find?_key_eq (·.deviceId) operation.targets target ledger.distinct waiting

theorem select_none {nowMs : Int} {claim : PackageUpdaterClaim} (valid : Valid claim)
    (alive : nowMs < claim.expiresAtMs) (selected : hub.selectPackageUpdaterOffer nowMs = none)
    (awaits : AwaitsClaim hub claim operation target) :
    operation.maxParallelism ≤ operation.occupiedForSelection nowMs := by
  have member : operation ∈ BTreeMap.storedValues hub.packageOperations :=
    (BTreeMap.mem_storedValues_iff _ _).mpr ⟨_, awaits.stored⟩
  have none := List.findSome?_eq_none_iff.mp selected operation member
  by_contra room
  rw [PackageInstallReleaseOperation.selectOffer, if_neg (by omega)] at none
  have unoffered := List.findSome?_eq_none_iff.mp none target (findTarget_some awaits.found).1
  have within := (claim_facts valid).2.2.2.1
  have later : nowMs < claim.invocation.expiresAtMs := by omega
  have accepted : target.lifecycle = .accepted := awaits.ready.1
  have stage : target.stage = .dispatchReady := awaits.ready.2
  rw [PackageInstallReleaseOperation.offerableInvocation, awaits.bound, Option.filter_some, if_pos]
    at unoffered
  · cases unoffered
  · simp [accepted, stage, awaits.free, awaits.room, later]

end Selection

section Admission

theorem offerEdit_onlyRefuses (claim : PackageUpdaterClaim) (nowMs : Int) :
    OnlyRefuses (hub.packageOfferEdit claim nowMs) := by
  unfold FleetHub.packageOfferEdit
  refine onlyRefuses_bind (onlyRefuses_rejectIf _ _ _) fun _ => ?_
  refine onlyRefuses_bind (onlyRefuses_rejectIf _ _ _) fun _ => ?_
  refine onlyRefuses_bind (onlyRefuses_orRefuse _ _ _) fun operation => ?_
  refine onlyRefuses_bind (onlyRefuses_rejectIf _ _ _) fun _ => ?_
  refine onlyRefuses_bind (onlyRefuses_orRefuse _ _ _) fun target => ?_
  refine onlyRefuses_bind (onlyRefuses_rejectIf _ _ _) fun _ => ?_
  refine onlyRefuses_bind (onlyRefuses_rejectIf _ _ _) fun _ => ?_
  intro text panicked
  cases panicked

theorem offered_differs {claim : PackageUpdaterClaim} {nowMs : Int}
    (found : operation.findTarget claim.invocation.deviceId = some target)
    (free : target.ownerClaim = none) :
    operation.rewriteTarget claim.invocation.deviceId (·.offered claim nowMs) ≠ operation := by
  intro same
  have targets : Support.modifyFirst (·.deviceId == claim.invocation.deviceId) (·.offered claim nowMs)
      operation.targets = operation.targets := congrArg (·.targets) same
  have held := Support.countP_modifyFirst
    (fun target : PackageInstallTargetLedger => target.deviceId == claim.invocation.deviceId)
    (fun target => target.ownerClaim.isSome) (·.offered claim nowMs) operation.targets target found
  rw [targets] at held
  simp [free, PackageInstallTargetLedger.offered] at held

theorem offer_refused_iff (claim : PackageUpdaterClaim) (nowMs : Int) :
    (returnsErr (hub.offerPackageUpdaterClaim claim nowMs).1 = true ∧
        (hub.offerPackageUpdaterClaim claim nowMs).2 = hub) ↔
      ∀ operation target, ¬ OfferChecks hub claim nowMs operation target := by
  unfold FleetHub.offerPackageUpdaterClaim
  constructor
  · rintro ⟨_, unchanged⟩ operation target checks
    rw [(offerEdit_ok hub claim nowMs _).mpr ⟨operation, target, checks, rfl⟩] at unchanged
    have stored := BTreeMap.lookup_insert_self hub.packageOperations claim.invocation.operationId
      (operation.rewriteTarget claim.invocation.deviceId (·.offered claim nowMs))
    have same : (hub.packageOperations.insert claim.invocation.operationId
        (operation.rewriteTarget claim.invocation.deviceId (·.offered claim nowMs))) =
          hub.packageOperations := congrArg (·.packageOperations) unchanged
    rw [same, checks.stored] at stored
    exact offered_differs checks.found checks.free (Option.some.inj stored).symm
  · intro refused
    cases decided : hub.packageOfferEdit claim nowMs with
    | error fault =>
      cases fault with
      | hubError error => exact ⟨rfl, rfl⟩
      | panicked text => exact absurd decided (offerEdit_onlyRefuses claim nowMs text)
    | ok edit =>
      obtain ⟨operation, target, checks, _⟩ := (offerEdit_ok hub claim nowMs edit).mp decided
      exact absurd checks (refused operation target)

theorem offer_ok_iff [OperationDigest] (sound : ValidPackages hub) (claim : PackageUpdaterClaim)
    (nowMs : Int) :
    (∃ result, (hub.offerPackageUpdaterClaim claim nowMs).1 = .ok result) ↔
      ∃ operation target, OfferChecks hub claim nowMs operation target ∧ operation.createdAtMs ≤ nowMs ∧
        operation.occupiedDeliverySlots < operation.maxParallelism := by
  simp only [FleetHub.offerPackageUpdaterClaim, settle_ok_iff]
  constructor
  · rintro ⟨result, unchanged | ⟨rewritten, admitted⟩⟩
    · obtain ⟨_, _, _, ⟨⟩⟩ := (offerEdit_ok hub claim nowMs _).mp unchanged
    · obtain ⟨operation, target, checks, ⟨⟩⟩ := (offerEdit_ok hub claim nowMs _).mp rewritten
      exact ⟨operation, target, checks, (offered_valid_iff (sound.packages.ledger checks.stored) checks
        (sound.valid _ _ checks.stored)).mp admitted⟩
  · rintro ⟨operation, target, checks, room⟩
    exact ⟨_, .inr ⟨(offerEdit_ok hub claim nowMs _).mpr ⟨operation, target, checks, rfl⟩,
      (offered_valid_iff (sound.packages.ledger checks.stored) checks (sound.valid _ _ checks.stored)).mpr
        room⟩⟩

end Admission

section Runs

variable [HubEnvironment]

/-- After the expiry call selector and admitter agree on a claim exactly when their slot counts agree. -/
theorem offer_selection_exact (policy : AssertedPolicy) (calls : List HubCall) (nowMs : Int)
    (claim : PackageUpdaterClaim)
    (valid : ∀ (operationId : String) (operation : PackageInstallReleaseOperation),
      (fleetHubMachine.run (.new policy) calls).packageOperations[operationId]? = some operation →
        Valid operation)
    (proper : Valid claim)
    (fresh : FreshClaim
      ((fleetHubMachine.run (.new policy) calls).expirePackageUpdaterClaims nowMs).2 claim) :
    let hub := ((fleetHubMachine.run (.new policy) calls).expirePackageUpdaterClaims nowMs).2
    (hub.selectPackageUpdaterOffer nowMs = some claim.invocation → claim.claimedAtMs ≤ nowMs →
      nowMs < claim.expiresAtMs →
        ((∃ result, (hub.offerPackageUpdaterClaim claim nowMs).1 = .ok result) ↔
          ∀ operation : PackageInstallReleaseOperation,
            hub.packageOperations[claim.invocation.operationId]? = some operation →
              SlotCountsAgree operation nowMs ∧ operation.createdAtMs ≤ nowMs)) ∧
      (hub.selectPackageUpdaterOffer nowMs = none →
        ((returnsErr (hub.offerPackageUpdaterClaim claim nowMs).1 = true ∧
            (hub.offerPackageUpdaterClaim claim nowMs).2 = hub) ↔
          (claim.claimedAtMs ≤ nowMs → nowMs < claim.expiresAtMs →
            ∀ operation target, AwaitsClaim hub claim operation target →
              SlotCountsAgree operation nowMs))) := by
  intro hub
  obtain ⟨sound, released⟩ := expired_hub ⟨run_packages policy calls, valid⟩ nowMs
  refine ⟨fun selected begun alive => ?_, fun selected => ?_⟩
  · obtain ⟨operation, target, awaits, slot⟩ := select_some (fun key operation stored =>
      ⟨(sound.packages.holds.1 key operation stored).1, sound.packages.ledger stored,
        released key operation stored⟩) selected
    rw [offer_ok_iff sound]
    constructor
    · rintro ⟨accepting, holder, checks, created, _⟩ stored known
      cases checks.stored.symm.trans awaits.stored
      cases known.symm.trans awaits.stored
      exact ⟨⟨fun _ => checks.slot, fun _ => slot⟩, created⟩
    · intro agree
      obtain ⟨counts, created⟩ := agree operation awaits.stored
      refine ⟨operation, target, (offerChecks_iff claim nowMs proper fresh).mpr
        ⟨awaits, begun, alive, counts.mp slot⟩, created, ?_⟩
      rw [← selection_counts_slots (sound.packages.ledger awaits.stored) nowMs
        (released _ operation awaits.stored)]
      exact slot
  · rw [offer_refused_iff]
    constructor
    · intro refused begun alive operation target awaits
      have full := select_none proper alive selected awaits
      refine ⟨fun slot => by omega, fun active => absurd ?_ (refused operation target)⟩
      exact (offerChecks_iff claim nowMs proper fresh).mpr ⟨awaits, begun, alive, active⟩
    · intro agree operation target checks
      obtain ⟨awaits, begun, alive, active⟩ := (offerChecks_iff claim nowMs proper fresh).mp checks
      have full := select_none proper alive selected awaits
      have slot := (agree begun alive operation target awaits).mpr active
      omega

end Runs

section Samples

def preparedCalls : List HubCall :=
  previewedCalls ["d1"] 1 ++ [confirmCall "op-1", samplePrepare "op-1" "d1"]

def claimedCancellationCalls : List HubCall :=
  previewedCalls ["d1", "d2"] 1 ++
    [confirmCall "op-1", samplePrepare "op-1" "d1",
      .package (.offer (sampleClaim "op-1" "d1" "claim-1" "request-1") 1003),
      .package (.acknowledgement (sampleAcknowledgement "op-1" "d1" true) 1004),
      .package (.progress (sampleProgress "d1" .staged 1005) 1005),
      .package (.progress (sampleProgress "d1" .cancellationRequested 1006) 1006),
      samplePrepare "op-1" "d2"]

theorem prepared_offer_exact :
    let hub := (((@fleetHubMachine sampleEnvironment).run (.new samplePolicy)
      preparedCalls).expirePackageUpdaterClaims 1003).2
    (hub.selectPackageUpdaterOffer 1003 = some (sampleInvocation "op-1" "d1") → (1003 : Int) ≤ 1003 →
      (1003 : Int) < 2000 →
        ((∃ result, (hub.offerPackageUpdaterClaim (sampleClaim "op-1" "d1" "claim-1" "request-1") 1003).1 =
            .ok result) ↔
          ∀ operation : PackageInstallReleaseOperation, hub.packageOperations["op-1"]? = some operation →
            SlotCountsAgree operation 1003 ∧ operation.createdAtMs ≤ 1003)) ∧
      (hub.selectPackageUpdaterOffer 1003 = none →
        ((returnsErr (hub.offerPackageUpdaterClaim (sampleClaim "op-1" "d1" "claim-1" "request-1")
              1003).1 = true ∧
            (hub.offerPackageUpdaterClaim (sampleClaim "op-1" "d1" "claim-1" "request-1") 1003).2 = hub) ↔
          ((1003 : Int) ≤ 1003 → (1003 : Int) < 2000 → ∀ operation target,
            AwaitsClaim hub (sampleClaim "op-1" "d1" "claim-1" "request-1") operation target →
              SlotCountsAgree operation 1003))) := by
  refine @offer_selection_exact sampleEnvironment samplePolicy preparedCalls 1003
    (sampleClaim "op-1" "d1" "claim-1" "request-1") (stored_valid_of_clear ?_) (by decide)
    ((freshClaim_iff _).mpr ?_)
  · decide
  · decide

set_option maxRecDepth 30000 in
/-- The selector offers the second headset's invocation, and no claim for it is admitted. -/
theorem selected_offer_refused :
    ∃ (_ : HubEnvironment) (policy : AssertedPolicy) (calls : List HubCall) (nowMs : Int)
      (claim : PackageUpdaterClaim),
      (∀ (operationId : String) (operation : PackageInstallReleaseOperation),
        (fleetHubMachine.run (.new policy) calls).packageOperations[operationId]? = some operation →
          Valid operation) ∧
      let hub := ((fleetHubMachine.run (.new policy) calls).expirePackageUpdaterClaims nowMs).2
      Valid claim ∧ FreshClaim hub claim ∧ claim.claimedAtMs ≤ nowMs ∧ nowMs < claim.expiresAtMs ∧
        hub.selectPackageUpdaterOffer nowMs = some claim.invocation ∧
        returnsErr (hub.offerPackageUpdaterClaim claim nowMs).1 = true := by
  refine ⟨sampleEnvironment, samplePolicy, claimedCancellationCalls, 1008,
    sampleClaim "op-1" "d2" "claim-2" "request-2", stored_valid_of_clear (by decide),
    by decide, (freshClaim_iff _).mpr (by decide), by decide, by decide, ?_, ?_⟩
  · decide
  · decide

end Samples

end RustyFleet.PackageSafety

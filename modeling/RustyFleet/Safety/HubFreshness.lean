import RustyFleet.Safety.CheckInSteps
import RustyFleet.Safety.PackageAtomicity
import RustyFleet.Support.Selection

namespace RustyFleet.CheckIns

open ManifoldEnvironment FleetManifoldAdapter

/-- The Freshness conditions a device signed all give way to the one the ingress adds. -/
structure YieldsToIngress (signed : List StatusCondition) (ingress : StatusCondition) (nowMs : Int) :
    Prop where
  outranked : ∀ condition ∈ signed, condition.family = .freshness → condition.rank ≤ ingress.rank
  tied : ∀ condition,
    signed.find? (fun condition => condition.family = .freshness ∧ condition.rank = ingress.rank) =
      some condition → condition.projected nowMs = ingress.projected nowMs
  first : ∀ condition, signed.find? (·.family = .freshness) = some condition →
    condition.reason = ingress.reason

theorem find?_projected (signed : List StatusCondition) (ingress : StatusCondition) (nowMs : Int) :
    ((signed.map (·.projected nowMs)).filter (·.family = .freshness)).find?
        (·.rank = (ingress.projected nowMs).rank) =
      (signed.find? fun condition =>
        condition.family = .freshness ∧ condition.rank = ingress.rank).map (·.projected nowMs) := by
  rw [List.find?_filter, List.find?_map]
  congr 2
  funext condition
  simp

theorem newest_is_ingress_iff (signed : List StatusCondition) (ingress : StatusCondition) (nowMs : Int)
    (freshness : ingress.family = .freshness) :
    (newestConditions (signed ++ [ingress]) nowMs)[ConditionFamily.freshness]? =
        some (ingress.projected nowMs) ↔
      (∀ condition ∈ signed, condition.family = .freshness → condition.rank ≤ ingress.rank) ∧
      ∀ condition,
        signed.find? (fun condition => condition.family = .freshness ∧ condition.rank = ingress.rank) =
          some condition → condition.projected nowMs = ingress.projected nowMs := by
  have own : [ingress.projected nowMs].filter (·.family = .freshness) = [ingress.projected nowMs] := by
    simp [freshness]
  rw [newestConditions_lookup, Support.firstGreatest, List.map_append, List.map_singleton, List.filter_append, own,
    Support.argmax_concat_self_iff, find?_projected]
  refine and_congr ?_ ?_
  · simp only [List.mem_filter, List.mem_map, decide_eq_true_eq, and_imp, forall_exists_index,
      forall_apply_eq_imp_iff₂, StatusCondition.projected_family, StatusCondition.projected_rank]
  · constructor
    · intro tied condition found
      exact tied _ (by rw [found, Option.map_some])
    · intro tied projected found
      obtain ⟨condition, first, rfl⟩ := Option.map_eq_some_iff.mp found
      exact tied condition first

theorem route_is_ingress_iff (observation : DeviceObservation) (signed : List StatusCondition)
    (ingress : StatusCondition) (freshness : ProjectionFreshness) (reachable : freshness ≠ .offline)
    (family : ingress.family = .freshness) (conditions : observation.conditions = signed ++ [ingress]) :
    routeText observation freshness = ingress.reason ↔
      ∀ condition, signed.find? (·.family = .freshness) = some condition →
        condition.reason = ingress.reason := by
  have own : [ingress].find? (·.family = .freshness) = some ingress := by simp [family]
  rw [routeText, if_neg reachable, conditions, List.find?_append, own]
  cases signed.find? (·.family = .freshness) with
  | none => simp
  | some condition => simp

theorem accepted_is_stored [ObservationCodec] {hub candidate : FleetHub} {observation : DeviceObservation}
    {nowMs : Int} {resultRevision sourceRevision : Nat} {deviceId : String}
    (observed : hub.acceptObservation observation nowMs =
      (.ok (.accepted resultRevision deviceId sourceRevision), candidate)) :
    candidate.devices[observation.identity.deviceId]? = some (hub.acceptedRecord observation nowMs) := by
  rcases Lineage.acceptObservation_cases hub observation nowMs with
    ⟨_, _, _, _, _, rejected⟩ | ⟨_, _, admitted⟩
  · rw [rejected] at observed
    cases observed
  · rw [admitted] at observed
    by_cases fits : (hub.acceptedRecord observation nowMs).seenSourceEpochs.length ≤
        hub.policy.sourceEpochLimitPerDevice
    · rw [Lineage.admitObservation_fits hub observation nowMs fits] at observed
      cases observed
      exact BTreeMap.lookup_insert_self _ _ _
    · simp only [FleetHub.admitObservation, if_neg fits, panicWith] at observed
      cases observed

/-- A result of `accept` that admits the check-in. -/
def admits : HubResult CheckInReceipt → Bool
  | .ok receipt => receipt.accepted
  | .error _ => false

section Admitted

variable [FleetEnvironment]

theorem admitted_record {adapter : FleetManifoldAdapter} {hub : FleetHub} {signed : SignedFleetCheckIn}
    {nowMs : Int} (admitted : admits (adapter.accept hub signed nowMs).1 = true) :
    (adapter.accept hub signed nowMs).2.1.devices[signed.claims.observation.identity.deviceId]? =
      some (hub.acceptedRecord (adapter.acceptedObservation hub signed nowMs) nowMs) := by
  rcases accept_cases adapter hub signed nowMs with
    ⟨receipt, refused, ended | ended⟩ | ⟨fault, ended, _⟩ |
    ⟨receipt, checkIn, resultRevision, candidate, state, termuxProofs, accepted, ended, _, _, _, commits⟩
  · simp [ended, admits, refused] at admitted
  · simp [ended, admits, refused] at admitted
  · simp [ended, admits] at admitted
  · obtain ⟨deviceId, sourceRevision, observed⟩ := commits.observed
    rw [ended]
    exact accepted_is_stored observed

/-- The row right after an accepted check-in shows the ingress's own Freshness condition and route
exactly when every Freshness condition the device signed yields to it. -/
theorem hub_owns_freshness_exact (adapter : FleetManifoldAdapter) (hub : FleetHub)
    (signed : SignedFleetCheckIn) (acceptedMs rowMs : Int)
    (admitted : admits (adapter.accept hub signed acceptedMs).1 = true) :
    let after := (adapter.accept hub signed acceptedMs).2.1
    let ingress := adapter.ingressCondition hub signed acceptedMs
    ∃ projection,
      after.inspect signed.claims.observation.identity.deviceId rowMs = .ok projection ∧
      (projection.row.freshness ≠ .offline →
        ((projection.row.conditions[ConditionFamily.freshness]? = some (ingress.projected rowMs) ∧
            projection.row.route = ingress.reason) ↔
          YieldsToIngress signed.claims.observation.conditions ingress rowMs)) := by
  intro after ingress
  obtain ⟨projection, inspected, row⟩ := FleetHub.inspect_stored rowMs (admitted_record admitted)
  refine ⟨projection, inspected, ?_⟩
  rw [row]
  intro reachable
  have newest := newest_is_ingress_iff signed.claims.observation.conditions ingress rowMs rfl
  have route := route_is_ingress_iff (adapter.acceptedObservation hub signed acceptedMs)
      signed.claims.observation.conditions ingress _ reachable rfl rfl
  constructor
  · rintro ⟨condition, text⟩
    obtain ⟨outranked, tied⟩ := newest.mp condition
    exact ⟨outranked, tied, route.mp text⟩
  · intro yields
    exact ⟨newest.mpr ⟨yields.outranked, yields.tied⟩, route.mpr yields.first⟩

end Admitted

section Samples

def sampleHex : String := String.ofList (List.replicate 64 'a')

@[reducible] def sampleFleetEnvironment (issuedAtMs : Nat) : FleetEnvironment where
  toHubEnvironment := PackageSafety.sampleEnvironment
  isJsonObject _ := true
  encodedClaimsBytes _ := some 1024
  canonicalClaims claims := some claims.checkinId.toUTF8.toList
  initialRevision := 1
  hostSnapshotSchema := "host_snapshot"
  legacyHostSnapshotV1Schema := "legacy_host_snapshot.v1"
  legacyHostSnapshotV2Schema := "legacy_host_snapshot.v2"
  legacyHostSnapshotV3Schema := "legacy_host_snapshot.v3"
  emptyEnrollment := { authorityRevision := 1, credentials := [] }
  proposalFromValue value := some
    { identity := { peerId := value, keyFingerprint := "fingerprint.1", document := "" }
      status :=
        { peerId := value
          observedAtMs := issuedAtMs
          expiresAtMs := issuedAtMs + 60000
          capabilityIds := []
          document := "" }
      expectedAuthorityRevision := 1
      document := "" }
  reviewAndApplyPeerProposal review :=
    ({ acceptedState := some
        { review.currentState with
          authorityRevision := review.currentState.authorityRevision + 1
          peers := [{ identity := review.proposal.identity, document := "" }] }
       document := "" },
      { applied := true, document := "" })
  reviewAndApplyPeerEnrollment enrollment _ _ _ := (enrollment, "")
  isDottedId _ := true
  hexDecode value := some (List.replicate (value.length / 2) 0)
  verifyStrict _ _ signature := signature.length == 64
  capabilityExtensions _ := some
    { proofSchema := "rusty.quest.loopback_adb_proof.v1"
      state := "available"
      routeMode := "modern_tls"
      discoveryMode := "tls_nsd"
      listenerDiscovered := true
      shellUid := "2000"
      ownerEvidenceSha256 := sampleHex }
  hostFromSnapshot host := .ok host
  hostFromLegacyJson _ _ := .error "no legacy host"

def sampleCredential (deviceId : String) : ManifoldPeerCredential where
  keyId := "key.1"
  keyGeneration := 1
  peerId := deviceId
  status := .active
  validFromMs := 0
  expiresAtMs := 1000000
  publicKeyHex := sampleHex
  publicKeySha256 := "sha256:1"

def enrolledAdapter (deviceId : String) : FleetManifoldAdapter :=
  { @FleetManifoldAdapter.new (sampleFleetEnvironment 0).toManifoldEnvironment [] with
    enrollment := { authorityRevision := 2, credentials := [sampleCredential deviceId] } }

def signedCheckIn (checkinId : String) (observation : DeviceObservation) : SignedFleetCheckIn where
  schema := "rusty.fleet.signed_checkin.v1"
  keyId := "key.1"
  algorithm := checkinSignatureAlgorithm
  signatureHex := sampleHex ++ sampleHex
  claims :=
    { schema := "rusty.fleet.checkin_claims.v1"
      checkinId := checkinId
      issuedAtMs := observation.sourceTimeMs
      expiresAtMs := observation.sourceTimeMs + 60000
      manifoldPeerStatusProposal := observation.identity.deviceId
      observation := { observation with receivedTimeMs := 0 }
      extensions := ∅ }

def signedFreshness : StatusCondition where
  family := .freshness
  state := .current
  reason := "device_says_fresh"
  message := "signed by the device"
  sourceTimeMs := 1000
  receivedTimeMs := 1000
  acceptedRevision := u64Max
  freshUntilMs := 1000000
  source := { adapterId := "device", owner := "device", authorityRevision := 1 }
  sensitivity := .operator
  extensions := ∅

def checkInWith (conditions : List StatusCondition) : SignedFleetCheckIn :=
  signedCheckIn "checkin.1" { PackageSafety.readyObservation "d1" with conditions := conditions }

def yieldingFreshness : StatusCondition :=
  { signedFreshness with
    reason := "local_authenticated_checkin"
    acceptedRevision := 1
    sourceTimeMs := 900 }

set_option maxRecDepth 30000 in
theorem yielding_checkin_shows_ingress :
    @admits (@accept (enrolledAdapter "d1") (sampleFleetEnvironment 1000)
        (.new PackageSafety.samplePolicy) (checkInWith [yieldingFreshness]) 1000).1 = true ∧
      let after := (@accept (enrolledAdapter "d1") (sampleFleetEnvironment 1000)
        (.new PackageSafety.samplePolicy) (checkInWith [yieldingFreshness]) 1000).2.1
      let ingress := (enrolledAdapter "d1").ingressCondition (.new PackageSafety.samplePolicy)
        (checkInWith [yieldingFreshness]) 1000
      YieldsToIngress [yieldingFreshness] ingress 1000 ∧
        ∃ projection, after.inspect "d1" 1000 = .ok projection ∧
          (projection.row.freshness ≠ .offline →
            ((projection.row.conditions[ConditionFamily.freshness]? = some (ingress.projected 1000) ∧
                projection.row.route = ingress.reason) ↔
              YieldsToIngress [yieldingFreshness] ingress 1000)) := by
  have admitted : @admits (@accept (enrolledAdapter "d1") (sampleFleetEnvironment 1000)
      (.new PackageSafety.samplePolicy) (checkInWith [yieldingFreshness]) 1000).1 = true := by
    decide
  refine ⟨admitted, ⟨by decide, ?_, ?_⟩,
    @hub_owns_freshness_exact (sampleFleetEnvironment 1000) (enrolledAdapter "d1")
      (.new PackageSafety.samplePolicy) (checkInWith [yieldingFreshness]) 1000 1000 admitted⟩
  · intro condition tied
    cases tied
  · intro condition first
    cases first
    rfl

set_option maxRecDepth 30000 in
/-- A Freshness condition signed under a great revision is shown in place of the ingress's. -/
theorem signed_freshness_overrides_ingress :
    ∃ (_ : FleetEnvironment) (adapter : FleetManifoldAdapter) (hub : FleetHub)
      (signed : SignedFleetCheckIn) (acceptedMs rowMs : Int),
      admits (adapter.accept hub signed acceptedMs).1 = true ∧
        ∃ projection,
          (adapter.accept hub signed acceptedMs).2.1.inspect
            signed.claims.observation.identity.deviceId rowMs = .ok projection ∧
          projection.row.freshness ≠ .offline ∧
          projection.row.conditions[ConditionFamily.freshness]? ≠
            some ((adapter.ingressCondition hub signed acceptedMs).projected rowMs) ∧
          projection.row.route ≠ (adapter.ingressCondition hub signed acceptedMs).reason := by
  have admitted : @admits (@accept (enrolledAdapter "d1") (sampleFleetEnvironment 1000)
      (.new PackageSafety.samplePolicy) (checkInWith [signedFreshness]) 1000).1 = true := by
    decide
  obtain ⟨projection, inspected, row⟩ := FleetHub.inspect_stored 1000
    (@admitted_record (sampleFleetEnvironment 1000) _ _ _ _ admitted)
  refine ⟨sampleFleetEnvironment 1000, enrolledAdapter "d1", .new PackageSafety.samplePolicy,
    checkInWith [signedFreshness], 1000, 1000, admitted, projection, inspected, ?_⟩
  rw [row]
  decide

end Samples

end RustyFleet.CheckIns

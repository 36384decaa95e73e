import RustyFleet.Safety.HubFreshness

namespace RustyFleet.CheckIns

open ManifoldEnvironment FleetManifoldAdapter

/-- An applied peer review moves the authority on from the revision it was asked at. -/
def ReviewAdvances [ManifoldEnvironment] : Prop :=
  ∀ review state, (reviewAndApplyPeerProposal review).2.applied = true →
    (reviewAndApplyPeerProposal review).1.acceptedState = some state →
    review.currentState.authorityRevision < state.authorityRevision

structure OnlyExpiredDropped (before after : BTreeMap String Int) (nowMs : Int) : Prop where
  kept : ∀ (checkinId : String) (expiresAtMs : Int), before[checkinId]? = some expiresAtMs → nowMs < expiresAtMs →
    after[checkinId]? = some expiresAtMs
  nothingNew : ∀ (checkinId : String) (expiresAtMs : Int), after[checkinId]? = some expiresAtMs →
    before[checkinId]? = some expiresAtMs

/-- All of a check-in is committed, or nothing but the pruning of the replay table. -/
structure AllOrNeither [FleetEnvironment] (fleet : Fleet) (signed : SignedFleetCheckIn) (nowMs : Int)
    (result : HubResult CheckInReceipt) (after : Fleet) : Prop where
  returns : ∃ receipt, result = .ok receipt
  neither : admits result = false →
    after.hub = fleet.hub ∧ after.adapter.acceptedPeers = fleet.adapter.acceptedPeers ∧
      after.adapter.termuxProofs = fleet.adapter.termuxProofs ∧
      after.adapter.enrollment = fleet.adapter.enrollment ∧
      after.adapter.runtimeHost = fleet.adapter.runtimeHost ∧
      OnlyExpiredDropped fleet.adapter.seenCheckins after.adapter.seenCheckins nowMs
  all : admits result = true →
    (∃ resultRevision deviceId sourceRevision,
      fleet.hub.acceptObservation (fleet.adapter.acceptedObservation fleet.hub signed nowMs) nowMs =
        (.ok (.accepted resultRevision deviceId sourceRevision), after.hub)) ∧
      after.adapter.acceptedPeers.authorityRevision =
        fleet.adapter.acceptedPeers.authorityRevision + 1 ∧
      after.adapter.seenCheckins[signed.claims.checkinId]? = some signed.claims.expiresAtMs

theorem onlyExpiredDropped_refl (seen : BTreeMap String Int) (nowMs : Int) :
    OnlyExpiredDropped seen seen nowMs where
  kept _ _ stored _ := stored
  nothingNew _ _ stored := stored

theorem onlyExpiredDropped_prune (adapter : FleetManifoldAdapter) (nowMs : Int) :
    OnlyExpiredDropped adapter.seenCheckins (adapter.pruneSeenCheckins nowMs).seenCheckins nowMs where
  kept _ _ stored live :=
    (BTreeMap.lookup_filter_iff _ _ _ _).mpr ⟨stored, decide_eq_true live⟩
  nothingNew _ _ stored := ((BTreeMap.lookup_filter_iff _ _ _ _).mp stored).1

section Runs

variable [FleetEnvironment]

theorem reviewed_revision {adapter : FleetManifoldAdapter} {hub candidate : FleetHub}
    {signed : SignedFleetCheckIn} {nowMs : Int} {checkIn : AuthenticatedCheckIn} {resultRevision : Nat}
    {state : ManifoldAcceptedPeerState} {termuxProofs : BTreeMap String AdmittedQuestWifiAdbTermuxProof}
    (advances : ReviewAdvances)
    (commits : Commits adapter hub signed nowMs checkIn resultRevision candidate state termuxProofs) :
    state.authorityRevision = adapter.acceptedPeers.authorityRevision + 1 := by
  have later : adapter.acceptedPeers.authorityRevision < state.authorityRevision :=
    advances _ state commits.applied commits.reviewed
  have checked := commits.revision
  simp only [saturatingSucc] at checked
  omega

theorem checkin_all_or_neither (advances : ReviewAdvances) (fleet : Fleet) (signed : SignedFleetCheckIn)
    (nowMs : Int)
    (returns : ∀ observation, ∃ decision,
      (fleet.hub.acceptObservation observation nowMs).1 = .ok decision) :
    let result := fleet.adapter.accept fleet.hub signed nowMs
    AllOrNeither fleet signed nowMs result.1 ⟨result.2.1, result.2.2⟩ := by
  intro result
  rcases accept_cases fleet.adapter fleet.hub signed nowMs with
    ⟨receipt, refused, ended | ended⟩ | ⟨fault, ended, panicked⟩ |
    ⟨receipt, checkIn, resultRevision, candidate, state, termuxProofs, accepted, ended, _, _, _, commits⟩
  · have outcome : result = (.ok receipt, fleet.hub, fleet.adapter) := ended
    rw [outcome]
    refine ⟨⟨receipt, rfl⟩, fun _ => ?_, fun admitted => ?_⟩
    · exact ⟨rfl, rfl, rfl, rfl, rfl, onlyExpiredDropped_refl _ _⟩
    · simp [admits, refused] at admitted
  · have outcome : result = (.ok receipt, fleet.hub, fleet.adapter.pruneSeenCheckins nowMs) := ended
    rw [outcome]
    refine ⟨⟨receipt, rfl⟩, fun _ => ?_, fun admitted => ?_⟩
    · exact ⟨rfl, rfl, rfl, rfl, rfl, onlyExpiredDropped_prune _ _⟩
    · simp [admits, refused] at admitted
  · obtain ⟨decision, decided⟩ := returns (fleet.adapter.acceptedObservation fleet.hub signed nowMs)
    rw [decided] at panicked
    cases panicked
  · have outcome : result = (.ok receipt, candidate,
        (fleet.adapter.pruneSeenCheckins nowMs).commitCheckIn signed state termuxProofs) := ended
    rw [outcome]
    refine ⟨⟨receipt, rfl⟩, fun refused => ?_, fun _ => ?_⟩
    · simp [admits, accepted] at refused
    · obtain ⟨deviceId, sourceRevision, observed⟩ := commits.observed
      have moved := (boundedPeers_revision state).trans (reviewed_revision advances commits)
      have recorded := BTreeMap.lookup_insert_self (fleet.adapter.pruneSeenCheckins nowMs).seenCheckins
        signed.claims.checkinId signed.claims.expiresAtMs
      exact ⟨⟨resultRevision, deviceId, sourceRevision, observed⟩, moved, recorded⟩

structure AdmittedObservation where
  observation : DeviceObservation
  checkIn : Option SignedFleetCheckIn

/-- Everything one call got the Hub to accept. -/
def admittedBy (fleet : Fleet) (call : FleetCall) (answer : FleetAnswer) : List AdmittedObservation :=
  match call, answer with
  | .checkIn signed nowMs, .checkedIn result =>
    if admits result then
      [{ observation := fleet.adapter.acceptedObservation fleet.hub signed nowMs, checkIn := some signed }]
    else []
  | .hub call, .hub answer =>
    (Lineage.acceptedBy fleet.hub call answer).map fun observation =>
      { observation := observation, checkIn := none }
  | _, _ => []

/-- The envelopes a run accepted, oldest first. -/
def acceptedCheckIns (_ : Fleet) (call : FleetCall) (answer : FleetAnswer) : List SignedFleetCheckIn :=
  match call, answer with
  | .checkIn signed _, .checkedIn result => if admits result then [signed] else []
  | _, _ => []

omit [FleetEnvironment] in
theorem acceptedCheckIns_read (fleet : Fleet) (call : FleetCall) (answer : FleetAnswer) :
    acceptedCheckIns fleet call answer = (admittedBy fleet call answer).filterMap (·.checkIn) := by
  cases call <;> cases answer <;> try rfl
  · simp only [acceptedCheckIns, admittedBy]
    split <;> rfl
  · simp [acceptedCheckIns, admittedBy, List.filterMap_map]

def carriesSigned (entry : AdmittedObservation) : Prop :=
  ∀ signed, entry.checkIn = some signed →
    entry.observation.identity = signed.claims.observation.identity ∧
      entry.observation.sourceEpoch = signed.claims.observation.sourceEpoch ∧
      entry.observation.sourceRevision = signed.claims.observation.sourceRevision

structure FleetLineage (policy : AssertedPolicy) (fleet : Fleet) (entries : List AdmittedObservation) :
    Prop where
  lineage : Lineage.HubLineage policy fleet.hub (entries.map (·.observation))
  carried : ∀ entry ∈ entries, carriesSigned entry

omit [FleetEnvironment] in
theorem FleetLineage.extend {policy : AssertedPolicy} {fleet after : Fleet}
    {entries : List AdmittedObservation} (held : FleetLineage policy fleet entries)
    (further : List AdmittedObservation)
    (lineage : Lineage.HubLineage policy after.hub
      (entries.map (·.observation) ++ further.map (·.observation)))
    (carried : ∀ entry ∈ further, carriesSigned entry) :
    FleetLineage policy after (entries ++ further) where
  lineage := by rwa [List.map_append]
  carried := by
    intro entry member
    rcases List.mem_append.mp member with earlier | new
    · exact held.carried entry earlier
    · exact carried entry new

omit [FleetEnvironment] in
theorem FleetLineage.sameHub {policy : AssertedPolicy} {fleet after : Fleet}
    {entries : List AdmittedObservation} (held : FleetLineage policy fleet entries)
    (same : after.hub = fleet.hub) : FleetLineage policy after (entries ++ []) := by
  rw [List.append_nil]
  exact ⟨same ▸ held.lineage, held.carried⟩

theorem checkin_keeps_lineage {policy : AssertedPolicy} {fleet : Fleet}
    {entries : List AdmittedObservation} (held : FleetLineage policy fleet entries)
    (signed : SignedFleetCheckIn) (nowMs : Int) :
    FleetLineage policy (fleet.handle (.checkIn signed nowMs)).1
      (entries ++ admittedBy fleet (.checkIn signed nowMs) (fleet.handle (.checkIn signed nowMs)).2) := by
  rcases accept_cases fleet.adapter fleet.hub signed nowMs with
    ⟨receipt, refused, ended | ended⟩ | ⟨fault, ended, _⟩ |
    ⟨receipt, checkIn, resultRevision, candidate, state, termuxProofs, accepted, ended, _, _, _, commits⟩
  · simp only [Fleet.handle, ended, admittedBy, admits, refused, Bool.false_eq_true, if_false]
    exact held.sameHub rfl
  · simp only [Fleet.handle, ended, admittedBy, admits, refused, Bool.false_eq_true, if_false]
    exact held.sameHub rfl
  · simp only [Fleet.handle, ended, admittedBy, admits, Bool.false_eq_true, if_false]
    exact held.sameHub rfl
  · simp only [Fleet.handle, ended, admittedBy, admits, accepted, if_true]
    obtain ⟨deviceId, sourceRevision, observed⟩ := commits.observed
    have extended := Lineage.observation_keeps_lineage held.lineage
      (fleet.adapter.acceptedObservation fleet.hub signed nowMs) nowMs
    have answered : fleet.hub.acceptObservation
        (fleet.adapter.acceptedObservation fleet.hub signed nowMs) nowMs =
        (.ok (.accepted resultRevision deviceId sourceRevision), candidate) := observed
    simp only [FleetHub.handle, answeredBy, answered, Lineage.acceptedBy, Lineage.accepts, if_true]
      at extended
    refine held.extend _ extended fun entry member => ?_
    rw [List.mem_singleton.mp member]
    rintro given same
    cases same
    exact ⟨rfl, rfl, rfl⟩

theorem call_keeps_fleet_lineage {policy : AssertedPolicy} {fleet : Fleet}
    {entries : List AdmittedObservation} (held : FleetLineage policy fleet entries) (call : FleetCall) :
    FleetLineage policy (fleet.handle call).1 (entries ++ admittedBy fleet call (fleet.handle call).2) := by
  cases call with
  | checkIn signed nowMs => exact checkin_keeps_lineage held signed nowMs
  | hub call =>
    have extended := Lineage.call_keeps_lineage held.lineage call
    refine held.extend _ ?_ fun entry member => ?_
    · simpa [Fleet.handle, admittedBy, List.map_map, Function.comp_def] using extended
    · obtain ⟨observation, _, rfl⟩ := List.mem_map.mp member
      intro given same
      cases same
  | enroll request nowMs => exact held.sameHub rfl
  | restoreSession snapshot nowMs => exact held.sameHub rfl

theorem run_fleet_lineage (policy : AssertedPolicy) (adapter : FleetManifoldAdapter)
    (calls : List FleetCall) :
    FleetLineage policy (fleetMachine.run ⟨.new policy, adapter⟩ calls)
      (fleetMachine.history admittedBy ⟨.new policy, adapter⟩ calls) := by
  have start : FleetLineage policy ⟨.new policy, adapter⟩ [] :=
    ⟨Lineage.run_lineage policy [], fun entry member => by cases member⟩
  have carried := fleetMachine.run_history admittedBy (fun _ _ => True) (FleetLineage policy)
    (fun fleet call entries _ held => call_keeps_fleet_lineage held call)
    ⟨.new policy, adapter⟩ calls [] (fleetMachine.admits_true _ _) start
  simpa using carried

omit [FleetEnvironment] in
theorem FleetLineage.stamps_distinct {policy : AssertedPolicy} {fleet : Fleet}
    {entries : List AdmittedObservation} (held : FleetLineage policy fleet entries) :
    entries.Pairwise fun a b =>
      a.observation.identity.deviceId = b.observation.identity.deviceId →
        Lineage.stamp a.observation ≠ Lineage.stamp b.observation := by
  rw [List.pairwise_iff_forall_sublist]
  intro a b order sameDevice sameStamp
  have device := held.lineage.device a.observation.identity.deviceId
  have increasing := List.pairwise_map.mp device.history.increasing
  have kept : [a.observation, b.observation].Sublist
      (Lineage.ofDevice a.observation.identity.deviceId (entries.map (·.observation))) := by
    have filtered := (order.map (·.observation)).filter
      (·.identity.deviceId == a.observation.identity.deviceId)
    simpa [Lineage.ofDevice, sameDevice] using filtered
  have before := List.pairwise_iff_forall_sublist.mp increasing kept
  rw [sameStamp] at before
  exact EpochLog.Before.irrefl _ _ before

omit [FleetEnvironment] in
theorem FleetLineage.claims_nodup {policy : AssertedPolicy} {fleet : Fleet}
    {entries : List AdmittedObservation} (held : FleetLineage policy fleet entries) :
    ((entries.filterMap (·.checkIn)).map (·.claims)).Nodup := by
  rw [List.Nodup, List.pairwise_map, List.pairwise_filterMap]
  refine held.stamps_distinct.imp_of_mem fun {a b} memberA memberB distinct signed first other second same => ?_
  obtain ⟨identity, epoch, revision⟩ := held.carried a memberA signed first
  obtain ⟨identity', epoch', revision'⟩ := held.carried b memberB other second
  refine distinct (by rw [identity, identity', same]) ?_
  simp only [Lineage.stamp, identity, identity', epoch, epoch', revision, revision', same]

/-- In every run, check-ins are admitted as a whole or not at all, and no envelope twice. -/
theorem checkins_all_or_neither_once (advances : ReviewAdvances) (policy : AssertedPolicy)
    (adapter : FleetManifoldAdapter) (calls : List FleetCall) :
    let fleet := fleetMachine.run ⟨.new policy, adapter⟩ calls
    let accepted := fleetMachine.history acceptedCheckIns ⟨.new policy, adapter⟩ calls
    (∀ signed nowMs,
      let result := fleet.adapter.accept fleet.hub signed nowMs
      AllOrNeither fleet signed nowMs result.1 ⟨result.2.1, result.2.2⟩) ∧
      accepted.Nodup ∧ (accepted.map (·.claims)).Nodup := by
  intro fleet accepted
  have held := run_fleet_lineage policy adapter calls
  have once : (accepted.map (·.claims)).Nodup := by
    have read := fleetMachine.history_filterMap admittedBy acceptedCheckIns (·.checkIn)
      acceptedCheckIns_read ⟨.new policy, adapter⟩ calls
    rw [show accepted = _ from read]
    exact held.claims_nodup
  have envelopes : accepted.Nodup :=
    (List.pairwise_map.mp once).imp fun distinct same => distinct (congrArg _ same)
  refine ⟨fun signed nowMs => ?_, envelopes, once⟩
  exact checkin_all_or_neither advances fleet signed nowMs fun observation =>
    Lineage.acceptObservation_returns held.lineage observation nowMs

end Runs

def repeatedCheckIn : List FleetCall :=
  [.checkIn (checkInWith []) 1000,
    .checkIn (signedCheckIn "checkin.2" { PackageSafety.readyObservation "d2" with sourceTimeMs := 61000 })
      61000,
    .checkIn (checkInWith []) 1001]

theorem repeated_checkin_admitted_once :
    (@Machine.history _ _ _ (@fleetMachine (sampleFleetEnvironment 1000)) _ acceptedCheckIns
      ⟨.new PackageSafety.samplePolicy, enrolledAdapter "d1"⟩ repeatedCheckIn).length = 1 ∧
      (@Machine.history _ _ _ (@fleetMachine (sampleFleetEnvironment 1000)) _ acceptedCheckIns
        ⟨.new PackageSafety.samplePolicy, enrolledAdapter "d1"⟩ repeatedCheckIn).Nodup := by
  have advances : @ReviewAdvances (sampleFleetEnvironment 1000).toManifoldEnvironment := by
    intro review state _ accepted
    cases accepted
    exact Nat.lt_succ_self _
  refine ⟨by decide +kernel, ?_⟩
  exact (@checkins_all_or_neither_once (sampleFleetEnvironment 1000) advances PackageSafety.samplePolicy
    (enrolledAdapter "d1") repeatedCheckIn).2.1

end RustyFleet.CheckIns

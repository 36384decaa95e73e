import RustyFleet.Safety.HubFreshness

namespace RustyFleet.CheckIns

open FleetManifoldAdapter

section Contracts

variable [ObservationCodec]

omit [ObservationCodec] in
theorem indexedViolations_of_valid {α : Type} [ValidateContract α] (field : String) {values : List α}
    (valid : ∀ value ∈ values, Valid value) : indexedViolations field values = [] := by
  simp only [indexedViolations, List.flatMap_eq_nil_iff, List.map_eq_nil_iff]
  rintro ⟨value, index⟩ member
  exact valid value (List.fst_mem_of_mem_zipIdx member)

structure ConditionsFit (observation : DeviceObservation) : Prop where
  counted : observation.conditions.length ≤ 64
  sized : ∀ size, ObservationCodec.encodedBytes observation = some size → size ≤ 2 * 1024 * 1024
  conditions : ∀ condition ∈ observation.conditions, Valid condition

theorem redecorated_valid_iff {observation : DeviceObservation} (valid : Valid observation)
    (receivedTimeMs : Int) (conditions : List StatusCondition) :
    Valid { observation with receivedTimeMs := receivedTimeMs, conditions := conditions } ↔
      ConditionsFit { observation with receivedTimeMs := receivedTimeMs, conditions := conditions } := by
  have oversized : ∀ encoded : Option Nat, ¬ encoded.any (· > 2 * 1024 * 1024) = true ↔
      ∀ size, encoded = some size → size ≤ 2 * 1024 * 1024 := by
    intro encoded
    cases encoded with
    | none => simp
    | some size => simp
  have parts : (_ ++ _ : List ContractViolation) = [] := valid
  simp only [List.append_eq_nil_iff, violationIf_nil] at parts
  obtain ⟨⟨⟨⟨⟨⟨⟨⟨⟨⟨⟨⟨schema, identity⟩, epoch⟩, revision⟩, battery⟩, agent⟩, power⟩, application⟩, counts⟩, _⟩, _⟩,
    capabilities⟩, streams⟩ := parts
  constructor
  · intro redecorated
    have others : (_ ++ _ : List ContractViolation) = [] := redecorated
    simp only [List.append_eq_nil_iff, violationIf_nil] at others
    obtain ⟨⟨⟨⟨⟨_, within⟩, bytes⟩, listed⟩, _⟩, _⟩ := others
    have short : ¬ conditions.length > 64 := fun more => within (.inl more)
    exact ⟨Nat.not_lt.mp short, (oversized _).mp bytes, indexedViolations_nil _ _ listed⟩
  · rintro ⟨counted, sized, each⟩
    show (_ ++ _ : List ContractViolation) = []
    simp only [List.append_eq_nil_iff, violationIf_nil]
    have within : ¬ (conditions.length > 64 ∨ observation.streams.length > 32 ∨
        observation.capabilities.capabilities.size > 128 ∨ observation.extensions.size > 64) := by
      have short : conditions.length ≤ 64 := counted
      omega
    exact ⟨⟨⟨⟨⟨⟨⟨⟨⟨⟨⟨⟨schema, identity⟩, epoch⟩, revision⟩, battery⟩, agent⟩, power⟩, application⟩, within⟩,
      (oversized _).mpr sized⟩, indexedViolations_of_valid _ each⟩, capabilities⟩, streams⟩

end Contracts

section Ingress

variable [FleetEnvironment]

/-- What the ingress relies on in the JSON encoder: an observation is written inside its claims, an integer has
at most 21 characters, and a condition costs its field names, its texts with at most six bytes for each of theirs,
and a comma. -/
structure EncoderLaws (conditionBytes : StatusCondition → Nat) : Prop where
  nested : ∀ claims, ∃ total own, CheckInCodec.encodedClaimsBytes claims = some total ∧
    ObservationCodec.encodedBytes claims.observation = some own ∧ own ≤ total
  received : ∀ observation own (nowMs : Int), ObservationCodec.encodedBytes observation = some own →
    nowMs.natAbs < 10 ^ 20 → ∃ size,
      ObservationCodec.encodedBytes { observation with receivedTimeMs := nowMs } = some size ∧ size ≤ own + 21
  appended : ∀ observation own condition, ObservationCodec.encodedBytes observation = some own → ∃ size,
    ObservationCodec.encodedBytes { observation with conditions := observation.conditions ++ [condition] } =
      some size ∧ size ≤ own + conditionBytes condition + 1
  condition : ∀ condition : StatusCondition, condition.extensions = ∅ →
    condition.sourceTimeMs.natAbs < 10 ^ 20 → condition.receivedTimeMs.natAbs < 10 ^ 20 →
    condition.freshUntilMs.natAbs < 10 ^ 20 → condition.acceptedRevision < 10 ^ 20 →
    condition.source.authorityRevision < 10 ^ 20 →
    conditionBytes condition ≤ 512 + 6 * (condition.reason.utf8ByteSize + condition.message.utf8ByteSize +
      condition.source.owner.utf8ByteSize + condition.source.adapterId.utf8ByteSize)

/-- The observation a check-in signs, received now. -/
def ownObservation (signed : SignedFleetCheckIn) (nowMs : Int) : DeviceObservation :=
  { signed.claims.observation with receivedTimeMs := nowMs }

def accepts : HubResult ObservationDecision → Bool
  | .ok (.accepted _ _ _) => true
  | _ => false

def contractRefused : HubResult ObservationDecision → Bool
  | .ok (.rejected _ _ _ .contractInvalid _) => true
  | _ => false

/-- What the Hub adds to a check-in changes neither its verdict nor makes it break its contract. -/
structure IngressNeutral (adapter : FleetManifoldAdapter) (hub : FleetHub) (signed : SignedFleetCheckIn)
    (nowMs : Int) : Prop where
  verdict : accepts (hub.acceptObservation (adapter.acceptedObservation hub signed nowMs) nowMs).1 =
    accepts (hub.acceptObservation (ownObservation signed nowMs) nowMs).1
  contract : contractRefused
    (hub.acceptObservation (adapter.acceptedObservation hub signed nowMs) nowMs).1 = false

variable {adapter : FleetManifoldAdapter} {hub : FleetHub} {signed : SignedFleetCheckIn} {nowMs : Int}

omit [FleetEnvironment] in
theorem saturatingSucc_bounds (counter : Nat) : 0 < saturatingSucc counter ∧ saturatingSucc counter < 10 ^ 20 := by
  simp only [saturatingSucc, u64Max]
  omega

omit [FleetEnvironment] in
theorem ingress_condition_valid (current : nowMs < signed.claims.expiresAtMs) :
    Valid (adapter.ingressCondition hub signed nowMs) := by
  have accepted := (saturatingSucc_bounds hub.resultRevision).1
  have authority := (saturatingSucc_bounds adapter.acceptedPeers.authorityRevision).1
  have empty : (∅ : BTreeMap String JsonValue).size = 0 := Std.ExtTreeMap.size_empty
  show (_ ++ _ : List ContractViolation) = []
  simp only [List.append_eq_nil_iff, violationIf_nil, requireNonempty_nil]
  simp only [ingressCondition, empty]
  refine ⟨⟨⟨⟨⟨⟨by decide, by decide⟩, by decide⟩, by decide⟩, ?_⟩, ?_⟩, by omega⟩
  · omega
  · omega

theorem decorated_sizes {conditionBytes : StatusCondition → Nat} (laws : EncoderLaws conditionBytes)
    (adapter : FleetManifoldAdapter) (hub : FleetHub) (valid : Valid signed) (begun : signed.claims.issuedAtMs ≤ nowMs)
    (current : nowMs < signed.claims.expiresAtMs) (stamp : nowMs ≤ i64Max) :
    (∀ size, ObservationCodec.encodedBytes (ownObservation signed nowMs) = some size →
      size ≤ 2 * 1024 * 1024) ∧
    ∀ size, ObservationCodec.encodedBytes (adapter.acceptedObservation hub signed nowMs) = some size →
      size ≤ 2 * 1024 * 1024 := by
  obtain ⟨issued, _, lifetime, source, _, _⟩ := signed_valid_facts signed valid
  simp only [maxCheckinTtlMs] at lifetime
  simp only [i64Max] at stamp
  obtain ⟨total, own, encoded, inner, smaller⟩ := laws.nested signed.claims
  have bounded : total ≤ maxCheckinBytes := by
    have parts : (_ ++ _ : List ContractViolation) = [] := valid
    have claims : (_ ++ _ : List ContractViolation) = [] := (List.append_eq_nil_iff.mp parts).2
    have bytes := (List.append_eq_nil_iff.mp claims).2
    simp only [violationIf_nil, encoded, Option.any_some, decide_eq_true_eq] at bytes
    exact Nat.not_lt.mp bytes
  simp only [maxCheckinBytes] at bounded
  obtain ⟨received, receivedEncoded, receivedSize⟩ := laws.received _ own nowMs inner (by omega)
  obtain ⟨appended, appendedEncoded, appendedSize⟩ :=
    laws.appended _ received (adapter.ingressCondition hub signed nowMs) receivedEncoded
  have condition := laws.condition (adapter.ingressCondition hub signed nowMs) rfl
    (by simp only [ingressCondition]; omega) (by simp only [ingressCondition]; omega)
    (by simp only [ingressCondition]; omega) (saturatingSucc_bounds _).2 (saturatingSucc_bounds _).2
  have texts : (adapter.ingressCondition hub signed nowMs).reason.utf8ByteSize +
      (adapter.ingressCondition hub signed nowMs).message.utf8ByteSize +
      (adapter.ingressCondition hub signed nowMs).source.owner.utf8ByteSize +
      (adapter.ingressCondition hub signed nowMs).source.adapterId.utf8ByteSize ≤ 256 := by
    simp only [ingressCondition]
    decide
  constructor
  · intro size sized
    have same : received = size := Option.some.inj (receivedEncoded.symm.trans sized)
    omega
  · intro size sized
    have same : appended = size := Option.some.inj (appendedEncoded.symm.trans sized)
    omega

omit [FleetEnvironment] in
theorem rejection_not_contract (limit : Nat) (existing : DeviceRecord) (observation : DeviceObservation) :
    observationRejection limit existing observation ≠ some .contractInvalid := by
  dsimp only [observationRejection]
  split_ifs <;> exact fun same => by cases same

theorem valid_not_contractRefused {observation : DeviceObservation} (valid : Valid observation) :
    contractRefused (hub.acceptObservation observation nowMs).1 = false := by
  unfold FleetHub.acceptObservation
  rw [validate_of_valid valid]
  dsimp only
  cases lineage : hub.devices[observation.identity.deviceId]?.bind fun existing =>
      observationRejection hub.policy.sourceEpochLimitPerDevice existing observation with
  | none =>
    simp only [FleetHub.admitObservation]
    split <;> rfl
  | some reason =>
    obtain ⟨existing, _, rejected⟩ := Option.bind_eq_some_iff.mp lineage
    cases reason with
    | contractInvalid => exact absurd rejected (rejection_not_contract _ existing observation)
    | _ => rfl

theorem invalid_contractRefused (hub : FleetHub) (nowMs : Int) {observation : DeviceObservation}
    (invalid : ¬ Valid observation) :
    contractRefused (hub.acceptObservation observation nowMs).1 = true := by
  unfold FleetHub.acceptObservation
  rw [validate_of_not_valid invalid]
  rfl

theorem verdict_ignores_conditions {observation : DeviceObservation} (valid : Valid observation)
    {conditions : List StatusCondition} (redecorated : Valid { observation with conditions := conditions }) :
    accepts (hub.acceptObservation { observation with conditions := conditions } nowMs).1 =
      accepts (hub.acceptObservation observation nowMs).1 := by
  have same : (fun existing => observationRejection hub.policy.sourceEpochLimitPerDevice existing
      { observation with conditions := conditions }) =
        fun existing => observationRejection hub.policy.sourceEpochLimitPerDevice existing observation := rfl
  simp only [FleetHub.acceptObservation, validate_of_valid valid, validate_of_valid redecorated, same]
  cases hub.devices[observation.identity.deviceId]?.bind fun existing =>
      observationRejection hub.policy.sourceEpochLimitPerDevice existing observation with
  | some reason => rfl
  | none =>
    have epochs : (hub.acceptedRecord { observation with conditions := conditions } nowMs).seenSourceEpochs =
      (hub.acceptedRecord observation nowMs).seenSourceEpochs := rfl
    simp only [FleetHub.admitObservation, epochs]
    by_cases fits : (hub.acceptedRecord observation nowMs).seenSourceEpochs.length ≤
        hub.policy.sourceEpochLimitPerDevice
    · simp only [if_pos fits]
      rfl
    · simp only [if_neg fits]

/-- The condition the Hub adds is harmless exactly while the signed observation leaves room for it. -/
theorem ingress_neutral_iff {conditionBytes : StatusCondition → Nat} (laws : EncoderLaws conditionBytes)
    (adapter : FleetManifoldAdapter) (hub : FleetHub) (signed : SignedFleetCheckIn) (nowMs : Int)
    (valid : Valid signed) (begun : signed.claims.issuedAtMs ≤ nowMs)
    (current : nowMs < signed.claims.expiresAtMs) (stamp : nowMs ≤ i64Max) :
    IngressNeutral adapter hub signed nowMs ↔ signed.claims.observation.conditions.length < 64 := by
  obtain ⟨_, _, _, _, _, observed⟩ := signed_valid_facts signed valid
  obtain ⟨ownSized, decoratedSized⟩ := decorated_sizes laws adapter hub valid begun current stamp
  have signedFits := (redecorated_valid_iff observed signed.claims.observation.receivedTimeMs
    signed.claims.observation.conditions).mp observed
  have own : Valid (ownObservation signed nowMs) := by
    apply (redecorated_valid_iff observed nowMs signed.claims.observation.conditions).mpr
    exact ⟨signedFits.counted, ownSized, signedFits.conditions⟩
  have decorated := redecorated_valid_iff observed nowMs (signed.claims.observation.conditions ++
    [adapter.ingressCondition hub signed nowMs])
  constructor
  · intro neutral
    by_contra full
    have invalid : ¬ Valid (adapter.acceptedObservation hub signed nowMs) := by
      intro fits
      have counted : (signed.claims.observation.conditions ++
        [adapter.ingressCondition hub signed nowMs]).length ≤ 64 := (decorated.mp fits).counted
      rw [List.length_append, List.length_singleton] at counted
      omega
    have refused := invalid_contractRefused hub nowMs invalid
    rw [neutral.contract] at refused
    cases refused
  · intro room
    have fits : Valid (adapter.acceptedObservation hub signed nowMs) := by
      apply decorated.mpr
      constructor
      case counted =>
        show (signed.claims.observation.conditions ++ [_]).length ≤ 64
        rw [List.length_append, List.length_singleton]
        omega
      case sized => exact decoratedSized
      case conditions =>
        intro condition member
        rcases List.mem_append.mp member with signedOne | added
        · exact signedFits.conditions condition signedOne
        · rw [List.mem_singleton.mp added]
          exact ingress_condition_valid current
    exact ⟨verdict_ignores_conditions own fits, valid_not_contractRefused fits⟩

end Ingress

section Samples

@[reducible] def encodingEnvironment : FleetEnvironment :=
  { sampleFleetEnvironment 1000 with
    encodedBytes := fun observation => some (1000 + 400 * observation.conditions.length)
    encodedClaimsBytes := fun claims => some (1500 + 400 * claims.observation.conditions.length) }

theorem encoding_laws : @EncoderLaws encodingEnvironment fun _ => 399 := by
  apply @EncoderLaws.mk encodingEnvironment
  case nested =>
    intro claims
    exact ⟨_, _, rfl, rfl, by omega⟩
  case received =>
    intro observation own nowMs encoded _
    cases encoded
    exact ⟨_, rfl, by show 1000 + 400 * observation.conditions.length ≤ _; omega⟩
  case appended =>
    intro observation own condition encoded
    cases encoded
    refine ⟨_, rfl, ?_⟩
    show 1000 + 400 * (observation.conditions ++ [condition]).length ≤ _
    rw [List.length_append, List.length_singleton]
    omega
  case condition =>
    intro condition _ _ _ _ _ _
    omega

set_option maxRecDepth 30000 in
theorem unconditioned_checkin_neutral :
    accepts (@FleetHub.acceptObservation (.new PackageSafety.samplePolicy)
        encodingEnvironment.toObservationCodec (ownObservation (checkInWith []) 1000) 1000).1 = true ∧
      @IngressNeutral encodingEnvironment (enrolledAdapter "d1") (.new PackageSafety.samplePolicy)
        (checkInWith []) 1000 :=
  ⟨by decide,
    (@ingress_neutral_iff encodingEnvironment _ encoding_laws (enrolledAdapter "d1")
      (.new PackageSafety.samplePolicy) (checkInWith []) 1000 (by decide) (by decide) (by decide)
      (by decide)).mpr (by decide)⟩

def fullCheckIn : SignedFleetCheckIn := checkInWith (List.replicate 64 signedFreshness)

set_option maxRecDepth 30000 in
/-- A check-in at the bound is refused for a condition the Hub added itself. -/
theorem full_checkin_refused :
    ∃ (_ : FleetEnvironment) (conditionBytes : StatusCondition → Nat) (adapter : FleetManifoldAdapter)
        (hub : FleetHub) (signed : SignedFleetCheckIn) (nowMs : Int),
      EncoderLaws conditionBytes ∧ Valid signed ∧
        signed.claims.issuedAtMs ≤ nowMs ∧ nowMs < signed.claims.expiresAtMs ∧ nowMs ≤ i64Max ∧
        (adapter.accept hub signed nowMs).1.toOption.bind (·.rejectionReason) = some .fleetRejected ∧
        accepts (hub.acceptObservation (ownObservation signed nowMs) nowMs).1 = true ∧
        contractRefused (hub.acceptObservation (adapter.acceptedObservation hub signed nowMs) nowMs).1 = true ∧
        ¬ IngressNeutral adapter hub signed nowMs := by
  have refused : contractRefused (@FleetHub.acceptObservation (.new PackageSafety.samplePolicy)
      encodingEnvironment.toObservationCodec
      ((enrolledAdapter "d1").acceptedObservation (.new PackageSafety.samplePolicy) fullCheckIn 1000) 1000).1 =
        true := by decide
  refine ⟨encodingEnvironment, fun _ => 399, enrolledAdapter "d1", .new PackageSafety.samplePolicy,
    fullCheckIn, 1000, encoding_laws, by decide, by decide, by decide, by decide, by decide,
    by decide, refused, ?_⟩
  intro neutral
  have clear := @IngressNeutral.contract encodingEnvironment _ _ _ _ neutral
  rw [refused] at clear
  cases clear

end Samples

end RustyFleet.CheckIns

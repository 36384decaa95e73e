import RustyFleet.Provider.Descriptors
import RustyFleet.Safety.TimestampParts
import RustyFleet.Support.OneToOne

namespace RustyFleet

namespace ProviderCatalog

open Support

section Steps

theorem catalogThen_ok {first second : CatalogResult Unit} :
    (first >>= fun _ => second) = .ok () ↔ first = .ok () ∧ second = .ok () := by
  rw [exceptBind_ok]
  constructor
  · rintro ⟨⟨⟩, both⟩
    exact both
  · exact fun both => ⟨(), both⟩

theorem exists_unit {P : Unit → Prop} : (∃ value, P value) ↔ P () :=
  ⟨fun ⟨(), holds⟩ => holds, fun holds => ⟨(), holds⟩⟩

theorem forM_ok {α : Type} (check : α → CatalogResult Unit) (items : List α) :
    items.forM check = .ok () ↔ ∀ item ∈ items, check item = .ok () := by
  induction items with
  | nil => exact iff_of_true rfl (fun item member => absurd member List.not_mem_nil)
  | cons item items ih =>
    show (check item >>= fun _ => items.forM check) = .ok () ↔ _
    rw [catalogThen_ok, ih, List.forall_mem_cons]

theorem forEachInserted_ok {α : Type} {key : α → String} {check : Bool → α → CatalogResult Unit}
    (refuses : ∀ item, check false item ≠ .ok ()) (items : List α) (seen : List String) :
    forEachInserted key check seen items = .ok () ↔ (items.map key).Nodup ∧
      (∀ item ∈ items, key item ∉ seen) ∧ ∀ item ∈ items, check true item = .ok () := by
  induction items generalizing seen with
  | nil => simp [forEachInserted]
  | cons item items ih =>
    rw [forEachInserted, catalogThen_ok, ih, List.map_cons, List.nodup_cons, List.forall_mem_cons,
      List.forall_mem_cons]
    by_cases known : key item ∈ seen
    · rw [List.contains_iff_mem.mpr known, Bool.not_true]
      apply iff_of_false
      · exact fun both => refuses item both.1
      · exact fun all => all.2.1.1 known
    · rw [show seen.contains (key item) = false by simpa using known, Bool.not_false]
      have fresh : (∀ other ∈ items, key other ∉ key item :: seen) ↔
          key item ∉ items.map key ∧ ∀ other ∈ items, key other ∉ seen := by
        simp only [List.mem_cons, not_or, List.mem_map, not_exists, not_and]
        constructor
        · intro all
          exact ⟨fun other member => (all other member).1, fun other member => (all other member).2⟩
        · rintro ⟨distinct, unseen⟩ other member
          exact ⟨distinct other member, unseen other member⟩
      rw [fresh]
      constructor
      · rintro ⟨passes, distinct, ⟨new, unseen⟩, all⟩
        exact ⟨⟨new, distinct⟩, ⟨known, unseen⟩, passes, all⟩
      · rintro ⟨⟨new, distinct⟩, ⟨-, unseen⟩, passes, all⟩
        exact ⟨passes, distinct, ⟨new, unseen⟩, all⟩

theorem distinctCount_eq {α : Type} [DecidableEq α] (values : List α) :
    distinctCount values = values.length ↔ values.Nodup := by
  unfold distinctCount
  constructor
  · intro same
    have whole := (List.dedup_sublist values).eq_of_length same
    exact List.dedup_eq_self.mp whole
  · intro distinct
    rw [List.dedup_eq_self.mpr distinct]

end Steps

/-- The expectation that a described action would meet. -/
def DiscoveryAction.binding (action : DiscoveryAction) : ExpectedAction where
  id := action.id
  kind := action.kind
  authenticationRequirements := action.authenticationRequirements

def DiscoveryCapability.binding (capability : DiscoveryCapability) : ExpectedCapability where
  id := capability.id
  contractVersions := capability.contractVersions
  actions := capability.actions.map DiscoveryAction.binding
  effectOwner := capability.effectOwner
  receiptSchema := capability.receiptSchema

section WellFormed

structure WellFormedAction (action : ExpectedAction) : Prop where
  id : safeDiscoveryIdentifier action.id = true
  some : action.authenticationRequirements ≠ []
  bounded : action.authenticationRequirements.length ≤ 8
  distinct : action.authenticationRequirements.Nodup
  alone : .none ∈ action.authenticationRequirements → action.authenticationRequirements.length = 1

structure WellFormedCapability (capability : ExpectedCapability) : Prop where
  id : safeDiscoveryIdentifier capability.id = true
  effectOwner : safeDiscoveryIdentifier capability.effectOwner = true
  receiptSchema : safeDiscoveryIdentifier capability.receiptSchema = true
  someContract : capability.contractVersions ≠ []
  contractsBounded : capability.contractVersions.length ≤ 8
  contractsDistinct : capability.contractVersions.Nodup
  contracts : ∀ contract ∈ capability.contractVersions, safeDiscoveryIdentifier contract = true
  someAction : capability.actions ≠ []
  actionsBounded : capability.actions.length ≤ 64
  actionsDistinct : (capability.actions.map ExpectedAction.id).Nodup
  actions : ∀ action ∈ capability.actions, WellFormedAction action

structure WellFormedExclusions (values : List String) : Prop where
  some : values ≠ []
  bounded : values.length ≤ 32
  distinct : values.Nodup
  portable : ∀ value ∈ values, portableIdentifier value 3 128 false = true
  plain : ∀ value ∈ values, ∀ c ∈ value.toList, asciiLowercase c = true ∨ asciiDigit c = true ∨ c = '.' ∨ c = '-'

theorem boundedExclusions_iff (values : List String) :
    boundedExclusions values = true ↔ WellFormedExclusions values := by
  unfold boundedExclusions
  simp only [Bool.and_eq_true, Bool.not_eq_true', List.isEmpty_eq_false_iff, decide_eq_true_eq, beq_iff_eq,
    distinctCount_eq, List.all_eq_true, Bool.or_eq_true, or_assoc]
  constructor
  · rintro ⟨⟨⟨some, bounded⟩, each⟩, distinct⟩
    exact ⟨some, bounded, distinct, fun value member => (each value member).1,
      fun value member => (each value member).2⟩
  · rintro ⟨some, bounded, distinct, portable, plain⟩
    exact ⟨⟨⟨some, bounded⟩, fun value member => ⟨portable value member, plain value member⟩⟩, distinct⟩

theorem validateExpectedContract_ok (inserted : Bool) (contract : String) :
    validateExpectedContract inserted contract = .ok () ↔
      safeDiscoveryIdentifier contract = true ∧ inserted = true := by
  rw [validateExpectedContract, errorIf_ok]
  simp only [not_or, not_not]

theorem validateExpectedAction_ok (inserted : Bool) (action : ExpectedAction) :
    validateExpectedAction inserted action = .ok () ↔ inserted = true ∧ WellFormedAction action := by
  rw [validateExpectedAction, errorIf_ok]
  simp only [not_or, not_not, not_and, List.isEmpty_iff, Nat.not_lt, distinctCount_eq, List.contains_iff_mem]
  constructor
  · rintro ⟨id, new, some, bounded, distinct, alone⟩
    exact ⟨new, id, some, bounded, distinct, alone⟩
  · rintro ⟨new, id, some, bounded, distinct, alone⟩
    exact ⟨id, new, some, bounded, distinct, alone⟩

theorem validateExpectedCapability_ok (inserted : Bool) (capability : ExpectedCapability) :
    validateExpectedCapability inserted capability = .ok () ↔
      inserted = true ∧ WellFormedCapability capability := by
  rw [validateExpectedCapability, catalogThen_ok, catalogThen_ok, errorIf_ok,
    forEachInserted_ok (fun contract passed => Bool.false_ne_true ((validateExpectedContract_ok _ _).mp passed).2),
    forEachInserted_ok (fun action passed => Bool.false_ne_true ((validateExpectedAction_ok _ _).mp passed).1)]
  simp only [validateExpectedContract_ok, validateExpectedAction_ok, not_or, not_not, List.isEmpty_iff,
    Nat.not_lt, List.map_id, List.not_mem_nil, not_false_eq_true, implies_true, true_and, and_true]
  constructor
  · rintro ⟨⟨id, owner, schema, new, someContract, contractsBounded, someAction, actionsBounded⟩,
      ⟨contractsDistinct, contracts⟩, actionsDistinct, actions⟩
    exact ⟨new, id, owner, schema, someContract, contractsBounded, contractsDistinct, contracts, someAction,
      actionsBounded, actionsDistinct, actions⟩
  · rintro ⟨new, id, owner, schema, someContract, contractsBounded, contractsDistinct, contracts, someAction,
      actionsBounded, actionsDistinct, actions⟩
    exact ⟨⟨id, owner, schema, new, someContract, contractsBounded, someAction, actionsBounded⟩,
      ⟨contractsDistinct, contracts⟩, actionsDistinct, actions⟩

theorem validateContract_ok (inserted : Bool) (contract : String) :
    validateContract inserted contract = .ok () ↔ safeDiscoveryIdentifier contract = true ∧ inserted = true := by
  rw [validateContract, errorIf_ok]
  simp only [not_or, not_not]

theorem validateAction_ok (inserted : Bool) (action : DiscoveryAction) :
    validateAction inserted action = .ok () ↔ inserted = true ∧ WellFormedAction action.binding := by
  rw [validateAction, catalogThen_ok, errorIf_ok, errorIf_ok]
  simp only [not_or, not_not, not_and, List.isEmpty_iff, Nat.not_lt, distinctCount_eq, List.contains_iff_mem]
  constructor
  · rintro ⟨⟨new, id, some, bounded⟩, distinct, alone⟩
    exact ⟨new, id, some, bounded, distinct, alone⟩
  · rintro ⟨new, id, some, bounded, distinct, alone⟩
    exact ⟨⟨new, id, some, bounded⟩, distinct, alone⟩

theorem validateCapability_ok (inserted : Bool) (capability : DiscoveryCapability) :
    validateCapability inserted capability = .ok () ↔ inserted = true ∧
      WellFormedCapability capability.binding ∧ WellFormedExclusions capability.exclusions := by
  have actionIds : (capability.actions.map DiscoveryAction.binding).map ExpectedAction.id =
      capability.actions.map DiscoveryAction.id := by
    rw [List.map_map]
    rfl
  have formed : WellFormedCapability capability.binding ↔ safeDiscoveryIdentifier capability.id = true ∧
      safeDiscoveryIdentifier capability.effectOwner = true ∧
      safeDiscoveryIdentifier capability.receiptSchema = true ∧ capability.contractVersions ≠ [] ∧
      capability.contractVersions.length ≤ 8 ∧ capability.actions ≠ [] ∧ capability.actions.length ≤ 64 ∧
      (capability.contractVersions.Nodup ∧
        ∀ contract ∈ capability.contractVersions, safeDiscoveryIdentifier contract = true) ∧
      (capability.actions.map DiscoveryAction.id).Nodup ∧
        ∀ action ∈ capability.actions, WellFormedAction action.binding := by
    constructor
    · rintro ⟨id, owner, schema, someContract, contractsBounded, contractsDistinct, contracts, someAction,
        actionsBounded, actionsDistinct, actions⟩
      refine ⟨id, owner, schema, someContract, contractsBounded, ?_, ?_, ⟨contractsDistinct, contracts⟩, ?_, ?_⟩
      · exact fun none => someAction (List.map_eq_nil_iff.mpr none)
      · exact List.length_map DiscoveryAction.binding ▸ actionsBounded
      · exact actionIds ▸ actionsDistinct
      · exact fun action member => actions _ (List.mem_map_of_mem member)
    · rintro ⟨id, owner, schema, someContract, contractsBounded, someAction, actionsBounded,
        ⟨contractsDistinct, contracts⟩, actionsDistinct, actions⟩
      refine ⟨id, owner, schema, someContract, contractsBounded, contractsDistinct, contracts, ?_, ?_, ?_, ?_⟩
      · exact fun none => someAction (List.map_eq_nil_iff.mp none)
      · exact (List.length_map DiscoveryAction.binding).symm ▸ actionsBounded
      · exact actionIds.symm ▸ actionsDistinct
      · exact List.forall_mem_map.mpr actions
  rw [validateCapability, catalogThen_ok, catalogThen_ok, errorIf_ok, formed,
    forEachInserted_ok (fun contract passed => Bool.false_ne_true ((validateContract_ok _ _).mp passed).2),
    forEachInserted_ok (fun action passed => Bool.false_ne_true ((validateAction_ok _ _).mp passed).1)]
  simp only [validateContract_ok, validateAction_ok, boundedExclusions_iff, not_or, not_not, List.isEmpty_iff,
    Nat.not_lt, List.map_id, List.not_mem_nil, not_false_eq_true, implies_true, true_and, and_true]
  constructor
  · rintro ⟨⟨new, id, owner, schema, someContract, contractsBounded, someAction, actionsBounded, exclusions⟩, lists⟩
    exact ⟨new, ⟨id, owner, schema, someContract, contractsBounded, someAction, actionsBounded, lists⟩, exclusions⟩
  · rintro ⟨new, ⟨id, owner, schema, someContract, contractsBounded, someAction, actionsBounded, lists⟩, exclusions⟩
    exact ⟨⟨new, id, owner, schema, someContract, contractsBounded, someAction, actionsBounded, exclusions⟩, lists⟩

end WellFormed

section Correspondence

structure Corresponds (expected actual : ExpectedCapability) : Prop where
  id : actual.id = expected.id
  effectOwner : actual.effectOwner = expected.effectOwner
  receiptSchema : actual.receiptSchema = expected.receiptSchema
  contracts : actual.contractVersions.Perm expected.contractVersions
  actions : actual.actions.Perm expected.actions

theorem Corresponds.symm {first second : ExpectedCapability} (related : Corresponds first second) :
    Corresponds second first :=
  ⟨related.id.symm, related.effectOwner.symm, related.receiptSchema.symm, related.contracts.symm,
    related.actions.symm⟩

theorem Corresponds.trans {first second third : ExpectedCapability} (related : Corresponds first second)
    (next : Corresponds second third) : Corresponds first third :=
  ⟨next.id.trans related.id, next.effectOwner.trans related.effectOwner,
    next.receiptSchema.trans related.receiptSchema, next.contracts.trans related.contracts,
    next.actions.trans related.actions⟩

theorem candidate_iff (candidate : DiscoveryAction) (action : ExpectedAction) :
    (candidate.id == action.id && candidate.kind == action.kind &&
      candidate.authenticationRequirements == action.authenticationRequirements) = true ↔
        candidate.binding = action := by
  cases action
  simp only [Bool.and_eq_true, beq_iff_eq, DiscoveryAction.binding, ExpectedAction.mk.injEq, and_assoc]

theorem bindings_iff {expected : ExpectedCapability} (formed : WellFormedCapability expected)
    {actual : DiscoveryCapability} (same : actual.id = expected.id) :
    ¬ (actual.effectOwner ≠ expected.effectOwner ∨ actual.receiptSchema ≠ expected.receiptSchema ∨
        actual.contractVersions.length ≠ expected.contractVersions.length ∨
        ¬ expected.contractVersions.all (actual.contractVersions.contains ·) ∨
        actual.actions.length ≠ expected.actions.length ∨
        expected.actions.any fun action => !actual.actions.any fun candidate =>
          candidate.id == action.id && candidate.kind == action.kind &&
            candidate.authenticationRequirements == action.authenticationRequirements) ↔
      Corresponds expected actual.binding := by
  have contracts : expected.contractVersions.all (actual.contractVersions.contains ·) = true ↔
      ∀ contract ∈ expected.contractVersions, contract ∈ actual.contractVersions := by
    simp only [List.all_eq_true, List.contains_iff_mem]
  have actions : ¬ (expected.actions.any fun action => !actual.actions.any fun candidate =>
      candidate.id == action.id && candidate.kind == action.kind &&
        candidate.authenticationRequirements == action.authenticationRequirements) = true ↔
          ∀ action ∈ expected.actions, action ∈ actual.binding.actions := by
    have candidates : ∀ action : ExpectedAction, (actual.actions.any fun candidate =>
        candidate.id == action.id && candidate.kind == action.kind &&
          candidate.authenticationRequirements == action.authenticationRequirements) = true ↔
            action ∈ actual.binding.actions := by
      intro action
      simp only [List.any_eq_true, candidate_iff, DiscoveryCapability.binding, List.mem_map]
    rw [List.any_eq_true]
    simp only [not_exists, not_and, Bool.not_eq_true', Bool.not_eq_false, candidates]
  have counted : actual.binding.actions.length = actual.actions.length := List.length_map _
  simp only [not_or]
  rw [not_not, not_not, not_not, not_not, not_not, contracts, actions, ← counted]
  constructor
  · rintro ⟨owner, schema, contractCount, contained, actionCount, performed⟩
    exact ⟨same, owner, schema, perm_of_contained formed.contractsDistinct contractCount contained,
      perm_of_contained (List.Nodup.of_map _ formed.actionsDistinct) actionCount performed⟩
  · rintro ⟨-, owner, schema, contractsSame, actionsSame⟩
    exact ⟨owner, schema, contractsSame.length_eq, fun contract member => contractsSame.mem_iff.mpr member,
      actionsSame.length_eq, fun action member => actionsSame.mem_iff.mpr member⟩

theorem validateBinding_ok {capabilities : List DiscoveryCapability}
    (distinct : (capabilities.map DiscoveryCapability.id).Nodup) {expected : ExpectedCapability}
    (formed : WellFormedCapability expected) :
    validateBinding capabilities expected = .ok () ↔
      ∃ actual ∈ capabilities, Corresponds expected actual.binding := by
  unfold validateBinding
  cases found : capabilities.find? (·.id == expected.id) with
  | none =>
    have absent := List.find?_eq_none.mp found
    apply iff_of_false
    · intro returned
      cases returned
    · rintro ⟨actual, member, related⟩
      have same : actual.id = expected.id := related.id
      exact absent actual member (beq_iff_eq.mpr same)
  | some actual =>
    have member := List.mem_of_find?_eq_some found
    have same : actual.id = expected.id := by simpa using List.find?_some found
    dsimp only
    rw [errorIf_ok, bindings_iff formed same]
    constructor
    · exact fun related => ⟨actual, member, related⟩
    · rintro ⟨other, listed, related⟩
      have sameOther : other.id = actual.id := Eq.trans related.id same.symm
      rw [List.inj_on_of_nodup_map distinct listed member sameOther] at related
      exact related

theorem correspondence_iff {capabilities : List DiscoveryCapability} {expected : List ExpectedCapability}
    (distinct : (capabilities.map DiscoveryCapability.id).Nodup)
    (formed : ∀ capability ∈ expected, WellFormedCapability capability)
    (distinctExpected : (expected.map ExpectedCapability.id).Nodup) :
    capabilities.length = expected.length ∧
        (∀ capability ∈ expected, validateBinding capabilities capability = .ok ()) ↔
      OneToOne Corresponds expected (capabilities.map DiscoveryCapability.binding) := by
  have bindings : (∀ capability ∈ expected, validateBinding capabilities capability = .ok ()) ↔
      ∀ capability ∈ expected, ∃ actual ∈ capabilities.map DiscoveryCapability.binding,
        Corresponds capability actual := by
    apply forall₂_congr
    intro capability member
    rw [validateBinding_ok distinct (formed capability member)]
    simp only [List.mem_map, exists_exists_and_eq_and]
  rw [bindings]
  constructor
  · rintro ⟨length, contained⟩
    apply OneToOne.of_contained ExpectedCapability.id (fun a b related => related.id) distinctExpected ?_ contained
    rw [List.length_map, length]
  · intro related
    refine ⟨?_, related.of_left⟩
    rw [related.length_eq, List.length_map]

end Correspondence

section Acceptance

structure WellFormedExpectations (config : ProviderCatalogConfig) : Prop where
  some : config.expectedCapabilities ≠ []
  bounded : config.expectedCapabilities.length ≤ 64
  distinct : (config.expectedCapabilities.map ExpectedCapability.id).Nodup
  formed : ∀ capability ∈ config.expectedCapabilities, WellFormedCapability capability

theorem ProviderCatalogConfig.validate_formed {isAbsolute : String → Bool} {config : ProviderCatalogConfig}
    (validated : config.validate isAbsolute = .ok ()) : WellFormedExpectations config := by
  rw [validate, catalogThen_ok, catalogThen_ok, errorIf_ok] at validated
  obtain ⟨header, -, loop⟩ := validated
  simp only [not_or, not_not, List.isEmpty_iff, Nat.not_lt] at header
  rw [forEachInserted_ok (fun item passed =>
    Bool.false_ne_true ((validateExpectedCapability_ok _ _).mp passed).1)] at loop
  exact ⟨header.2.2.2.1, header.2.2.2.2, loop.1,
    fun capability member => ((validateExpectedCapability_ok _ _).mp (loop.2.2 capability member)).2⟩

/-- What the catalog is for: an inert, available, pinned and current description of exactly the expected
capabilities. -/
structure Accepts (config : ProviderCatalogConfig) (descriptor : ProviderCapabilityDiscovery) (nowTicks : Int) :
    Prop where
  header : descriptor.schema = discoverySchema ∧ descriptor.descriptionAuthentication = "none" ∧
    descriptor.authorizesExecution = false ∧ descriptor.targetSpecific = false
  available : descriptor.availability.status = .descriptorAvailable
  pinned : descriptor.provider.id = config.expectedProviderId ∧
    descriptor.provider.version = config.expectedProviderVersion
  current : ∃ observed expires, parseTimestamp descriptor.availability.observedAtUtc = .ok observed ∧
    parseTimestamp descriptor.availability.expiresAtUtc = .ok expires ∧ observed ≤ nowTicks ∧
    nowTicks < expires ∧ expires - observed = descriptor.availability.maximumAgeSeconds * 10000000
  aged : 1 ≤ descriptor.availability.maximumAgeSeconds ∧ descriptor.availability.maximumAgeSeconds ≤ 600
  identified : safeDiscoveryIdentifier descriptor.provider.id = true ∧
    semanticVersion descriptor.provider.version = true ∧
    ∀ capability ∈ descriptor.capabilities, WellFormedCapability capability.binding
  excluded : WellFormedExclusions descriptor.exclusions ∧
    ∀ capability ∈ descriptor.capabilities, WellFormedExclusions capability.exclusions
  corresponds : OneToOne Corresponds config.expectedCapabilities
    (descriptor.capabilities.map DiscoveryCapability.binding)

theorem validateFreshness_ok (maximumAgeSeconds : Nat) (observed expires : Int) :
    validateFreshness maximumAgeSeconds observed expires = .ok () ↔
      (1 ≤ maximumAgeSeconds ∧ maximumAgeSeconds ≤ 600) ∧ expires - observed = maximumAgeSeconds * 10000000 := by
  unfold validateFreshness
  by_cases outside : maximumAgeSeconds = 0 ∨ maximumAgeSeconds > 600 ∨ expires ≤ observed
  · rw [if_pos outside]
    apply iff_of_false
    · intro returned
      cases returned
    · omega
  · rw [if_neg outside, exceptBind_ok]
    have maximum : i128 (maximumAgeSeconds * 10000000) = .ok (maximumAgeSeconds * 10000000 : Int) :=
      i128_eq (by omega) (by omega)
    constructor
    · rintro ⟨interval, fits, rest⟩
      rw [maximum, ok_then] at rest
      have measured : interval = expires - observed := by
        unfold i128 signed at fits
        split at fits
        · exact (Except.ok.inj fits).symm
        · cases fits
      rw [errorIf_ok, not_not, measured] at rest
      exact ⟨by omega, rest⟩
    · rintro ⟨-, same⟩
      refine ⟨maximumAgeSeconds * 10000000, by rw [same, maximum], ?_⟩
      rw [maximum, ok_then, errorIf_ok, not_not]

theorem validateDescriptor_ok {config : ProviderCatalogConfig} (expectations : WellFormedExpectations config)
    (descriptor : ProviderCapabilityDiscovery) (nowTicks : Int) :
    validateDescriptor descriptor config nowTicks = .ok () ↔ Accepts config descriptor nowTicks := by
  unfold validateDescriptor
  simp only [exceptBind_ok, exists_unit, errorIf_ok, forM_ok, validateFreshness_ok,
    forEachInserted_ok (fun item passed => Bool.false_ne_true ((validateCapability_ok _ item).mp passed).1),
    validateCapability_ok, boundedExclusions_iff, not_or, not_not, Int.not_lt, Int.not_le, List.not_mem_nil,
    not_false_eq_true, implies_true, true_and, Bool.not_eq_true, Bool.not_eq_false, List.isEmpty_iff,
    Nat.not_lt]
  constructor
  · rintro ⟨header, available, ⟨id, version, pinned⟩, observed, observedParsed, expires, expiresParsed,
      ⟨aged, interval⟩, past, ⟨-, -, -, -, exclusions⟩, ⟨distinct, capabilities⟩, length, bindings, future⟩
    have corresponds := (correspondence_iff distinct expectations.formed expectations.distinct).mp
      ⟨length, bindings⟩
    exact ⟨header, available, pinned, ⟨observed, expires, observedParsed, expiresParsed, past, future, interval⟩,
      aged, ⟨id, version, fun capability member => (capabilities capability member).1⟩,
      ⟨exclusions, fun capability member => (capabilities capability member).2⟩, corresponds⟩
  · rintro ⟨header, available, pinned, ⟨observed, expires, observedParsed, expiresParsed, past, future, interval⟩,
      aged, ⟨id, version, formed⟩, ⟨exclusions, eachExclusions⟩, corresponds⟩
    have length : descriptor.capabilities.length = config.expectedCapabilities.length := by
      rw [corresponds.length_eq, List.length_map]
    have distinct : (descriptor.capabilities.map DiscoveryCapability.id).Nodup := by
      have keys := corresponds.keys ExpectedCapability.id (fun a b related => related.id)
      rw [List.map_map] at keys
      exact keys.symm.nodup expectations.distinct
    have bindings := ((correspondence_iff distinct expectations.formed expectations.distinct).mpr corresponds).2
    have some : descriptor.capabilities ≠ [] := by
      intro none
      rw [none] at length
      exact expectations.some (List.length_eq_zero_iff.mp length.symm)
    have bounded := expectations.bounded
    exact ⟨header, available, ⟨id, version, pinned⟩, observed, observedParsed, expires, expiresParsed,
      ⟨aged, interval⟩, past, ⟨some, length ▸ bounded, exclusions.some, exclusions.bounded, exclusions⟩,
      ⟨distinct, fun capability member => ⟨formed capability member, eachExclusions capability member⟩⟩, length,
      bindings, future⟩

end Acceptance

section Orders

def SameCapability (first second : DiscoveryCapability) : Prop :=
  Corresponds first.binding second.binding ∧ first.exclusions.Perm second.exclusions

/-- The same descriptor with its capabilities, contracts, actions and exclusions in any order. -/
structure Reordered (first second : ProviderCapabilityDiscovery) : Prop where
  header : first.schema = second.schema ∧ first.descriptionAuthentication = second.descriptionAuthentication ∧
    first.authorizesExecution = second.authorizesExecution ∧ first.targetSpecific = second.targetSpecific
  availability : first.availability = second.availability
  provider : first.provider = second.provider
  capabilities : OneToOne SameCapability first.capabilities second.capabilities
  exclusions : first.exclusions.Perm second.exclusions

theorem SameCapability.symm (first second : DiscoveryCapability) (same : SameCapability first second) :
    SameCapability second first :=
  ⟨same.1.symm, same.2.symm⟩

theorem Reordered.symm {first second : ProviderCapabilityDiscovery} (same : Reordered first second) :
    Reordered second first :=
  ⟨⟨same.header.1.symm, same.header.2.1.symm, same.header.2.2.1.symm, same.header.2.2.2.symm⟩,
    same.availability.symm, same.provider.symm, same.capabilities.symm SameCapability.symm, same.exclusions.symm⟩

theorem WellFormedExclusions.perm {first second : List String} (formed : WellFormedExclusions first)
    (same : first.Perm second) : WellFormedExclusions second where
  some none := formed.some (by rw [none] at same; exact same.eq_nil)
  bounded := same.length_eq ▸ formed.bounded
  distinct := same.nodup formed.distinct
  portable value member := formed.portable value (same.mem_iff.mpr member)
  plain value member := formed.plain value (same.mem_iff.mpr member)

theorem WellFormedCapability.of_corresponds {first second : ExpectedCapability}
    (formed : WellFormedCapability first) (same : Corresponds first second) : WellFormedCapability second where
  id := same.id ▸ formed.id
  effectOwner := same.effectOwner ▸ formed.effectOwner
  receiptSchema := same.receiptSchema ▸ formed.receiptSchema
  someContract none := formed.someContract (by have perm := same.contracts; rw [none] at perm; exact perm.nil_eq.symm)
  contractsBounded := same.contracts.length_eq ▸ formed.contractsBounded
  contractsDistinct := same.contracts.symm.nodup formed.contractsDistinct
  contracts contract member := formed.contracts contract (same.contracts.mem_iff.mp member)
  someAction none := formed.someAction (by have perm := same.actions; rw [none] at perm; exact perm.nil_eq.symm)
  actionsBounded := same.actions.length_eq ▸ formed.actionsBounded
  actionsDistinct := (same.actions.map _).symm.nodup formed.actionsDistinct
  actions action member := formed.actions action (same.actions.mem_iff.mp member)

theorem oneToOne_bindings {first second : List DiscoveryCapability} (same : OneToOne SameCapability first second) :
    OneToOne Corresponds (first.map DiscoveryCapability.binding) (second.map DiscoveryCapability.binding) := by
  obtain ⟨arranged, perm, items⟩ := same
  refine ⟨arranged.map DiscoveryCapability.binding, perm.map _, ?_⟩
  rw [List.forall₂_map_left_iff, List.forall₂_map_right_iff]
  exact items.imp fun a b related => related.1

theorem Accepts.reordered {config : ProviderCatalogConfig} {first second : ProviderCapabilityDiscovery}
    {nowTicks : Int} (accepted : Accepts config first nowTicks) (same : Reordered first second) :
    Accepts config second nowTicks where
  header := by
    obtain ⟨schema, authentication, authorizes, target⟩ := same.header
    rw [← schema, ← authentication, ← authorizes, ← target]
    exact accepted.header
  available := same.availability ▸ accepted.available
  pinned := same.provider ▸ accepted.pinned
  current := same.availability ▸ accepted.current
  aged := same.availability ▸ accepted.aged
  identified := by
    refine ⟨same.provider ▸ accepted.identified.1, same.provider ▸ accepted.identified.2.1, ?_⟩
    intro capability member
    obtain ⟨other, listed, related⟩ := same.capabilities.of_right capability member
    exact (accepted.identified.2.2 other listed).of_corresponds related.1
  excluded := by
    refine ⟨accepted.excluded.1.perm same.exclusions, ?_⟩
    intro capability member
    obtain ⟨other, listed, related⟩ := same.capabilities.of_right capability member
    exact (accepted.excluded.2 other listed).perm related.2
  corresponds := accepted.corresponds.trans (fun _ _ _ first next => first.trans next)
    (oneToOne_bindings same.capabilities)

/-- For a configuration that validates, exactly the expected descriptors are accepted, in any order of their lists,
and none with more than expected. -/
theorem descriptor_acceptance_exact (isAbsolute : String → Bool) (config : ProviderCatalogConfig)
    (validated : config.validate isAbsolute = .ok ()) (descriptor : ProviderCapabilityDiscovery) (nowTicks : Int) :
    (validateDescriptor descriptor config nowTicks = .ok () ↔ Accepts config descriptor nowTicks) ∧
      (∀ other, Reordered descriptor other → (validateDescriptor other config nowTicks = .ok () ↔
        validateDescriptor descriptor config nowTicks = .ok ())) ∧
      (validateDescriptor descriptor config nowTicks = .ok () →
        (descriptor.capabilities.map DiscoveryCapability.id).Nodup ∧
          ∀ capability ∈ descriptor.capabilities, ∃ expected ∈ config.expectedCapabilities,
            expected.id = capability.id ∧ capability.contractVersions.Nodup ∧
              (∀ contract, contract ∈ capability.contractVersions ↔ contract ∈ expected.contractVersions) ∧
              (capability.actions.map DiscoveryAction.id).Nodup ∧
              ∀ action, action ∈ capability.actions.map DiscoveryAction.binding ↔ action ∈ expected.actions) := by
  have expectations := ProviderCatalogConfig.validate_formed validated
  refine ⟨validateDescriptor_ok expectations descriptor nowTicks, ?_, ?_⟩
  · intro other same
    rw [validateDescriptor_ok expectations, validateDescriptor_ok expectations]
    constructor
    · exact fun accepted => accepted.reordered same.symm
    · exact fun accepted => accepted.reordered same
  · intro accepted
    rw [validateDescriptor_ok expectations] at accepted
    refine ⟨?_, ?_⟩
    · have keys := accepted.corresponds.keys ExpectedCapability.id (fun a b related => related.id)
      rw [List.map_map] at keys
      exact keys.symm.nodup expectations.distinct
    · intro capability member
      obtain ⟨expected, listed, related⟩ :=
        accepted.corresponds.of_right capability.binding (List.mem_map_of_mem member)
      have formed := accepted.identified.2.2 capability member
      have actionIds := formed.actionsDistinct
      rw [DiscoveryCapability.binding, List.map_map] at actionIds
      exact ⟨expected, listed, related.id.symm, formed.contractsDistinct, fun _ => related.contracts.mem_iff,
        actionIds, fun _ => related.actions.mem_iff⟩

def sampleExpectation : ExpectedCapability where
  id := "quest-connectivity.wireless-adb"
  contractVersions := ["provider_request.v1", "provider_request.v2"]
  actions := [⟨"request_wireless_adb", .effect, [.callerAuthorityExternal, .exactTargetBinding]⟩,
    ⟨"observe_wireless_adb", .observe, [.none]⟩]
  effectOwner := "rusty-kiosk.wireless-adb"
  receiptSchema := "provider_receipt.v1"

def sampleConfig : ProviderCatalogConfig where
  catalogId := "quest-connectivity"
  executablePath := none
  executableSha256 := none
  expectedProviderId := "quest-connectivity-provider"
  expectedProviderVersion := "1.0.0"
  expectedCapabilities := [sampleExpectation]

def sampleCapability : DiscoveryCapability where
  id := "quest-connectivity.wireless-adb"
  contractVersions := ["provider_request.v2", "provider_request.v1"]
  actions := [⟨"observe_wireless_adb", .observe, [.none]⟩,
    ⟨"request_wireless_adb", .effect, [.callerAuthorityExternal, .exactTargetBinding]⟩]
  effectOwner := "rusty-kiosk.wireless-adb"
  receiptSchema := "provider_receipt.v1"
  exclusions := ["no-target-resolution"]

def sampleDescriptor : ProviderCapabilityDiscovery where
  schema := discoverySchema
  provider := ⟨"quest-connectivity-provider", "1.0.0"⟩
  availability := ⟨.descriptorAvailable, "2026-07-27T10:00:00.0000000Z", "2026-07-27T12:05:00+02:00", 300⟩
  descriptionAuthentication := "none"
  authorizesExecution := false
  targetSpecific := false
  capabilities := [sampleCapability]
  exclusions := ["no-execution-grant"]

theorem sampleConfig_validates : sampleConfig.validate (fun _ => false) = .ok () := by
  decide +kernel

theorem sampleDescriptor_accepted : validateDescriptor sampleDescriptor sampleConfig 17851464010000000 = .ok () ∧
    Accepts sampleConfig sampleDescriptor 17851464010000000 := by
  have accepted : validateDescriptor sampleDescriptor sampleConfig 17851464010000000 = .ok () := by decide +kernel
  exact ⟨accepted, (descriptor_acceptance_exact (fun _ => false) sampleConfig sampleConfig_validates sampleDescriptor
    17851464010000000).1.mp accepted⟩

end Orders

end ProviderCatalog

end RustyFleet

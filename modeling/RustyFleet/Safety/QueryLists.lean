import RustyFleet.Hub.Queries
import RustyFleet.Safety.PackageAtomicity

namespace RustyFleet

namespace Queries

open UnicodeLowercase

def singleValued (field : QueryField) : Prop :=
  field ∈ [.deviceId, .displayName, .model, .tag, .freshness, .foregroundApp, .kioskState]

instance (field : QueryField) : Decidable (singleValued field) := inferInstanceAs (Decidable (_ ∈ _))

def fieldTexts (row : DeviceRowProjection) (field : QueryField) (qualifier : Option String) : List String :=
  match field with
  | .deviceId => [row.identity.deviceId]
  | .displayName => [row.identity.displayName]
  | .model => [row.identity.model]
  | .tag => (row.tagText qualifier).toList
  | .freshness => [freshnessText row.freshness]
  | .foregroundApp => row.foregroundApp.toList
  | .kioskState => [row.kioskState]
  | .conditionFamily => row.conditionValues
  | .conditionState => row.conditionStates
  | .batteryPercent | .capability => []

theorem singleValued_texts {field : QueryField} (single : singleValued field) (row : DeviceRowProjection)
    (qualifier : Option String) :
    fieldTexts row field qualifier = [] ∨ ∃ actual, fieldTexts row field qualifier = [actual] := by
  have optional (text : Option String) : text.toList = [] ∨ ∃ actual, text.toList = [actual] := by
    cases text with
    | none => exact .inl rfl
    | some actual => exact .inr ⟨actual, rfl⟩
  cases field with
  | deviceId => exact .inr ⟨_, rfl⟩
  | displayName => exact .inr ⟨_, rfl⟩
  | model => exact .inr ⟨_, rfl⟩
  | tag => exact optional _
  | freshness => exact .inr ⟨_, rfl⟩
  | foregroundApp => exact optional _
  | kioskState => exact .inr ⟨_, rfl⟩
  | batteryPercent => exact .inl rfl
  | capability => exact .inl rfl
  | conditionFamily => exact absurd single (by decide)
  | conditionState => exact absurd single (by decide)

section Predicates

variable [UnicodeLowercase]

theorem evaluatePredicate_texts (field : QueryField) {comparison : Comparison} {value : Option QueryValue}
    (qualifier : Option String) (row : DeviceRowProjection) (compares : comparison ≠ .exists)
    (textual : isTextualValue value = true) :
    evaluatePredicate field comparison value qualifier row =
      (fieldTexts row field qualifier).any fun actual => compareText actual comparison value := by
  have single (actual : String) : compareText actual comparison value =
      [actual].any fun actual => compareText actual comparison value := by
    rw [List.any_cons, List.any_nil, Bool.or_false]
  have optional (text : Option String) : (text.any fun actual => compareText actual comparison value) =
      text.toList.any fun actual => compareText actual comparison value := by
    cases text with
    | none => rfl
    | some actual => exact single actual
  cases field with
  | deviceId => exact single _
  | displayName => exact single _
  | model => exact single _
  | tag => exact optional _
  | freshness => exact single _
  | foregroundApp => exact optional _
  | kioskState => exact single _
  | conditionFamily => rfl
  | conditionState => rfl
  | batteryPercent =>
    have incomparable : compareOptionalInteger (row.batteryPercent.map Int.ofNat) comparison value = false := by
      rcases value with _ | (_ | _ | _ | _) <;> simp [compareOptionalInteger, compares, isTextualValue] at *
    exact incomparable
  | capability =>
    have incomparable (ready : Bool) : compareBool ready comparison value = false := by
      rcases value with _ | (_ | _ | _ | _) <;> simp [compareBool, isTextualValue] at *
    simp [evaluatePredicate, fieldTexts, compares, incomparable]

theorem compareText_equals (actual item : String) :
    compareText actual .equals (some (.text item)) = (toLowercase actual == toLowercase item) := by
  have decided : (compare (toLowercase actual) (toLowercase item) == Ordering.eq) =
      (toLowercase actual == toLowercase item) := by
    rw [Bool.eq_iff_iff, beq_iff_eq, beq_iff_eq]
    exact Std.LawfulEqOrd.compare_eq_iff_eq
  exact decided

theorem compareText_notEquals (actual item : String) :
    compareText actual .notEquals (some (.text item)) = !(toLowercase actual == toLowercase item) := by
  rw [← compareText_equals]
  rfl

theorem compareText_list_equals (actual : String) (values : List String) :
    compareText actual .equals (some (.textList values)) =
      values.any fun item => compareText actual .equals (some (.text item)) := by
  have listed : compareText actual .equals (some (.textList values)) =
      values.any fun item => toLowercase actual == toLowercase item := Bool.or_false _
  simp only [listed, compareText_equals]

theorem compareText_list_notEquals (actual : String) (values : List String) :
    compareText actual .notEquals (some (.textList values)) =
      values.all fun item => compareText actual .notEquals (some (.text item)) := by
  have listed : compareText actual .notEquals (some (.textList values)) =
      !values.any fun item => toLowercase actual == toLowercase item := Bool.false_or _
  simp only [listed, compareText_notEquals, List.not_any_eq_all_not]

def memberPredicates (field : QueryField) (comparison : Comparison) (values : List String)
    (qualifier : Option String) : List QueryExpression :=
  values.map fun item => .predicate field comparison (some (.text item)) qualifier

theorem evaluate_members_or (field : QueryField) {comparison : Comparison} (compares : comparison ≠ .exists)
    (values : List String) (qualifier : Option String) (row : DeviceRowProjection) :
    evaluate row (.or (memberPredicates field comparison values qualifier)) =
      values.any fun item => (fieldTexts row field qualifier).any fun actual =>
        compareText actual comparison (some (.text item)) := by
  rw [evaluate, evaluateAny_eq, memberPredicates, List.any_map]
  congr 1
  funext item
  exact evaluatePredicate_texts field qualifier row compares rfl

theorem evaluate_members_and (field : QueryField) {comparison : Comparison} (compares : comparison ≠ .exists)
    (values : List String) (qualifier : Option String) (row : DeviceRowProjection) :
    evaluate row (.and (memberPredicates field comparison values qualifier)) =
      values.all fun item => (fieldTexts row field qualifier).any fun actual =>
        compareText actual comparison (some (.text item)) := by
  rw [evaluate, evaluateAll_eq, memberPredicates, List.all_map]
  congr 1
  funext item
  exact evaluatePredicate_texts field qualifier row compares rfl

theorem evaluate_list (field : QueryField) {comparison : Comparison} (compares : comparison ≠ .exists)
    (values : List String) (qualifier : Option String) (row : DeviceRowProjection) :
    evaluate row (.predicate field comparison (some (.textList values)) qualifier) =
      (fieldTexts row field qualifier).any fun actual =>
        compareText actual comparison (some (.textList values)) := by
  rw [evaluate]
  exact evaluatePredicate_texts field qualifier row compares rfl

end Predicates

section Meaning

variable [UnicodeLowercase] (row : DeviceRowProjection) (field : QueryField) (comparison : Comparison)
  (values : List String) (qualifier : Option String)

/-- A list of texts asks for any of its members, a negated one for none of them. -/
structure MeansAnyOf : Prop where
  anyOf : comparison = .equals ∨ comparison = .contains →
    evaluate row (.predicate field comparison (some (.textList values)) qualifier) =
      evaluate row (.or (memberPredicates field comparison values qualifier))
  noneOf : comparison = .notEquals → singleValued field →
    evaluate row (.predicate field comparison (some (.textList values)) qualifier) =
      evaluate row (.and (memberPredicates field comparison values qualifier))

/-- Where the evaluator reads a list of texts as its members. -/
structure ReadsMembers : Prop where
  contains : comparison = .contains → ∀ actual ∈ fieldTexts row field qualifier, ∀ item ∈ values,
    containsText (toLowercase actual) (toLowercase item) = false
  notEquals : comparison = .notEquals → singleValued field → values ≠ [] ∨ fieldTexts row field qualifier ≠ []

variable {row field comparison values qualifier}

theorem equals_anyOf :
    evaluate row (.predicate field .equals (some (.textList values)) qualifier) =
      evaluate row (.or (memberPredicates field .equals values qualifier)) := by
  rw [evaluate_list field (by decide), evaluate_members_or field (by decide), Bool.eq_iff_iff]
  simp only [compareText_list_equals, List.any_eq_true]
  constructor
  · rintro ⟨actual, shown, item, member, equal⟩
    exact ⟨item, member, actual, shown, equal⟩
  · rintro ⟨item, member, actual, shown, equal⟩
    exact ⟨actual, shown, item, member, equal⟩

theorem contains_anyOf_iff :
    evaluate row (.predicate field .contains (some (.textList values)) qualifier) =
        evaluate row (.or (memberPredicates field .contains values qualifier)) ↔
      ∀ actual ∈ fieldTexts row field qualifier, ∀ item ∈ values,
        containsText (toLowercase actual) (toLowercase item) = false := by
  have never : evaluate row (.predicate field .contains (some (.textList values)) qualifier) = false := by
    rw [evaluate_list field (by decide), List.any_eq_false]
    exact fun actual _ => Bool.false_ne_true
  rw [never, evaluate_members_or field (by decide)]
  constructor
  · intro none actual shown item member
    have unmatched := List.any_eq_false.mp none.symm item member
    rw [Bool.not_eq_true, List.any_eq_false] at unmatched
    exact Bool.eq_false_of_not_eq_true (unmatched actual shown)
  · intro none
    symm
    rw [List.any_eq_false]
    intro item member
    rw [Bool.not_eq_true, List.any_eq_false]
    intro actual shown
    exact Bool.not_eq_true _ ▸ none actual shown item member

theorem notEquals_noneOf_iff (single : singleValued field) :
    evaluate row (.predicate field .notEquals (some (.textList values)) qualifier) =
        evaluate row (.and (memberPredicates field .notEquals values qualifier)) ↔
      values ≠ [] ∨ fieldTexts row field qualifier ≠ [] := by
  rw [evaluate_list field (by decide), evaluate_members_and field (by decide)]
  rcases singleValued_texts single row qualifier with none | ⟨actual, one⟩
  · cases values with
    | nil => simp [none]
    | cons item rest => simp [none]
  · simp [one, compareText_list_notEquals]

/-- A list predicate means its members exactly where the evaluator reads them. -/
theorem text_list_means_any_of_iff :
    MeansAnyOf row field comparison values qualifier ↔ ReadsMembers row field comparison values qualifier := by
  constructor
  · intro means
    constructor
    · rintro rfl
      exact contains_anyOf_iff.mp (means.anyOf (.inr rfl))
    · rintro rfl single
      exact (notEquals_noneOf_iff single).mp (means.noneOf rfl single)
  · intro reads
    constructor
    · rintro (rfl | rfl)
      · exact equals_anyOf
      · exact contains_anyOf_iff.mpr (reads.contains rfl)
    · rintro rfl single
      exact (notEquals_noneOf_iff single).mpr (reads.notEquals rfl single)

end Meaning

/-- The row of a headset whose model is `quest-3`. -/
def questRow : DeviceRowProjection :=
  (FleetHub.new PackageSafety.samplePolicy).row
    { observation := PackageSafety.readyObservation "d1"
      acceptedAtMs := 1000
      acceptedRevision := 1
      conditionHistory := []
      seenSourceEpochs := [] } 2000

/-- A list of parts of the model validates, and matches no row that a part alone matches. -/
theorem contains_list_matches_nothing : ∃ _ : UnicodeLowercase,
    QueryExpression.validateInto "expression"
        (.predicate .model .contains (some (.textList ["quest", "neo"])) none) = [] ∧
      evaluate questRow (.predicate .model .contains (some (.text "quest")) none) = true ∧
      ¬ MeansAnyOf questRow .model .contains ["quest", "neo"] none := by
  refine ⟨PackageSafety.sampleEnvironment.toUnicodeLowercase, by decide, by decide, ?_⟩
  intro means
  have listed := @MeansAnyOf.anyOf PackageSafety.sampleEnvironment.toUnicodeLowercase _ _ _ _ _ means (.inr rfl)
  revert listed
  decide

end Queries

end RustyFleet

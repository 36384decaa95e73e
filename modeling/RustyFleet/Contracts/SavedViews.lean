import RustyFleet.Contracts.Violation

namespace RustyFleet

inductive QueryField
  | deviceId | displayName | model | tag | freshness | batteryPercent | foregroundApp | kioskState
  | capability | conditionFamily | conditionState
deriving DecidableEq, Repr

inductive Comparison
  | equals | notEquals | contains | lessThan | lessThanOrEqual | greaterThan | greaterThanOrEqual
  | exists
deriving DecidableEq, Repr

inductive QueryValue
  | text (value : String)
  | integer (value : Int)
  | boolean (value : Bool)
  | textList (values : List String)
deriving DecidableEq, Repr

inductive QueryExpression
  | predicate (field : QueryField) (comparison : Comparison) (value : Option QueryValue)
      (qualifier : Option String)
  | and (expressions : List QueryExpression)
  | or (expressions : List QueryExpression)
  | not (expression : QueryExpression)

mutual

def QueryExpression.decEq (a b : QueryExpression) : Decidable (a = b) :=
  match a, b with
  | .predicate f c v q, .predicate f' c' v' q' =>
    decidable_of_iff (f = f' ∧ c = c' ∧ v = v' ∧ q = q') (by simp)
  | .and xs, .and ys => have := termsDecEq xs ys; decidable_of_iff (xs = ys) (by simp)
  | .or xs, .or ys => have := termsDecEq xs ys; decidable_of_iff (xs = ys) (by simp)
  | .not x, .not y => have := QueryExpression.decEq x y; decidable_of_iff (x = y) (by simp)
  | .predicate .., .and _ | .predicate .., .or _ | .predicate .., .not _
  | .and _, .predicate .. | .and _, .or _ | .and _, .not _
  | .or _, .predicate .. | .or _, .and _ | .or _, .not _
  | .not _, .predicate .. | .not _, .and _ | .not _, .or _ => isFalse (by simp)

def termsDecEq (xs ys : List QueryExpression) : Decidable (xs = ys) :=
  match xs, ys with
  | [], [] => isTrue rfl
  | x :: xs, y :: ys =>
    have := QueryExpression.decEq x y
    have := termsDecEq xs ys
    decidable_of_iff (x = y ∧ xs = ys) (by simp)
  | [], _ :: _ | _ :: _, [] => isFalse (by simp)

end

instance : DecidableEq QueryExpression := QueryExpression.decEq

def queryValueIsBounded : QueryValue → Bool
  | .text value => value.utf8ByteSize ≤ 1024
  | .integer _ | .boolean _ => true
  | .textList values => values.length ≤ 10000 && values.all (·.utf8ByteSize ≤ 1024)

def isIntegerValue : Option QueryValue → Bool
  | some (.integer _) => true
  | _ => false

def isBooleanValue : Option QueryValue → Bool
  | some (.boolean _) => true
  | _ => false

def isTextualValue : Option QueryValue → Bool
  | some (.text _) | some (.textList _) => true
  | _ => false

def predicateValueIsCompatible (field : QueryField) (comparison : Comparison)
    (value : Option QueryValue) : Bool :=
  if comparison = .exists then value.isNone
  else match field with
    | .batteryPercent =>
      isIntegerValue value && [.equals, .notEquals, .lessThan, .lessThanOrEqual, .greaterThan,
        .greaterThanOrEqual].contains comparison
    | .capability => isBooleanValue value && [.equals, .notEquals].contains comparison
    | .deviceId | .displayName | .model | .tag | .freshness | .foregroundApp | .kioskState
    | .conditionFamily | .conditionState =>
      isTextualValue value && [.equals, .notEquals, .contains].contains comparison

def predicateViolations (path : String) (field : QueryField) (comparison : Comparison)
    (value : Option QueryValue) (qualifier : Option String) : List ContractViolation :=
  violationIf (comparison = .exists ∧ value.isSome)
    "unexpected_query_value" path "exists predicates must not carry a value" ++
  violationIf (comparison ≠ .exists ∧ value.isNone)
    "missing_query_value" path "non-exists predicates require a value" ++
  violationIf (qualifier.any trimmedEmpty)
    "empty_qualifier" path "query qualifier must not be empty" ++
  violationIf ((field = .tag ∨ field = .capability) ∧ qualifier = none)
    "missing_qualifier" path "tag and capability predicates require a qualifier" ++
  violationIf (¬ (field = .tag ∨ field = .capability) ∧ qualifier.isSome)
    "unexpected_qualifier" path "this query field does not accept a qualifier" ++
  violationIf (¬ predicateValueIsCompatible field comparison value)
    "incompatible_query_value" path "query value type or comparison is incompatible with the field" ++
  violationIf (value.any fun value => !queryValueIsBounded value)
    "query_value_too_large" path "query text is limited to 1024 characters and lists to 10000 values"

mutual

def QueryExpression.validateInto (path : String) : QueryExpression → List ContractViolation
  | .predicate field comparison value qualifier =>
    predicateViolations path field comparison value qualifier
  | .and expressions => termViolations path expressions ++ validateTerms path 0 expressions
  | .or expressions => termViolations path expressions ++ validateTerms path 0 expressions
  | .not expression => expression.validateInto (path ++ ".expression")

def validateTerms (path : String) (index : Nat) : List QueryExpression → List ContractViolation
  | [] => []
  | expression :: rest =>
    expression.validateInto (path ++ ".expressions[" ++ toString index ++ "]") ++
      validateTerms path (index + 1) rest

def termViolations (path : String) : List QueryExpression → List ContractViolation
  | _ :: _ :: _ => []
  | _ => [⟨"insufficient_query_terms", path, "and/or expressions require at least two terms"⟩]

end

mutual

/-- The number of nodes of an expression and its greatest depth. -/
def QueryExpression.shape (depth : Nat) : QueryExpression → Nat × Nat
  | .predicate .. => (1, depth)
  | .and expressions => termsShape depth (1, depth) expressions
  | .or expressions => termsShape depth (1, depth) expressions
  | .not expression => ((expression.shape (depth + 1)).1 + 1, (expression.shape (depth + 1)).2)

def termsShape (depth : Nat) (accumulator : Nat × Nat) : List QueryExpression → Nat × Nat
  | [] => accumulator
  | expression :: rest =>
    termsShape depth (accumulator.1 + (expression.shape (depth + 1)).1,
      max accumulator.2 (expression.shape (depth + 1)).2) rest

end

inductive SortDirection
  | ascending | descending
deriving DecidableEq, Repr

structure SortKey where
  field : QueryField
  direction : SortDirection
  qualifier : Option String
deriving DecidableEq

def SortKey.violations (index : Nat) (key : SortKey) : List ContractViolation :=
  let path := "sort[" ++ toString index ++ "].qualifier"
  violationIf (key.qualifier.any trimmedEmpty)
    "empty_qualifier" path "sort qualifier must not be empty" ++
  violationIf (key.field = .tag ∧ key.qualifier = none)
    "missing_qualifier" path "tag sorting requires a qualifier" ++
  violationIf (key.field ≠ .tag ∧ key.qualifier.isSome)
    "unexpected_qualifier" path "only tag sorting accepts a qualifier"

structure FleetQuery where
  schema : String
  queryId : String
  expression : Option QueryExpression
  sort : List SortKey
  offset : Nat
  limit : Nat
deriving DecidableEq

def expressionViolations (expression : QueryExpression) : List ContractViolation :=
  expression.validateInto "expression" ++
  violationIf ((expression.shape 1).1 > 256 ∨ (expression.shape 1).2 > 16)
    "query_shape_exceeded" "expression" "queries support at most 256 nodes and 16 levels"

instance : ValidateContract FleetQuery where
  violations query :=
    violationIf (query.schema ≠ "rusty.fleet.query.v1")
      "wrong_schema" "schema" "expected rusty.fleet.query.v1" ++
    requireNonempty query.queryId "query_id" ++
    violationIf (query.limit = 0 ∨ query.limit > 10000)
      "invalid_window" "limit" "query limit must be between 1 and 10000" ++
    (query.expression.map expressionViolations).getD [] ++
    violationIf (query.sort.length > 8)
      "too_many_sort_keys" "sort" "queries support at most eight sort keys" ++
    query.sort.zipIdx.flatMap fun (key, index) => key.violations index

structure NavigationRestoration where
  selectedDeviceId : Option String
  inspectorTab : Option String
  scrollAnchorDeviceId : Option String
  focusedRegion : Option String
  collapsedGroups : List String
deriving DecidableEq

/-- The optional texts of a restoration that are present. -/
def NavigationRestoration.texts (restoration : NavigationRestoration) : List String :=
  [restoration.selectedDeviceId, restoration.inspectorTab, restoration.scrollAnchorDeviceId,
    restoration.focusedRegion].filterMap id

structure SavedView where
  schema : String
  viewId : String
  name : String
  query : FleetQuery
  columns : List String
  density : String
  grouping : Option String
  restoration : NavigationRestoration
  schemaVersion : Nat
deriving DecidableEq

def splitSegments (separator : Char) : List Char → List (List Char)
  | [] => [[]]
  | c :: rest =>
    if c = separator then [] :: splitSegments separator rest
    else match splitSegments separator rest with
      | [] => [[c]]
      | segment :: segments => (c :: segment) :: segments

theorem mem_splitSegments (separator : Char) {c : Char} {value : List Char} (member : c ∈ value) :
    c = separator ∨ ∃ segment ∈ splitSegments separator value, c ∈ segment := by
  induction value with
  | nil => cases member
  | cons first rest ih =>
    unfold splitSegments
    by_cases stop : first = separator
    · rw [if_pos stop]
      rcases List.mem_cons.mp member with rfl | later
      · exact .inl stop
      · rcases ih later with same | ⟨segment, listed, inside⟩
        · exact .inl same
        · exact .inr ⟨segment, List.mem_cons_of_mem _ listed, inside⟩
    · rw [if_neg stop]
      cases split : splitSegments separator rest with
      | nil =>
        rcases List.mem_cons.mp member with rfl | later
        · exact .inr ⟨_, List.mem_singleton_self _, List.mem_singleton_self _⟩
        · rcases ih later with same | ⟨segment, listed, inside⟩
          · exact .inl same
          · rw [split] at listed
            cases listed
      | cons segment segments =>
        rcases List.mem_cons.mp member with rfl | later
        · exact .inr ⟨_, List.mem_cons_self, List.mem_cons_self⟩
        · rcases ih later with same | ⟨other, listed, inside⟩
          · exact .inl same
          · rw [split] at listed
            rcases List.mem_cons.mp listed with rfl | further
            · exact .inr ⟨_, List.mem_cons_self, List.mem_cons_of_mem _ inside⟩
            · exact .inr ⟨other, List.mem_cons_of_mem _ further, inside⟩

theorem of_mem_splitSegments (separator : Char) {c : Char} {value segment : List Char}
    (listed : segment ∈ splitSegments separator value) (inside : c ∈ segment) : c ∈ value := by
  induction value generalizing segment with
  | nil =>
    rw [List.mem_singleton.mp listed] at inside
    cases inside
  | cons first rest ih =>
    unfold splitSegments at listed
    by_cases stop : first = separator
    · rw [if_pos stop] at listed
      rcases List.mem_cons.mp listed with rfl | later
      · cases inside
      · exact List.mem_cons_of_mem _ (ih later inside)
    · rw [if_neg stop] at listed
      cases split : splitSegments separator rest with
      | nil =>
        rw [split] at listed
        rw [List.mem_singleton.mp listed] at inside
        rw [List.mem_singleton.mp inside]
        exact List.mem_cons_self
      | cons next others =>
        rw [split] at listed
        rcases List.mem_cons.mp listed with rfl | later
        · rcases List.mem_cons.mp inside with rfl | within
          · exact List.mem_cons_self
          · apply List.mem_cons_of_mem
            apply ih _ within
            rw [split]
            exact List.mem_cons_self
        · apply List.mem_cons_of_mem
          apply ih _ inside
          rw [split]
          exact List.mem_cons_of_mem _ later

def isSavedViewIdEdge (value : Char) : Bool := asciiLowercase value || asciiDigit value

def isSavedViewIdBody (value : Char) : Bool := isSavedViewIdEdge value || value == '_' || value == '-'

def isValidSavedViewId (value : String) : Bool :=
  !value.isEmpty && value.utf8ByteSize ≤ 128 &&
    (splitSegments '.' value.toList).all fun segment =>
      !segment.isEmpty && segment.head?.any isSavedViewIdEdge && segment.getLast?.any isSavedViewIdEdge &&
        segment.all isSavedViewIdBody

instance : ValidateContract SavedView where
  violations view :=
    violationIf (view.schema ≠ "rusty.fleet.saved_view.v1")
      "wrong_schema" "schema" "expected rusty.fleet.saved_view.v1" ++
    requireNonempty view.viewId "view_id" ++
    requireNonempty view.name "name" ++
    requireNonempty view.density "density" ++
    violationIf (¬ isValidSavedViewId view.viewId)
      "invalid_saved_view_id" "view_id" "saved-view ID must use lowercase dotted-ID grammar" ++
    violationIf (view.name.utf8ByteSize > 256 ∨ view.density.utf8ByteSize > 32 ∨
        view.grouping.any (·.utf8ByteSize > 128) ∨ view.restoration.texts.any (·.utf8ByteSize > 128))
      "saved_view_text_too_large" "saved_view"
      "saved-view identity, display, grouping, and restoration text is bounded" ++
    violationIf (view.grouping.any trimmedEmpty ∨ view.restoration.texts.any trimmedEmpty)
      "invalid_saved_view_text" "saved_view"
      "optional saved-view grouping and restoration text must be nonempty when present" ++
    violationIf (view.columns.length > 64 ∨ view.restoration.collapsedGroups.length > 512)
      "saved_view_too_large" "saved_view"
      "saved-view column and collapsed-group limits were exceeded" ++
    violationIf (view.columns.any (fun value => trimmedEmpty value || value.utf8ByteSize > 128) ∨
        view.restoration.collapsedGroups.any fun value => trimmedEmpty value || value.utf8ByteSize > 128)
      "invalid_saved_view_item" "saved_view"
      "saved-view columns and collapsed groups must contain bounded nonempty text" ++
    violationIf (¬ view.columns.Nodup ∨ ¬ view.restoration.collapsedGroups.Nodup)
      "duplicate_saved_view_item" "saved_view"
      "saved-view columns and collapsed groups must be unique" ++
    violationIf (view.density ∉ ["compact", "standard", "comfortable"])
      "invalid_saved_view_density" "density"
      "saved-view density must be compact, standard, or comfortable" ++
    violationIf (view.schemaVersion = 0)
      "invalid_schema_version" "schema_version" "schema version must be greater than zero" ++
    (violations view.query).map (·.within "query.")

structure SavedViewCollection where
  schema : String
  revision : Nat
  views : List SavedView
deriving DecidableEq

/-- One pass over the views, remembering the id of the one before. -/
def savedViewsViolations (prior : Option String) (index : Nat) : List SavedView → List ContractViolation
  | [] => []
  | view :: rest =>
    (violations view).map (·.within ("views[" ++ toString index ++ "].")) ++
    violationIf (prior.any fun prior => decide (view.viewId ≤ prior))
      "saved_views_not_canonical" "views" "saved views must be unique and ordered by view_id" ++
    savedViewsViolations (some view.viewId) (index + 1) rest

instance : ValidateContract SavedViewCollection where
  violations collection :=
    violationIf (collection.schema ≠ "rusty.fleet.saved_view_collection.v1")
      "wrong_schema" "schema" "expected rusty.fleet.saved_view_collection.v1" ++
    violationIf (collection.revision = 0)
      "invalid_revision" "revision" "saved-view collection revision must be greater than zero" ++
    violationIf (collection.views.length > 128)
      "saved_view_collection_too_large" "views" "saved-view collections are limited to 128 entries" ++
    savedViewsViolations none 0 collection.views

structure SavedViewMutationRequest where
  schema : String
  expectedRevision : Nat
  view : SavedView
deriving DecidableEq

instance : ValidateContract SavedViewMutationRequest where
  violations request :=
    violationIf (request.schema ≠ "rusty.fleet.saved_view_mutation_request.v1")
      "wrong_schema" "schema" "expected rusty.fleet.saved_view_mutation_request.v1" ++
    violationIf (request.expectedRevision = 0)
      "invalid_revision" "expected_revision"
      "expected saved-view revision must be greater than zero" ++
    (violations request.view).map (·.within "view.")

structure SavedViewMutationReceipt where
  schema : String
  viewId : String
  previousRevision : Nat
  currentRevision : Nat
  changed : Bool
  deleted : Bool
  view : Option SavedView
deriving DecidableEq

def receiptViewViolations (viewId : String) (view : SavedView) : List ContractViolation :=
  violationIf (view.viewId ≠ viewId)
    "saved_view_identity_mismatch" "view.view_id" "receipt view identity must match view_id" ++
  (violations view).map (·.within "view.")

instance : ValidateContract SavedViewMutationReceipt where
  violations receipt :=
    violationIf (receipt.schema ≠ "rusty.fleet.saved_view_mutation_receipt.v1")
      "wrong_schema" "schema" "expected rusty.fleet.saved_view_mutation_receipt.v1" ++
    requireNonempty receipt.viewId "view_id" ++
    violationIf (¬ isValidSavedViewId receipt.viewId ∨ receipt.previousRevision = 0 ∨
        receipt.currentRevision < receipt.previousRevision ∨
        receipt.currentRevision > saturatingSucc receipt.previousRevision ∨
        (receipt.changed ∧ receipt.currentRevision = receipt.previousRevision) ∨
        (¬ receipt.changed ∧ receipt.currentRevision ≠ receipt.previousRevision) ∨
        (receipt.deleted ∧ ¬ receipt.changed) ∨ receipt.deleted ≠ receipt.view.isNone)
      "invalid_saved_view_receipt" "receipt"
      "saved-view receipt revision, deletion, or payload state is inconsistent" ++
    (receipt.view.map (receiptViewViolations receipt.viewId)).getD []

end RustyFleet

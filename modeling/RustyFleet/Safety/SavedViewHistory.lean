import RustyFleet.Hub.Frames
import RustyFleet.Support.Ledger

namespace RustyFleet

def SavedViewCall.expectedRevision : SavedViewCall → Nat
  | .upsert request => request.expectedRevision
  | .delete _ expectedRevision => expectedRevision

def SavedViewCall.viewId : SavedViewCall → String
  | .upsert request => request.view.viewId
  | .delete viewId _ => viewId

def SavedViewCall.view : SavedViewCall → Option SavedView
  | .upsert request => some request.view
  | .delete _ _ => none

namespace SavedViewSafety

variable {hub next : FleetHub}

structure SavedViewHub (hub : FleetHub) : Prop where
  ledger : Ledger.Sound (·.viewId) maxSavedViews Valid hub.savedViews
  positive : 0 < hub.savedViewRevision
  bounded : hub.savedViewRevision ≤ u64Max

/-- What an accepted request does, and what its receipt says about it. -/
structure Transition (hub next : FleetHub) (call : SavedViewCall) (receipt : SavedViewMutationReceipt) :
    Prop where
  expected : call.expectedRevision = hub.savedViewRevision
  sound : Valid receipt
  addressed : receipt.viewId = call.viewId ∧ receipt.view = call.view ∧
    (receipt.deleted = true ↔ call.view = none)
  revisions : receipt.previousRevision = hub.savedViewRevision ∧
    receipt.currentRevision = next.savedViewRevision
  stored : ∀ viewId : String, next.savedViews[viewId]? =
    if viewId = call.viewId then call.view else hub.savedViews[viewId]?
  changed : receipt.changed = true ↔ next.savedViews ≠ hub.savedViews
  grown : next.savedViewRevision = hub.savedViewRevision + if receipt.changed then 1 else 0

theorem edge_visible {first : Char} (edge : isSavedViewIdEdge first = true) : isWhitespace first = false := by
  simp only [isSavedViewIdEdge, asciiLowercase, asciiDigit, Bool.or_eq_true, Bool.and_eq_true,
    decide_eq_true_eq, Char.le_def, UInt32.le_iff_toNat_le] at edge
  have low : 48 ≤ first.toNat ∧ first.toNat ≤ 122 := by
    rcases edge with ⟨lower, upper⟩ | ⟨lower, upper⟩
    · exact ⟨Nat.le_trans (by decide) lower, Nat.le_trans upper (by decide)⟩
    · exact ⟨Nat.le_trans (by decide) lower, Nat.le_trans upper (by decide)⟩
  obtain ⟨lower, upper⟩ := low
  simp only [isWhitespace, Bool.or_eq_false_iff, Bool.and_eq_false_iff, decide_eq_false_iff_not, beq_eq_false_iff_ne]
  omega

theorem first_segment (first : Char) (rest : List Char)
    (segments : ∀ segment ∈ splitSegments '.' (first :: rest),
      segment.head?.any isSavedViewIdEdge = true) : isSavedViewIdEdge first = true := by
  rw [splitSegments] at segments
  split at segments
  · have empty := segments [] List.mem_cons_self
    cases empty
  · split at segments
    · exact segments [first] List.mem_cons_self
    · exact segments _ List.mem_cons_self

theorem validId_nonempty {viewId : String} (valid : isValidSavedViewId viewId = true) :
    trimmedEmpty viewId = false := by
  simp only [isValidSavedViewId, Bool.and_eq_true, List.all_eq_true] at valid
  obtain ⟨_, segments⟩ := valid
  cases text : viewId.toList with
  | nil =>
    rw [text] at segments
    have empty := segments [] List.mem_cons_self
    simp at empty
  | cons first rest =>
    rw [text] at segments
    have edge := first_segment first rest fun segment member => (segments segment member).1.1.2
    simp only [trimmedEmpty, text, List.all_cons, edge_visible edge, Bool.false_and]

theorem ordered_views_valid (prior : Option String) (index : Nat) (views : List SavedView)
    (each : ∀ view ∈ views, Valid view)
    (ordered : views.Pairwise fun a b => compare a.viewId b.viewId = .lt)
    (after : ∀ id, prior = some id → ∀ view ∈ views, compare id view.viewId = .lt) :
    savedViewsViolations prior index views = [] := by
  induction views generalizing prior index with
  | nil => rfl
  | cons view rest ih =>
    obtain ⟨before, orderedRest⟩ := List.pairwise_cons.mp ordered
    simp only [savedViewsViolations, List.append_eq_nil_iff, List.map_eq_nil_iff, violationIf_nil]
    refine ⟨⟨each view List.mem_cons_self, ?_⟩, ?_⟩
    · cases prior with
      | none => simp
      | some id =>
        have less : id < view.viewId := compareOfLessAndEq_eq_lt.mp (after id rfl view List.mem_cons_self)
        simpa using less
    · refine ih (some view.viewId) (index + 1) (fun one member => each one (List.mem_cons_of_mem _ member))
        orderedRest fun id same one member => ?_
      cases same
      exact before one member

theorem SavedViewHub.collection (sound : SavedViewHub hub) : Valid hub.savedViewCollection := by
  have each : ∀ view ∈ BTreeMap.storedValues hub.savedViews, Valid view := by
    intro view member
    obtain ⟨key, stored⟩ := (BTreeMap.mem_storedValues_iff _ _).mp member
    exact sound.ledger.accepted key view stored
  have counted : (BTreeMap.storedValues hub.savedViews).length ≤ 128 := by
    rw [BTreeMap.storedValues, List.length_map, Std.ExtTreeMap.length_toList]
    exact sound.ledger.bounded
  have positive := sound.positive
  simp only [Valid, violations, FleetHub.savedViewCollection, List.append_eq_nil_iff, violationIf_nil, ne_eq,
    not_true_eq_false, not_false_eq_true, true_and]
  refine ⟨⟨(violationIf_nil _ _ _ _).mpr ?_, (violationIf_nil _ _ _ _).mpr ?_⟩,
    ordered_views_valid none 0 _ each sound.ledger.ordered fun id same => by cases same⟩
  · omega
  · omega

theorem checkedSucc_some {counter succ : Nat} (checked : checkedSucc counter = some succ) :
    counter < u64Max ∧ succ = counter + 1 := by
  unfold checkedSucc at checked
  split at checked
  · rename_i room
    exact ⟨room, (Option.some.inj checked).symm⟩
  · cases checked

theorem receipt_valid {receipt : SavedViewMutationReceipt}
    (schema : receipt.schema = "rusty.fleet.saved_view_mutation_receipt.v1")
    (named : isValidSavedViewId receipt.viewId = true) (positive : 0 < receipt.previousRevision)
    (bounded : receipt.currentRevision ≤ u64Max)
    (grown : receipt.currentRevision = receipt.previousRevision + if receipt.changed then 1 else 0)
    (deleted : receipt.deleted = receipt.view.isNone)
    (removed : receipt.deleted = true → receipt.changed = true)
    (carried : ∀ view, receipt.view = some view → view.viewId = receipt.viewId ∧ Valid view) :
    Valid receipt := by
  have steps : receipt.previousRevision ≤ receipt.currentRevision ∧
      receipt.currentRevision ≤ saturatingSucc receipt.previousRevision := by
    rw [saturatingSucc]
    split at grown <;> omega
  have moved : receipt.changed = true → receipt.currentRevision ≠ receipt.previousRevision := by
    intro changed
    rw [if_pos changed] at grown
    omega
  have stayed : ¬ receipt.changed = true → receipt.currentRevision = receipt.previousRevision := by
    intro same
    rw [if_neg same] at grown
    exact grown
  have payload : (receipt.view.map (receiptViewViolations receipt.viewId)).getD [] = [] := by
    cases present : receipt.view with
    | none => rfl
    | some view =>
      obtain ⟨same, valid⟩ := carried view present
      simp only [Option.map_some, Option.getD_some, receiptViewViolations, List.append_eq_nil_iff,
        violationIf_nil, ne_eq, not_not, List.map_eq_nil_iff]
      exact ⟨same, valid⟩
  simp only [Valid, violations, List.append_eq_nil_iff, violationIf_nil, requireNonempty_nil, not_or, not_and,
    ne_eq, not_not, Nat.not_lt, gt_iff_lt]
  exact ⟨⟨⟨schema, validId_nonempty named⟩, named, by omega, steps.1, steps.2, moved, stayed, removed,
    deleted⟩, payload⟩

theorem upsertedRevision_ok (view : SavedView) (revision : Nat) :
    hub.upsertedRevision view = .ok revision →
      (hub.savedViews[view.viewId]? = some view ∧ revision = hub.savedViewRevision) ∨
      (hub.savedViews[view.viewId]? ≠ some view ∧
        ((∃ prior, hub.savedViews[view.viewId]? = some prior) ∨ hub.savedViews.size < maxSavedViews) ∧
        hub.savedViewRevision < u64Max ∧ revision = hub.savedViewRevision + 1) := by
  intro upserted
  unfold FleetHub.upsertedRevision at upserted
  split at upserted
  · rename_i same
    cases upserted
    exact .inl ⟨same, rfl⟩
  · rename_i differs
    simp only [exceptBind_ok, errorIf_ok, orError_ok] at upserted
    obtain ⟨_, room, checked⟩ := upserted
    obtain ⟨below, grown⟩ := checkedSucc_some checked
    refine .inr ⟨differs, ?_, below, grown⟩
    by_cases present : hub.savedViews.contains view.viewId = true
    · exact .inl (Option.isSome_iff_exists.mp (by rwa [← Std.ExtTreeMap.contains_eq_isSome_getElem?]))
    · exact .inr (Nat.not_le.mp fun full => room ⟨present, full⟩)

theorem view_id {view : SavedView} (valid : Valid view) : isValidSavedViewId view.viewId = true := by
  simp only [Valid, violations, List.append_eq_nil_iff, violationIf_nil, not_not] at valid
  obtain ⟨⟨⟨⟨⟨⟨⟨⟨⟨_, named⟩, _⟩, _⟩, _⟩, _⟩, _⟩, _⟩, _⟩, _⟩ := valid
  exact named

theorem request_view {request : SavedViewMutationRequest} (valid : Valid request) : Valid request.view := by
  have parts : _ ++ (violations request.view).map (·.within "view.") = [] := valid
  exact List.map_eq_nil_iff.mp (List.append_eq_nil_iff.mp parts).2

theorem upsertChecks_ok {request : SavedViewMutationRequest} {revision : Nat}
    (checked : hub.upsertChecks request = .ok revision) :
    Valid request.view ∧ request.expectedRevision = hub.savedViewRevision ∧
      hub.upsertedRevision request.view = .ok revision := by
  simp only [FleetHub.upsertChecks, exceptBind_ok, errorIf_ok, ne_eq, not_not] at checked
  obtain ⟨_, valid, _, current, upserted⟩ := checked
  exact ⟨request_view valid, current, upserted⟩

theorem deleteChecks_ok {viewId : String} {expectedRevision revision : Nat}
    (checked : hub.deleteChecks viewId expectedRevision = .ok revision) :
    isValidSavedViewId viewId = true ∧ expectedRevision = hub.savedViewRevision ∧
      hub.savedViewRevision < u64Max ∧ revision = hub.savedViewRevision + 1 ∧
      ∃ view, hub.savedViews[viewId]? = some view := by
  simp only [FleetHub.deleteChecks, exceptBind_ok, errorIf_ok, orError_ok, exceptPure_ok, not_or, ne_eq, not_not]
    at checked
  obtain ⟨_, ⟨named, _⟩, _, current, _, succeeds, _, present, rfl⟩ := checked
  obtain ⟨below, grown⟩ := checkedSucc_some succeeds
  rw [Std.ExtTreeMap.contains_eq_isSome_getElem?] at present
  exact ⟨named, current, below, grown, Option.isSome_iff_exists.mp present⟩

theorem assertedReceipt_valid {receipt : SavedViewMutationReceipt} (valid : Valid receipt) :
    FleetHub.assertedReceipt receipt = .ok receipt := by
  simp only [FleetHub.assertedReceipt, exceptBind_ok, errorIf_ok, not_not]
  exact ⟨(), valid, rfl⟩

def Accepted (hub : FleetHub) (call : SavedViewCall) : Prop :=
  ∃ receipt, (hub.handleSavedView call).1 = .ok receipt ∧
    Transition hub (hub.handleSavedView call).2 call receipt ∧ SavedViewHub (hub.handleSavedView call).2

def Refused (hub : FleetHub) (call : SavedViewCall) : Prop :=
  returnsErr (hub.handleSavedView call).1 = true ∧ (hub.handleSavedView call).2 = hub

theorem refused_upsert {request : SavedViewMutationRequest} {fault : HubFault}
    (failed : hub.upsertChecks request = .error fault) : Refused hub (.upsert request) := by
  have refuses : OnlyRefuses (hub.upsertChecks request) := by
    unfold FleetHub.upsertChecks
    refine onlyRefuses_bind (onlyRefuses_rejectIf _ _ _) fun _ => ?_
    refine onlyRefuses_bind (onlyRefuses_rejectIf _ _ _) fun _ => ?_
    unfold FleetHub.upsertedRevision
    split
    · exact onlyRefuses_pure _
    · exact onlyRefuses_bind (onlyRefuses_rejectIf _ _ _) fun _ => onlyRefuses_orRefuse _ _ _
  simp only [Refused, FleetHub.handleSavedView, FleetHub.upsertSavedView, failed, and_true]
  cases fault with
  | hubError error => rfl
  | panicked text => exact absurd failed (refuses text)

theorem refused_delete {viewId : String} {expectedRevision : Nat} {fault : HubFault}
    (failed : hub.deleteChecks viewId expectedRevision = .error fault) :
    Refused hub (.delete viewId expectedRevision) := by
  have refuses : OnlyRefuses (hub.deleteChecks viewId expectedRevision) := by
    unfold FleetHub.deleteChecks
    refine onlyRefuses_bind (onlyRefuses_rejectIf _ _ _) fun _ => ?_
    refine onlyRefuses_bind (onlyRefuses_rejectIf _ _ _) fun _ => ?_
    refine onlyRefuses_bind (onlyRefuses_orRefuse _ _ _) fun _ => ?_
    exact onlyRefuses_bind (onlyRefuses_rejectIf _ _ _) fun _ => onlyRefuses_pure _
  simp only [Refused, FleetHub.handleSavedView, FleetHub.deleteSavedView, failed, and_true]
  cases fault with
  | hubError error => rfl
  | panicked text => exact absurd failed (refuses text)

theorem accepted_unchanged (sound : SavedViewHub hub) {request : SavedViewMutationRequest}
    (checked : hub.upsertChecks request = .ok hub.savedViewRevision)
    (same : hub.savedViews[request.view.viewId]? = some request.view) : Accepted hub (.upsert request) := by
  obtain ⟨valid, current, _⟩ := upsertChecks_ok checked
  have receipt : Valid (hub.upsertReceipt request hub.savedViewRevision) := by
    refine receipt_valid rfl (view_id valid) sound.positive sound.bounded ?_ rfl (fun deleted => by cases deleted)
      fun view present => ?_
    · simp [FleetHub.upsertReceipt, same]
    · cases present
      exact ⟨rfl, valid⟩
  have handled : hub.handleSavedView (.upsert request) =
      (.ok (hub.upsertReceipt request hub.savedViewRevision), hub) := by
    simp only [FleetHub.handleSavedView, FleetHub.upsertSavedView, checked, assertedReceipt_valid receipt,
      if_pos same]
  rw [Accepted, handled]
  refine ⟨_, rfl, ?_, sound⟩
  exact {
    expected := current
    sound := receipt
    addressed := ⟨rfl, rfl, by simp [FleetHub.upsertReceipt, SavedViewCall.view]⟩
    revisions := ⟨rfl, rfl⟩
    stored := by
      intro viewId
      split
      · rename_i own
        rw [own]
        exact same
      · rfl
    changed := by simp [FleetHub.upsertReceipt, same]
    grown := by simp [FleetHub.upsertReceipt, same] }

theorem accepted_upsert (sound : SavedViewHub hub) {request : SavedViewMutationRequest}
    (checked : hub.upsertChecks request = .ok (hub.savedViewRevision + 1))
    (below : hub.savedViewRevision < u64Max)
    (differs : hub.savedViews[request.view.viewId]? ≠ some request.view)
    (room : (∃ prior, hub.savedViews[request.view.viewId]? = some prior) ∨
      hub.savedViews.size < maxSavedViews) : Accepted hub (.upsert request) := by
  obtain ⟨valid, current, _⟩ := upsertChecks_ok checked
  have receipt : Valid (hub.upsertReceipt request (hub.savedViewRevision + 1)) := by
    refine receipt_valid rfl (view_id valid) sound.positive below ?_ rfl (fun deleted => by cases deleted)
      fun view present => ?_
    · simp [FleetHub.upsertReceipt, differs]
    · cases present
      exact ⟨rfl, valid⟩
  have handled : hub.handleSavedView (.upsert request) =
      (.ok (hub.upsertReceipt request (hub.savedViewRevision + 1)),
        { hub with
          savedViewRevision := hub.savedViewRevision + 1
          savedViews := hub.savedViews.insert request.view.viewId request.view }) := by
    simp only [FleetHub.handleSavedView, FleetHub.upsertSavedView, checked, assertedReceipt_valid receipt,
      if_neg differs]
  have write : Ledger.Write (·.viewId) maxSavedViews (fun _ => True)
      (fun prior next : SavedView => next.viewId = prior.viewId) hub.savedViews request.view.viewId
        request.view := by
    rcases room with ⟨prior, found⟩ | free
    · exact .edited prior found (sound.ledger.named _ prior found).symm
    · exact .created free rfl trivial
  rw [Accepted, handled]
  refine ⟨_, rfl, ?_, ?_⟩
  · exact {
      expected := current
      sound := receipt
      addressed := ⟨rfl, rfl, by simp [FleetHub.upsertReceipt, SavedViewCall.view]⟩
      revisions := ⟨rfl, rfl⟩
      stored := by
        intro viewId
        split
        · rename_i own
          rw [own]
          exact BTreeMap.lookup_insert_self _ _ _
        · rename_i other
          exact BTreeMap.lookup_insert_of_ne _ _ other
      changed := by
        refine iff_of_true (by simp [FleetHub.upsertReceipt, differs]) fun same => differs ?_
        rw [← same]
        exact BTreeMap.lookup_insert_self _ _ _
      grown := by simp [FleetHub.upsertReceipt, differs] }
  · exact ⟨sound.ledger.write (fun _ _ kept => kept) write valid, Nat.succ_pos _, below⟩

theorem accepted_delete (sound : SavedViewHub hub) {viewId : String} {expectedRevision : Nat}
    (checked : hub.deleteChecks viewId expectedRevision = .ok (hub.savedViewRevision + 1)) :
    Accepted hub (.delete viewId expectedRevision) := by
  obtain ⟨named, current, below, _, view, present⟩ := deleteChecks_ok checked
  have receipt : Valid (hub.deleteReceipt viewId (hub.savedViewRevision + 1)) :=
    receipt_valid rfl named sound.positive below rfl rfl (fun _ => rfl) fun view present => by cases present
  have handled : hub.handleSavedView (.delete viewId expectedRevision) =
      (.ok (hub.deleteReceipt viewId (hub.savedViewRevision + 1)),
        { hub with
          savedViewRevision := hub.savedViewRevision + 1
          savedViews := hub.savedViews.erase viewId }) := by
    simp only [FleetHub.handleSavedView, FleetHub.deleteSavedView, checked, assertedReceipt_valid receipt]
  rw [Accepted, handled]
  refine ⟨_, rfl, ?_, ?_⟩
  · exact {
      expected := current
      sound := receipt
      addressed := ⟨rfl, rfl, by simp [FleetHub.deleteReceipt, SavedViewCall.view]⟩
      revisions := ⟨rfl, rfl⟩
      stored := by
        intro other
        split
        · rename_i own
          rw [own]
          exact BTreeMap.lookup_erase_self _ _
        · rename_i apart
          exact BTreeMap.lookup_erase_of_ne _ apart
      changed := by
        refine iff_of_true rfl fun same => ?_
        have gone := BTreeMap.lookup_erase_self hub.savedViews viewId
        have kept : (hub.savedViews.erase viewId)[viewId]? = hub.savedViews[viewId]? :=
          congrArg (·[viewId]?) same
        cases gone.symm.trans (kept.trans present)
      grown := rfl }
  · exact ⟨sound.ledger.erase viewId, Nat.succ_pos _, below⟩

theorem savedView_cases (sound : SavedViewHub hub) (call : SavedViewCall) :
    Refused hub call ∨ Accepted hub call := by
  cases call with
  | upsert request =>
    cases checked : hub.upsertChecks request with
    | error fault => exact .inl (refused_upsert checked)
    | ok revision =>
      rcases upsertedRevision_ok request.view revision (upsertChecks_ok checked).2.2 with
        ⟨same, rfl⟩ | ⟨differs, room, below, rfl⟩
      · exact .inr (accepted_unchanged sound checked same)
      · exact .inr (accepted_upsert sound checked below differs room)
  | delete viewId expectedRevision =>
    cases checked : hub.deleteChecks viewId expectedRevision with
    | error fault => exact .inl (refused_delete checked)
    | ok revision =>
      obtain ⟨_, _, _, rfl, _⟩ := deleteChecks_ok checked
      exact .inr (accepted_delete sound checked)

/-- The expected revisions of the requests that changed the collection. -/
def changedRevisions (_ : FleetHub) (call : HubCall) (answer : HubAnswer) : List Nat :=
  match call, answer with
  | .savedView request, .savedView (.ok receipt) =>
    if receipt.changed then [request.expectedRevision] else []
  | _, _ => []

structure SavedViewRecord (hub : FleetHub) (changes : List Nat) : Prop where
  sound : SavedViewHub hub
  counted : hub.savedViewRevision = initialSavedViewRevision + changes.length
  distinct : changes.Nodup
  spent : ∀ revision ∈ changes, revision < hub.savedViewRevision

theorem SavedViewRecord.of_same {changes : List Nat} (record : SavedViewRecord hub changes)
    (revision : next.savedViewRevision = hub.savedViewRevision) (views : next.savedViews = hub.savedViews) :
    SavedViewRecord next changes where
  sound := by
    obtain ⟨ledger, positive, bounded⟩ := record.sound
    exact ⟨views ▸ ledger, revision ▸ positive, revision ▸ bounded⟩
  counted := revision.trans record.counted
  distinct := record.distinct
  spent := fun spent member => revision ▸ record.spent spent member

theorem SavedViewRecord.move {changes : List Nat} (record : SavedViewRecord hub changes)
    {call : SavedViewCall} {receipt : SavedViewMutationReceipt}
    (transition : Transition hub next call receipt) (sound : SavedViewHub next) :
    SavedViewRecord next (changes ++ if receipt.changed then [call.expectedRevision] else []) := by
  have grown := transition.grown
  have counted := record.counted
  split at grown
  · rename_i changed
    rw [if_pos changed]
    refine ⟨sound, ?_, ?_, fun revision member => ?_⟩
    · simp only [List.length_append, List.length_singleton]
      omega
    · rw [List.nodup_append]
      refine ⟨record.distinct, by simp, fun revision member other single same => ?_⟩
      have earlier := record.spent revision member
      have current := transition.expected
      rw [List.mem_singleton] at single
      omega
    · rcases List.mem_append.mp member with before | last
      · have earlier := record.spent revision before
        omega
      · have current := transition.expected
        rw [List.mem_singleton] at last
        omega
  · rename_i same
    rw [if_neg same, List.append_nil]
    exact ⟨sound, by omega, record.distinct, fun revision member => grown ▸ record.spent revision member⟩

section Runs

variable [HubEnvironment]

theorem call_savedViews {changes : List Nat} (record : SavedViewRecord hub changes) (call : HubCall) :
    SavedViewRecord (fleetHubMachine.next hub call)
      (changes ++ changedRevisions hub call (fleetHubMachine.answer hub call)) := by
  by_cases own : ∃ request, call = .savedView request
  · obtain ⟨request, rfl⟩ := own
    have final : fleetHubMachine.next hub (.savedView request) = (hub.handleSavedView request).2 := rfl
    have answer : fleetHubMachine.answer hub (.savedView request) =
        .savedView (hub.handleSavedView request).1 := rfl
    rcases savedView_cases record.sound request with ⟨failed, same⟩ | ⟨receipt, accepted, transition, sound⟩
    · have nothing : changedRevisions hub (.savedView request)
          (.savedView (hub.handleSavedView request).1) = [] := by
        cases result : (hub.handleSavedView request).1 with
        | error fault => rfl
        | ok receipt =>
          rw [result] at failed
          cases failed
      rw [final, answer, nothing, same, List.append_nil]
      exact record
    · rw [final, answer, accepted]
      exact record.move transition sound
  · have other : ∀ request, call ≠ .savedView request := fun request same => own ⟨request, same⟩
    have nothing : changedRevisions hub call (fleetHubMachine.answer hub call) = [] := by
      cases call with
      | savedView request => exact absurd rfl (other request)
      | _ => rfl
    obtain ⟨revision, views⟩ := (hub.handle_leaves_others call).savedViews other
    rw [nothing, List.append_nil]
    exact record.of_same revision views

theorem run_savedViews (policy : AssertedPolicy) (calls : List HubCall) :
    SavedViewRecord (fleetHubMachine.run (.new policy) calls)
      (fleetHubMachine.history changedRevisions (.new policy) calls) := by
  refine fleetHubMachine.run_history changedRevisions (fun _ _ => True) SavedViewRecord
    (fun hub call changes _ record => call_savedViews record call) (.new policy) calls []
    (fleetHubMachine.admits_true _ _) ⟨⟨Ledger.sound_empty, ?_, ?_⟩, rfl, .nil, fun revision member => ?_⟩
  · exact Nat.one_pos
  · simp only [FleetHub.new, initialSavedViewRevision, u64Max]
    omega
  · cases member

/-- Saved views under any interleaving: one step for each change, no lost update, and all or nothing. -/
theorem saved_views_linear (policy : AssertedPolicy) (calls : List HubCall) :
    let hub := fleetHubMachine.run (.new policy) calls
    let changes := fleetHubMachine.history changedRevisions (.new policy) calls
    (Valid hub.savedViewCollection ∧ hub.savedViews.size ≤ maxSavedViews) ∧
      (hub.savedViewRevision = initialSavedViewRevision + changes.length ∧ changes.Nodup) ∧
      ∀ request, ((fleetHubMachine.answer hub (.savedView request)).isErr = true ∧
          fleetHubMachine.next hub (.savedView request) = hub) ∨
        ∃ receipt, fleetHubMachine.answer hub (.savedView request) = .savedView (.ok receipt) ∧
          Transition hub (fleetHubMachine.next hub (.savedView request)) request receipt := by
  intro hub changes
  have record := run_savedViews policy calls
  refine ⟨⟨record.sound.collection, record.sound.ledger.bounded⟩, ⟨record.counted, record.distinct⟩,
    fun request => ?_⟩
  rcases savedView_cases record.sound request with ⟨failed, same⟩ | ⟨receipt, accepted, transition, _⟩
  · exact .inl ⟨failed, same⟩
  · exact .inr ⟨receipt, congrArg HubAnswer.savedView accepted, transition⟩

end Runs

end SavedViewSafety

end RustyFleet

import RustyFleet.Adapter.TermuxProofs
import RustyFleet.Hub.Calls
import RustyFleet.Safety.OwnerSteps

namespace RustyFleet.WifiSafety

open OwnerSafety

/-- What every stored target carries beside what its operation was frozen with. -/
structure TargetSound (operation : QuestWifiAdbOperation) (target : QuestWifiAdbTarget) : Prop where
  confirmed : target.lifecycle ∈ [.accepted, .dispatched, .running, .applied] →
    operation.confirmedAtMs.isSome = true
  invoked : ∀ invocation, target.invocation = some invocation → operation.confirmedAtMs.isSome = true ∧
    invocation.action = operation.preview.action ∧ invocation.identityRevision = target.identityRevision
  received : ∀ receipt, target.receipt = some receipt → target.invocation.isSome = true ∧
    target.lifecycle ∈ [.running, .applied, .failed] ∧ receipt.operationId = operation.operationId ∧
    receipt.deviceId = target.deviceId ∧ receipt.identityRevision = target.identityRevision ∧
    receipt.action = operation.preview.action
  unusable : target.evidence.termuxUsable = false

structure OperationSound (operationId : String) (operation : QuestWifiAdbOperation) : Prop where
  named : operation.operationId = operationId
  started : operation.confirmedAtMs.isSome = true → operation.lifecycle ≠ .proposed
  distinct : (operation.targets.map (·.deviceId)).Nodup
  targets : ∀ target ∈ operation.targets, TargetSound operation target

def LedgerSound (hub : FleetHub) : Prop :=
  ∀ (operationId : String) operation, hub.wifiAdbOperations[operationId]? = some operation →
    OperationSound operationId operation

section Steps

variable {hub : FleetHub} {operation next : QuestWifiAdbOperation} {operationId : String} {nowMs : Int}

theorem proposed_untouched (sound : OperationSound operationId operation)
    (proposed : operation.lifecycle = .proposed) : ∀ target ∈ operation.targets,
      target.invocation = none ∧ target.receipt = none := by
  intro target member
  have unconfirmed : ¬ operation.confirmedAtMs.isSome = true := fun confirmed => sound.started confirmed proposed
  have kept := sound.targets target member
  have uninvoked : target.invocation = none := by
    cases invoked : target.invocation with
    | none => rfl
    | some invocation => exact absurd (kept.invoked invocation invoked).1 unconfirmed
  refine ⟨uninvoked, ?_⟩
  cases received : target.receipt with
  | none => rfl
  | some receipt =>
    have invoked := (kept.received receipt received).1
    rw [uninvoked] at invoked
    cases invoked

variable [Sha256Hex]

theorem previewTargets_nodup (createdAtMs : Int) (devices : List String) (targets : List TargetPreflight)
    (valid : questWifiAdbFamily.previewTargetsViolations createdAtMs devices targets = []) :
    (targets.map (·.deviceId)).Nodup ∧ ∀ target ∈ targets, target.deviceId ∉ devices := by
  induction targets generalizing devices with
  | nil => exact ⟨List.nodup_nil, by intro target member; cases member⟩
  | cons first rest ih =>
    simp only [OwnerFamily.previewTargetsViolations, List.append_eq_nil_iff, violationIf_nil] at valid
    obtain ⟨⟨⟨new, _⟩, _⟩, later⟩ := valid
    obtain ⟨distinct, apart⟩ := ih _ later
    constructor
    · rw [List.map_cons, List.nodup_cons]
      refine ⟨?_, distinct⟩
      intro repeated
      obtain ⟨target, member, same⟩ := List.mem_map.mp repeated
      apply apart target member
      rw [same]
      exact List.mem_cons_self
    · intro target member
      rcases List.mem_cons.mp member with rfl | inRest
      · exact new
      · intro earlier
        exact apart target inRest (List.mem_cons_of_mem _ earlier)

theorem proposed_sound (plan : QuestWifiAdbPreviewPlan) (fleetRevision : Nat) (preflights : List TargetPreflight)
    (valid : questWifiAdbFamily.operationViolations
      (questWifiAdbHub.proposedOperation plan fleetRevision preflights) = []) :
    OperationSound plan.operationId (questWifiAdbHub.proposedOperation plan fleetRevision preflights) := by
  have distinct : (preflights.map (·.deviceId)).Nodup := by
    have parts : (_ ++ questWifiAdbFamily.previewViolations _ ++ _ ++ _ : List ContractViolation) = [] := valid
    simp only [List.append_eq_nil_iff] at parts
    have preview := parts.1.1.2
    simp only [OwnerFamily.previewViolations, List.append_eq_nil_iff] at preview
    exact (previewTargets_nodup _ [] _ preview.2).1
  constructor
  · rfl
  · intro confirmed
    cases confirmed
  · have same : (questWifiAdbHub.proposedOperation plan fleetRevision preflights).targets.map (·.deviceId) =
        preflights.map (·.deviceId) := by
      simp only [OwnerHub.proposedOperation, List.map_map]
      rfl
    rw [same]
    exact distinct
  · intro target member
    obtain ⟨preflight, _, rfl⟩ := List.mem_map.mp member
    constructor
    · intro live
      simp only [OwnerHub.proposedTarget] at live
      split at live <;> simp at live
    · intro invocation invoked
      cases invoked
    · intro receipt received
      cases received
    · rfl

theorem derived_not_proposed (confirmed : operation.confirmedAtMs.isSome = true) :
    questWifiAdbHub.deriveLifecycle operation ≠ .proposed := by
  simp only [OwnerHub.deriveLifecycle]
  repeat' split
  all_goals exact nofun

theorem confirmed_sound (sound : OperationSound operationId operation)
    (proposed : operation.lifecycle = .proposed) :
    OperationSound operationId (questWifiAdbHub.confirmed operation nowMs) := by
  have untouched := proposed_untouched sound proposed
  constructor
  · exact sound.named
  · exact fun _ => derived_not_proposed rfl
  · have same : (questWifiAdbHub.confirmed operation nowMs).targets.map (·.deviceId) =
        operation.targets.map (·.deviceId) := by
      simp only [OwnerHub.confirmed, List.map_map]
      apply List.map_congr_left
      intro target _
      simp only [Function.comp_apply]
      split <;> rfl
    rw [same]
    exact sound.distinct
  · intro target member
    obtain ⟨prior, known, same⟩ := List.mem_map.mp member
    obtain ⟨uninvoked, unreceived⟩ := untouched prior known
    have kept := sound.targets prior known
    by_cases eligible : prior.preflight.eligible = true
    · rw [if_pos eligible] at same
      subst same
      refine ⟨fun _ => rfl, ?_, ?_, kept.unusable⟩
      · intro invocation invoked
        rw [uninvoked] at invoked
        cases invoked
      · intro receipt received
        rw [unreceived] at received
        cases received
    · rw [if_neg eligible] at same
      subst same
      refine ⟨fun _ => rfl, ?_, ?_, kept.unusable⟩
      · intro invocation invoked
        rw [uninvoked] at invoked
        cases invoked
      · intro receipt received
        rw [unreceived] at received
        cases received

omit [Sha256Hex] in
theorem TargetSound.congr {target : QuestWifiAdbTarget} (sound : TargetSound operation target)
    (confirmed : next.confirmedAtMs = operation.confirmedAtMs)
    (named : next.operationId = operation.operationId) (preview : next.preview = operation.preview) :
    TargetSound next target := by
  constructor
  · rw [confirmed]
    exact sound.confirmed
  · rw [confirmed, preview]
    exact sound.invoked
  · rw [named, preview]
    exact sound.received
  · exact sound.unusable

theorem targetStep_sound {target after : QuestWifiAdbTarget} (sound : TargetSound operation target)
    (addressed : ∀ receipt, after.receipt = some receipt → target.receipt = some receipt ∨
      receipt.operationId = operation.operationId)
    (step : TargetStep questWifiAdbHub operation nowMs target after) : TargetSound operation after := by
  cases step with
  | prepared invocation accepted action identity =>
    have confirmed := sound.confirmed (by rw [accepted]; decide)
    refine ⟨fun _ => confirmed, ?_, ?_, sound.unusable⟩
    · rintro made ⟨⟩
      exact ⟨confirmed, action, identity⟩
    · intro receipt received
      have settled := (sound.received receipt received).2.1
      rw [accepted] at settled
      simp at settled
  | dispatched accepted =>
    refine ⟨fun _ => sound.confirmed (by rw [accepted]; decide), sound.invoked, ?_, sound.unusable⟩
    intro receipt received
    have settled := (sound.received receipt received).2.1
    rw [accepted] at settled
    simp at settled
  | received receipt invocation named invoked valid bound live =>
    obtain ⟨confirmed, action, identity⟩ := sound.invoked invocation invoked
    refine ⟨fun _ => confirmed, sound.invoked, ?_, rfl⟩
    rintro stored ⟨⟩
    obtain ⟨_, _, receiptIdentity, receiptAction, _⟩ := bound
    refine ⟨by rw [invoked]; rfl, ?_, ?_, named, receiptIdentity.trans identity,
      receiptAction.trans action⟩
    · simp only
      split <;> simp
    · rcases addressed receipt rfl with earlier | own
      · exact (sound.received receipt earlier).2.2.1
      · exact own
  | failed code =>
    refine ⟨?_, sound.invoked, ?_, sound.unusable⟩
    · intro live
      simp at live
    · intro receipt received
      obtain ⟨invoked, _, others⟩ := sound.received receipt received
      exact ⟨invoked, by simp, others⟩

theorem written_sound (sound : OperationSound operationId operation) {deviceId : String}
    {rewrite : QuestWifiAdbTarget → QuestWifiAdbTarget} {target : QuestWifiAdbTarget}
    {lifecycle : CommandLifecycle}
    (found : operation.targets.find? (·.deviceId == deviceId) = some target)
    (step : TargetStep questWifiAdbHub operation nowMs target (rewrite target))
    (addressed : ∀ receipt, (rewrite target).receipt = some receipt → target.receipt = some receipt ∨
      receipt.operationId = operation.operationId)
    (rederived : lifecycle = operation.lifecycle ∨ lifecycle =
      questWifiAdbHub.deriveLifecycle (questWifiAdbHub.rewriteTarget operation deviceId nowMs rewrite)) :
    OperationSound operationId
      { questWifiAdbHub.rewriteTarget operation deviceId nowMs rewrite with lifecycle := lifecycle } := by
  have related := Support.modifyFirst_forall₂ (·.deviceId == deviceId) rewrite operation.targets target found
  constructor
  · exact sound.named
  · intro confirmed
    rcases rederived with same | derived
    · rw [same]
      exact sound.started confirmed
    · rw [derived]
      exact derived_not_proposed confirmed
  · have same : (Support.modifyFirst (·.deviceId == deviceId) rewrite operation.targets).map (·.deviceId) =
        operation.targets.map (·.deviceId) := by
      refine Support.forall₂_map_congr _ (fun prior after changed => ?_) related
      rcases changed with rfl | ⟨rfl, rfl⟩
      · rfl
      · exact step.keeps.1
    exact same ▸ sound.distinct
  · intro after member
    obtain ⟨prior, known, changed⟩ := Support.forall₂_right related after member
    have kept := sound.targets prior known
    rcases changed with rfl | ⟨rfl, rfl⟩
    · exact kept.congr rfl rfl rfl
    · exact (targetStep_sound kept addressed step).congr rfl rfl rfl

/-- A receipt the Hub wrote to a target, and when. -/
structure AppliedReceipt where
  receipt : QuestWifiAdbOwnerReceipt
  nowMs : Int
deriving DecidableEq

def appliedBy (hub : FleetHub) : WifiAdbCall → List AppliedReceipt
  | .receipt receipt nowMs =>
    match questWifiAdbHub.receiptEdit hub.wifiAdbOperations receipt nowMs with
    | .ok (.rewritten _) => [{ receipt := receipt, nowMs := nowMs }]
    | _ => []
  | _ => []

theorem appliedBy_other (hub : FleetHub) {call : WifiAdbCall}
    (other : ∀ receipt nowMs, call ≠ .receipt receipt nowMs) : appliedBy hub call = [] := by
  cases call with
  | receipt receipt nowMs => exact absurd rfl (other receipt nowMs)
  | _ => rfl

inductive ReceiptStep (call : WifiAdbCall) (operationId : String) (prior : QuestWifiAdbTarget) :
    QuestWifiAdbTarget → Prop
  | kept : ReceiptStep call operationId prior prior
  | unreceived (next : QuestWifiAdbTarget) (before : prior.receipt = none) (after : next.receipt = none) :
      ReceiptStep call operationId prior next
  | received (next : QuestWifiAdbTarget) (receipt : QuestWifiAdbOwnerReceipt) (nowMs : Int)
      (made : call = .receipt receipt nowMs) (addressed : receipt.operationId = operationId)
      (named : receipt.deviceId = prior.deviceId) (stored : next.receipt = some receipt)
      (dated : next.updatedAtMs = nowMs) : ReceiptStep call operationId prior next
  | failed (next : QuestWifiAdbTarget) (code : String) (nowMs : Int)
      (made : call = .fail operationId prior.deviceId code nowMs) (same : next.receipt = prior.receipt)
      (dated : next.updatedAtMs = nowMs) : ReceiptStep call operationId prior next

structure TargetChange (call : WifiAdbCall) (operationId : String) (prior next : QuestWifiAdbTarget) :
    Prop where
  device : next.deviceId = prior.deviceId
  identity : next.identityRevision = prior.identityRevision
  receipt : ReceiptStep call operationId prior next

/-- A stored operation a call has rewritten. -/
structure Edited (hub : FleetHub) (call : WifiAdbCall) (operationId : String)
    (operation next : QuestWifiAdbOperation) : Prop where
  stored : hub.wifiAdbOperations[operationId]? = some operation
  preview : next.preview = operation.preview
  sound : OperationSound operationId next
  targets : List.Forall₂ (TargetChange call operationId) operation.targets next.targets
  recorded : ∀ event ∈ appliedBy hub call, event.receipt.operationId = operationId ∧
    ∃ target ∈ next.targets, target.deviceId = event.receipt.deviceId ∧
      target.receipt = some event.receipt ∧ target.updatedAtMs = event.nowMs
  records : ∀ receipt nowMs, call = .receipt receipt nowMs →
    appliedBy hub call = [{ receipt := receipt, nowMs := nowMs }]

structure Created (hub : FleetHub) (call : WifiAdbCall) (operationId : String)
    (next : QuestWifiAdbOperation) : Prop where
  absent : hub.wifiAdbOperations[operationId]? = none
  sound : OperationSound operationId next
  unreceived : ∀ target ∈ next.targets, target.receipt = none
  unrecorded : appliedBy hub call = []

inductive LedgerStep (hub : FleetHub) (call : WifiAdbCall) : BTreeMap String QuestWifiAdbOperation → Prop
  | same (unrecorded : appliedBy hub call = []) : LedgerStep hub call hub.wifiAdbOperations
  | created (operationId : String) (next : QuestWifiAdbOperation)
      (created : Created hub call operationId next) :
      LedgerStep hub call (hub.wifiAdbOperations.insert operationId next)
  | edited (operationId : String) (operation next : QuestWifiAdbOperation)
      (edited : Edited hub call operationId operation next) :
      LedgerStep hub call (hub.wifiAdbOperations.insert operationId next)

omit [Sha256Hex] in
theorem written_targets {call : WifiAdbCall} {deviceId : String}
    {rewrite : QuestWifiAdbTarget → QuestWifiAdbTarget} {target : QuestWifiAdbTarget}
    (found : operation.targets.find? (·.deviceId == deviceId) = some target)
    (change : TargetChange call operationId target (rewrite target)) :
    List.Forall₂ (TargetChange call operationId) operation.targets
      (Support.modifyFirst (·.deviceId == deviceId) rewrite operation.targets) := by
  refine (Support.modifyFirst_forall₂ _ rewrite operation.targets target found).imp fun prior next changed => ?_
  rcases changed with rfl | ⟨rfl, rfl⟩
  · exact ⟨rfl, rfl, .kept⟩
  · exact change

omit [Sha256Hex] in
theorem accepted_unreceived {target : QuestWifiAdbTarget} (sound : TargetSound operation target)
    (accepted : target.lifecycle = .accepted) : target.receipt = none := by
  cases received : target.receipt with
  | none => rfl
  | some receipt =>
    have settled := (sound.received receipt received).2.1
    rw [accepted] at settled
    simp at settled

theorem confirmed_edited {call : WifiAdbCall} (stored : hub.wifiAdbOperations[operationId]? = some operation)
    (sound : OperationSound operationId operation) (proposed : operation.lifecycle = .proposed)
    (other : ∀ receipt nowMs, call ≠ .receipt receipt nowMs) :
    Edited hub call operationId operation (questWifiAdbHub.confirmed operation nowMs) where
  stored := stored
  preview := rfl
  sound := confirmed_sound sound proposed
  targets := by
    have untouched := proposed_untouched sound proposed
    simp only [OwnerHub.confirmed, List.forall₂_map_right_iff]
    refine List.forall₂_same.mpr fun target member => ?_
    split
    · exact ⟨rfl, rfl, .unreceived _ (untouched target member).2 (untouched target member).2⟩
    · exact ⟨rfl, rfl, .kept⟩
  recorded event member := by
    rw [appliedBy_other hub other] at member
    cases member
  records receipt nowMs same := absurd same (other receipt nowMs)

theorem before_edited {call : WifiAdbCall} {deviceId : String}
    {rewrite : QuestWifiAdbTarget → QuestWifiAdbTarget} {target : QuestWifiAdbTarget}
    {lifecycle : CommandLifecycle} (ledger : LedgerSound hub)
    (before : @BeforeReceipt _ _ _ _ _ _ questWifiAdbHub _ hub.wifiAdbOperations operationId nowMs operation next
      deviceId rewrite target lifecycle)
    (other : ∀ receipt nowMs, call ≠ .receipt receipt nowMs) :
    Edited hub call operationId operation next := by
  have unrecorded := appliedBy_other hub other
  have sound := ledger operationId operation before.stored
  have member := List.mem_of_find?_eq_some before.found
  have unreceived := accepted_unreceived (sound.targets target member) before.accepted
  have after : (rewrite target).receipt = none := before.receipt.trans unreceived
  have keeps := before.step.keeps
  rw [before.written]
  constructor
  case stored => exact before.stored
  case preview => rfl
  case sound =>
    refine written_sound sound before.found before.step (fun receipt stored => ?_) before.rederived
    rw [after] at stored
    cases stored
  case targets => exact written_targets before.found ⟨keeps.1, keeps.2.1, .unreceived _ unreceived after⟩
  case recorded =>
    intro event recorded
    rw [unrecorded] at recorded
    cases recorded
  case records => exact fun receipt nowMs same => absurd same (other receipt nowMs)

theorem failed_edited {deviceId code : String} (ledger : LedgerSound hub)
    (edit : questWifiAdbHub.failEdit hub.wifiAdbOperations operationId deviceId code nowMs =
      .ok (.rewritten next)) :
    ∃ operation, Edited hub (.fail operationId deviceId code nowMs) operationId operation next := by
  obtain ⟨operation, target, stored, found, rfl⟩ := failEdit_rewritten edit
  have sound := ledger operationId operation stored
  have named : target.deviceId = deviceId := by simpa using List.find?_some found
  refine ⟨operation, stored, rfl, ?_, ?_, ?_, by intro receipt nowMs same; cases same⟩
  · exact written_sound sound found (.failed code) (fun receipt kept => .inl kept) (.inr rfl)
  · refine written_targets found ⟨rfl, rfl, .failed _ code nowMs ?_ rfl rfl⟩
    rw [named]
  · intro event recorded
    cases recorded

theorem received_edited {receipt : QuestWifiAdbOwnerReceipt} (ledger : LedgerSound hub)
    (edit : questWifiAdbHub.receiptEdit hub.wifiAdbOperations receipt nowMs = .ok (.rewritten next)) :
    ∃ operation, Edited hub (.receipt receipt nowMs) receipt.operationId operation next := by
  obtain ⟨operation, target, invocation, stored, found, invoked, valid, bound, live, written⟩ :=
    receiptEdit_rewritten edit
  have sound := ledger receipt.operationId operation stored
  have named : target.deviceId = receipt.deviceId := by
    have same := List.find?_some found
    exact beq_iff_eq.mp same
  have recorded : appliedBy hub (.receipt receipt nowMs) = [{ receipt := receipt, nowMs := nowMs }] := by
    simp only [appliedBy, edit]
  subst written
  refine ⟨operation, stored, rfl, ?_, ?_, ?_, ?_⟩
  · refine written_sound sound found (.received receipt invocation named.symm invoked valid bound live)
      (fun other stored => ?_) (.inr rfl)
    cases stored
    exact .inr sound.named.symm
  · exact written_targets found ⟨rfl, rfl, .received _ receipt nowMs rfl rfl named.symm rfl rfl⟩
  · intro event member
    rw [recorded, List.mem_singleton] at member
    subst member
    refine ⟨rfl, _, Support.modified_mem _ _ _ target found, named, rfl, rfl⟩
  · rintro _ _ ⟨⟩
    exact recorded

theorem wifiAdb_step (ledger : LedgerSound hub) (call : WifiAdbCall) :
    LedgerStep hub call (hub.handleWifiAdb call).2.wifiAdbOperations := by
  cases call with
  | preview plan =>
    simp only [FleetHub.handleWifiAdb, FleetHub.previewQuestWifiAdb, FleetHub.settleWifiAdb]
    rcases settle_cases hub.wifiAdbOperations plan.operationId
      (questWifiAdbHub.previewEdit hub hub.wifiAdbOperations plan) with same | ⟨next, edit, settled⟩
    · rw [same]
      exact .same rfl
    · rw [settled]
      obtain ⟨absent, _, valid, preflights, rfl⟩ := previewEdit_rewritten edit
      refine .created plan.operationId _ ⟨absent, proposed_sound plan _ preflights valid, ?_, rfl⟩
      intro target member
      obtain ⟨preflight, _, rfl⟩ := List.mem_map.mp member
      rfl
  | confirm operationId previewId nowMs =>
    simp only [FleetHub.handleWifiAdb, FleetHub.confirmQuestWifiAdb, FleetHub.settleWifiAdb]
    rcases settle_cases hub.wifiAdbOperations operationId
      (questWifiAdbHub.confirmEdit hub hub.wifiAdbOperations operationId previewId nowMs) with
      same | ⟨next, edit, settled⟩
    · rw [same]
      exact .same rfl
    · rw [settled]
      obtain ⟨operation, stored, proposed, rfl⟩ := confirmEdit_rewritten edit
      exact .edited operationId operation _
        (confirmed_edited stored (ledger operationId operation stored) proposed (by intro receipt nowMs same; cases same))
  | prepare operationId deviceId requestId nowMs =>
    simp only [FleetHub.handleWifiAdb, FleetHub.prepareQuestWifiAdbInvocation, FleetHub.settleWifiAdb]
    rcases settle_cases hub.wifiAdbOperations operationId
      (questWifiAdbHub.prepareEdit hub hub.wifiAdbOperations operationId deviceId requestId none nowMs) with
      same | ⟨next, edit, settled⟩
    · rw [same]
      exact .same rfl
    · rw [settled]
      obtain ⟨operation, _, _, _, before⟩ := prepareEdit_rewritten edit
      exact .edited operationId operation next (before_edited ledger before (by intro receipt nowMs same; cases same))
  | dispatched operationId deviceId nowMs =>
    simp only [FleetHub.handleWifiAdb, FleetHub.markQuestWifiAdbDispatched, FleetHub.settleWifiAdb]
    rcases settle_cases hub.wifiAdbOperations operationId
      (questWifiAdbHub.dispatchedEdit hub.wifiAdbOperations operationId deviceId nowMs) with
      same | ⟨next, edit, settled⟩
    · rw [same]
      exact .same rfl
    · rw [settled]
      obtain ⟨operation, _, _, _, before⟩ := dispatchedEdit_rewritten edit
      exact .edited operationId operation next (before_edited ledger before (by intro receipt nowMs same; cases same))
  | receipt receipt nowMs =>
    simp only [FleetHub.handleWifiAdb, FleetHub.applyQuestWifiAdbReceipt, FleetHub.settleWifiAdb]
    cases edit : questWifiAdbHub.receiptEdit hub.wifiAdbOperations receipt nowMs with
    | error fault => exact .same (by simp only [appliedBy, edit])
    | ok edit' =>
      cases edit' with
      | unchanged operation => exact .same (by simp only [appliedBy, edit])
      | rewritten next =>
        obtain ⟨operation, edited⟩ := received_edited ledger edit
        exact .edited receipt.operationId operation next edited
  | fail operationId deviceId code nowMs =>
    simp only [FleetHub.handleWifiAdb, FleetHub.failQuestWifiAdbTarget, FleetHub.settleWifiAdb]
    rcases settle_cases hub.wifiAdbOperations operationId
      (questWifiAdbHub.failEdit hub.wifiAdbOperations operationId deviceId code nowMs) with
      same | ⟨next, edit, settled⟩
    · rw [same]
      exact .same rfl
    · rw [settled]
      obtain ⟨operation, edited⟩ := failed_edited ledger edit
      exact .edited operationId operation next edited

theorem LedgerStep.sound {call : WifiAdbCall} {operations : BTreeMap String QuestWifiAdbOperation}
    (ledger : LedgerSound hub) (step : LedgerStep hub call operations) :
    ∀ (operationId : String) operation, operations[operationId]? = some operation →
      OperationSound operationId operation := by
  cases step with
  | same => exact ledger
  | created operationId next created =>
    exact BTreeMap.insert_forall _ operationId next (fun id operation => OperationSound id operation) ledger
      created.sound
  | edited operationId operation next edited =>
    exact BTreeMap.insert_forall _ operationId next (fun id operation => OperationSound id operation) ledger
      edited.sound

end Steps

end RustyFleet.WifiSafety

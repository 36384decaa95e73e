import RustyFleet.Safety.Directory
import RustyFleet.Safety.OwnerCalls

namespace RustyFleet.OwnerSafety

section Ledger

variable {Action Policy Generation Binding Receipt Evidence : Type} [ValidateContract Receipt]

/-- What the awake and the Wi-Fi ADB ledger owe to their contract families. -/
structure OwnerLaws (owner : OwnerHub Action Policy Generation Binding Receipt Evidence) : Prop where
  effective : ∀ receipt, Valid receipt → owner.receiptEffective receipt = true →
    owner.family.receiptProvesApplied receipt = true
  evidence : ∀ operationId deviceId identityRevision receipt,
    owner.family.evidenceViolations operationId deviceId identityRevision receipt owner.initialEvidence = []
  unchanged : owner.evidenceAfterReceipt owner.initialEvidence = owner.initialEvidence
  generation : ∀ action preview expected generation,
    owner.preparedGeneration action preview expected = .ok generation →
      owner.family.generationBound action preview generation = true

variable (owner : OwnerHub Action Policy Generation Binding Receipt Evidence)

/-- What every stored target carries beside what its operation was frozen with. -/
structure TargetSound (operation : owner.Operation) (target : owner.Target) : Prop where
  portable : isOwnerPortableId target.deviceId 256 = true
  confirmed : target.lifecycle ∈ [.accepted, .dispatched, .running, .applied] →
    operation.confirmedAtMs.isSome = true
  eligible : target.lifecycle ∈ [.proposed, .accepted, .dispatched, .running, .applied] →
    target.preflight.eligible = true
  settled : target.preflight.eligible = false → target.lifecycle ∈ [.rejected, .failed]
  invoked : ∀ invocation, target.invocation = some invocation →
    operation.confirmedAtMs.isSome = true ∧ target.preflight.eligible = true ∧
      invocation.operationId = operation.operationId ∧ invocation.previewId = operation.preview.previewId ∧
      invocation.identityRevision = target.identityRevision ∧ invocation.action = operation.preview.action ∧
      invocation.policy = operation.preview.policy
  received : ∀ receipt, target.receipt = some receipt → ∃ invocation, target.invocation = some invocation ∧
    Valid receipt ∧ owner.receiptMatches invocation receipt ∧
      target.lifecycle ∈ [.running, .applied, .failed] ∧
      (owner.family.receiptHeader receipt).operationId = operation.operationId ∧
      (owner.family.receiptHeader receipt).deviceId = target.deviceId
  applied : target.lifecycle = .applied → ∃ receipt, target.receipt = some receipt ∧
    owner.receiptEffective receipt = true
  evidence : target.evidence = owner.initialEvidence

structure OperationSound (operationId : String) (operation : owner.Operation) : Prop where
  named : operation.operationId = operationId
  started : operation.confirmedAtMs.isSome = true → operation.lifecycle ≠ .proposed
  distinct : (operation.targets.map (·.deviceId)).Nodup
  frozen : operation.targets.map (·.preflight) = operation.preview.targets
  targets : ∀ target ∈ operation.targets, TargetSound owner operation target

def LedgerSound (operations : owner.Stored) : Prop :=
  ∀ (operationId : String) operation, operations[operationId]? = some operation →
    OperationSound owner operationId operation

variable {owner} {hub : FleetHub} {operations : owner.Stored} {operation next : owner.Operation}
  {operationId : String} {nowMs : Int}

theorem TargetSound.unreceived {target : owner.Target} (sound : TargetSound owner operation target)
    (early : target.lifecycle ∉ [.running, .applied, .failed]) : target.receipt = none := by
  cases received : target.receipt with
  | none => rfl
  | some receipt =>
    obtain ⟨_, _, _, _, settled, _⟩ := sound.received receipt received
    exact absurd settled early

theorem proposed_untouched (sound : OperationSound owner operationId operation)
    (proposed : operation.lifecycle = .proposed) : ∀ target ∈ operation.targets,
      target.invocation = none ∧ target.receipt = none := by
  intro target member
  have unconfirmed : ¬ operation.confirmedAtMs.isSome = true := fun confirmed => sound.started confirmed proposed
  have kept := sound.targets target member
  have uninvoked : target.invocation = none := by
    cases invoked : target.invocation with
    | none => rfl
    | some invocation => exact absurd (kept.invoked invocation invoked).1 unconfirmed
  refine ⟨uninvoked, ?_⟩
  cases received : target.receipt with
  | none => rfl
  | some receipt =>
    obtain ⟨invocation, invoked, _⟩ := kept.received receipt received
    rw [uninvoked] at invoked
    cases invoked

theorem proposed_unaccepted (sound : OperationSound owner operationId operation)
    (proposed : operation.lifecycle = .proposed) : ∀ target ∈ operation.targets,
      target.lifecycle ∉ [.accepted, .dispatched, .running, .applied] := by
  intro target member live
  exact sound.started ((sound.targets target member).confirmed live) proposed

omit [ValidateContract Receipt] in
theorem previewTargets_facts (createdAtMs : Int) (devices : List String) (targets : List TargetPreflight)
    (valid : owner.family.previewTargetsViolations createdAtMs devices targets = []) :
    (targets.map (·.deviceId)).Nodup ∧ ∀ target ∈ targets, target.deviceId ∉ devices ∧
      owner.family.preflight.violations target = [] := by
  induction targets generalizing devices with
  | nil => exact ⟨List.nodup_nil, by intro target member; cases member⟩
  | cons first rest ih =>
    simp only [OwnerFamily.previewTargetsViolations, List.append_eq_nil_iff, violationIf_nil] at valid
    obtain ⟨⟨⟨new, own⟩, _⟩, later⟩ := valid
    obtain ⟨distinct, apart⟩ := ih _ later
    constructor
    · rw [List.map_cons, List.nodup_cons]
      refine ⟨?_, distinct⟩
      intro repeated
      obtain ⟨target, member, same⟩ := List.mem_map.mp repeated
      apply (apart target member).1
      rw [same]
      exact List.mem_cons_self
    · intro target member
      rcases List.mem_cons.mp member with rfl | inRest
      · exact ⟨new, own⟩
      · refine ⟨?_, (apart target inRest).2⟩
        intro earlier
        exact (apart target inRest).1 (List.mem_cons_of_mem _ earlier)

omit [ValidateContract Receipt] in
variable (owner) in
theorem derived_not_proposed (confirmed : operation.confirmedAtMs.isSome = true) :
    owner.deriveLifecycle operation ≠ .proposed := by
  simp only [OwnerHub.deriveLifecycle]
  repeat' split
  all_goals exact nofun

theorem TargetSound.congr {target : owner.Target} (sound : TargetSound owner operation target)
    (confirmed : next.confirmedAtMs = operation.confirmedAtMs)
    (named : next.operationId = operation.operationId) (preview : next.preview = operation.preview) :
    TargetSound owner next target := by
  refine ⟨sound.portable, ?_, sound.eligible, sound.settled, ?_, ?_, sound.applied, sound.evidence⟩
  · rw [confirmed]
    exact sound.confirmed
  · rw [confirmed, named, preview]
    exact sound.invoked
  · rw [named]
    exact sound.received

theorem confirmed_sound (sound : OperationSound owner operationId operation)
    (proposed : operation.lifecycle = .proposed) :
    OperationSound owner operationId (owner.confirmed operation nowMs) := by
  have untouched := proposed_untouched sound proposed
  have unaccepted := proposed_unaccepted sound proposed
  refine ⟨sound.named, fun _ => derived_not_proposed owner rfl, ?_, ?_, ?_⟩
  · have same : (owner.confirmed operation nowMs).targets.map (·.deviceId) =
        operation.targets.map (·.deviceId) := by
      simp only [OwnerHub.confirmed, List.map_map]
      apply List.map_congr_left
      intro target _
      simp only [Function.comp_apply]
      split <;> rfl
    rw [same]
    exact sound.distinct
  · have same : (owner.confirmed operation nowMs).targets.map (·.preflight) =
        operation.targets.map (·.preflight) := by
      simp only [OwnerHub.confirmed, List.map_map]
      apply List.map_congr_left
      intro target _
      simp only [Function.comp_apply]
      split <;> rfl
    rw [same]
    exact sound.frozen
  · intro target member
    obtain ⟨prior, known, same⟩ := List.mem_map.mp member
    obtain ⟨uninvoked, unreceived⟩ := untouched prior known
    have kept := sound.targets prior known
    by_cases eligible : prior.preflight.eligible = true
    · rw [if_pos eligible] at same
      subst same
      refine ⟨kept.portable, fun _ => rfl, fun _ => eligible, ?_, ?_, ?_, ?_, kept.evidence⟩
      · intro ineligible
        rw [eligible] at ineligible
        cases ineligible
      · intro invocation invoked
        rw [uninvoked] at invoked
        cases invoked
      · intro receipt received
        rw [unreceived] at received
        cases received
      · intro applied
        cases applied
    · rw [if_neg eligible] at same
      subst same
      refine ⟨kept.portable, fun _ => rfl, kept.eligible, kept.settled, ?_, ?_, kept.applied, kept.evidence⟩
      · intro invocation invoked
        rw [uninvoked] at invoked
        cases invoked
      · intro receipt received
        rw [unreceived] at received
        cases received

theorem prepared_sound {target : owner.Target} (sound : TargetSound owner operation target)
    (accepted : target.lifecycle = .accepted) (requestId : String) (generation : Generation) :
    TargetSound owner operation
      { target with
        invocation := some (preparedInvocation owner operation target requestId generation nowMs)
        updatedAtMs := nowMs } := by
  have confirmed := sound.confirmed (by rw [accepted]; decide)
  have eligible := sound.eligible (by rw [accepted]; decide)
  have unreceived := sound.unreceived (by rw [accepted]; decide)
  refine ⟨sound.portable, sound.confirmed, sound.eligible, sound.settled, ?_, ?_, sound.applied, sound.evidence⟩
  · rintro invocation ⟨⟩
    exact ⟨confirmed, eligible, rfl, rfl, rfl, rfl, rfl⟩
  · intro receipt received
    rw [unreceived] at received
    cases received

theorem dispatched_sound {target : owner.Target} (sound : TargetSound owner operation target)
    (accepted : target.lifecycle = .accepted) :
    TargetSound owner operation { target with lifecycle := .dispatched, updatedAtMs := nowMs } := by
  have confirmed := sound.confirmed (by rw [accepted]; decide)
  have eligible := sound.eligible (by rw [accepted]; decide)
  have unreceived := sound.unreceived (by rw [accepted]; decide)
  refine ⟨sound.portable, fun _ => confirmed, fun _ => eligible, ?_, sound.invoked, ?_, ?_, sound.evidence⟩
  · intro ineligible
    rw [eligible] at ineligible
    cases ineligible
  · intro receipt received
    rw [unreceived] at received
    cases received
  · intro applied
    cases applied

theorem received_sound (laws : OwnerLaws owner) {receipt : Receipt} {target : owner.Target}
    {invocation : OwnerInvocation Action Policy Generation} (sound : TargetSound owner operation target)
    (valid : Valid receipt) (invoked : target.invocation = some invocation)
    (bound : owner.receiptMatches invocation receipt)
    (named : (owner.family.receiptHeader receipt).operationId = operation.operationId)
    (device : (owner.family.receiptHeader receipt).deviceId = target.deviceId) :
    TargetSound owner operation (receivedTarget owner receipt nowMs target) := by
  obtain ⟨confirmed, eligible, _⟩ := sound.invoked invocation invoked
  refine ⟨sound.portable, fun _ => confirmed, fun _ => eligible, ?_, sound.invoked, ?_, ?_, ?_⟩
  · intro ineligible
    have known : target.preflight.eligible = false := ineligible
    rw [eligible] at known
    cases known
  · rintro stored ⟨⟩
    refine ⟨invocation, invoked, valid, bound, ?_, named, device⟩
    simp only [receivedTarget]
    split <;> decide
  · intro applied
    refine ⟨receipt, rfl, ?_⟩
    by_contra ineffective
    simp only [receivedTarget, if_neg ineffective] at applied
    cases applied
  · simp only [receivedTarget]
    rw [sound.evidence, laws.unchanged]

theorem failed_sound {target : owner.Target} (sound : TargetSound owner operation target) (code : String) :
    TargetSound owner operation
      { target with lifecycle := .failed, failureCode := some code, updatedAtMs := nowMs } := by
  refine ⟨sound.portable, ?_, ?_, fun _ => by simp, sound.invoked, ?_, ?_, sound.evidence⟩
  · intro live
    simp at live
  · intro live
    simp at live
  · intro receipt received
    obtain ⟨invocation, invoked, valid, bound, _, named⟩ := sound.received receipt received
    exact ⟨invocation, invoked, valid, bound, by simp, named⟩
  · intro applied
    cases applied

theorem rewritten_sound (sound : OperationSound owner operationId operation) {deviceId : String}
    {rewrite : owner.Target → owner.Target} {target : owner.Target} {lifecycle : CommandLifecycle}
    (found : operation.targets.find? (·.deviceId == deviceId) = some target)
    (device : (rewrite target).deviceId = target.deviceId)
    (preflight : (rewrite target).preflight = target.preflight)
    (kept : TargetSound owner operation (rewrite target))
    (rederived : lifecycle = operation.lifecycle ∨
      lifecycle = owner.deriveLifecycle (owner.rewriteTarget operation deviceId nowMs rewrite)) :
    OperationSound owner operationId
      { owner.rewriteTarget operation deviceId nowMs rewrite with lifecycle := lifecycle } := by
  have related := Support.modifyFirst_forall₂ (·.deviceId == deviceId) rewrite operation.targets target found
  refine ⟨sound.named, ?_, ?_, ?_, ?_⟩
  · intro confirmed
    rcases rederived with same | derived
    · rw [same]
      exact sound.started confirmed
    · rw [derived]
      exact derived_not_proposed owner confirmed
  · have same : (Support.modifyFirst (·.deviceId == deviceId) rewrite operation.targets).map (·.deviceId) =
        operation.targets.map (·.deviceId) := by
      refine Support.forall₂_map_congr _ (fun prior after changed => ?_) related
      rcases changed with rfl | ⟨rfl, rfl⟩
      · rfl
      · exact device
    exact same ▸ sound.distinct
  · have same : (Support.modifyFirst (·.deviceId == deviceId) rewrite operation.targets).map (·.preflight) =
        operation.targets.map (·.preflight) := by
      refine Support.forall₂_map_congr _ (fun prior after changed => ?_) related
      rcases changed with rfl | ⟨rfl, rfl⟩
      · rfl
      · exact preflight
    exact same.trans sound.frozen
  · intro after member
    obtain ⟨prior, known, changed⟩ := Support.forall₂_right related after member
    rcases changed with rfl | ⟨rfl, rfl⟩
    · exact (sound.targets after known).congr rfl rfl rfl
    · exact kept.congr rfl rfl rfl

section Calls

variable [DecidableEq Action] [DecidableEq Policy] [DecidableEq Binding]

omit [DecidableEq Action] [DecidableEq Policy] [DecidableEq Binding] [ValidateContract Receipt] in
theorem preflight_describes (record : DeviceRecord) (evaluatedAtMs : Int) (providerReady : Bool)
    {current : TargetPreflight} (ok : owner.preflight record evaluatedAtMs providerReady = .ok current) :
    current.deviceId = record.observation.identity.deviceId ∧
      current.identityRevision = record.observation.identity.identityRevision := by
  unfold OwnerHub.preflight at ok
  split at ok
  · cases ok
    exact ⟨rfl, rfl⟩
  · simp only [exceptBind_ok, exceptPure_ok] at ok
    obtain ⟨_, _, rfl⟩ := ok
    exact ⟨rfl, rfl⟩

omit [DecidableEq Action] [DecidableEq Policy] [DecidableEq Binding] [ValidateContract Receipt] in
theorem requested_portable {request : OwnerPreviewRequest Action Policy}
    (accepted : owner.family.requestViolations request = []) :
    ∀ entry ∈ request.targets.toList, isOwnerPortableId entry.1 256 = true := by
  intro entry member
  simp only [OwnerFamily.requestViolations, OwnerFamily.requestTargetsViolations, List.append_eq_nil_iff,
    List.flatMap_eq_nil_iff, violationIf_nil, not_or, not_not] at accepted
  exact (accepted.2.2 _ member).1

omit [DecidableEq Action] [DecidableEq Policy] [DecidableEq Binding] in
theorem proposedTarget_sound {createdAtMs : Int}
    {preflight : TargetPreflight} (portable : isOwnerPortableId preflight.deviceId 256 = true) :
    TargetSound owner operation (owner.proposedTarget createdAtMs preflight) where
  portable := portable
  confirmed := by
    intro live
    simp only [OwnerHub.proposedTarget] at live
    split at live <;> simp at live
  eligible := by
    intro live
    simp only [OwnerHub.proposedTarget] at live ⊢
    by_contra ineligible
    simp only [if_neg ineligible] at live
    simp at live
  settled := by
    intro ineligible
    have known : preflight.eligible = false := ineligible
    simp [OwnerHub.proposedTarget, known]
  invoked := by
    intro invocation invoked
    cases invoked
  received := by
    intro receipt received
    cases received
  applied := by
    intro applied
    simp only [OwnerHub.proposedTarget] at applied
    split at applied <;> cases applied
  evidence := rfl

theorem proposedOperation_distinct {plan : OwnerPreviewPlan Action Policy Generation} {fleetRevision : Nat}
    {preflights : List TargetPreflight}
    (admitted : owner.family.operationViolations (owner.proposedOperation plan fleetRevision preflights) = []) :
    ((owner.proposedOperation plan fleetRevision preflights).targets.map (·.deviceId)).Nodup := by
  have parts : (_ ++ owner.family.previewViolations _ ++ _ ++ _ : List ContractViolation) = [] := admitted
  simp only [List.append_eq_nil_iff] at parts
  have preview := parts.1.1.2
  simp only [OwnerFamily.previewViolations, List.append_eq_nil_iff] at preview
  have distinct := (previewTargets_facts _ [] _ preview.2).1
  have same : (owner.proposedOperation plan fleetRevision preflights).targets.map (·.deviceId) =
      preflights.map (·.deviceId) := by
    simp only [OwnerHub.proposedOperation, List.map_map]
    rfl
  rw [same]
  exact distinct

theorem previewEdit_sound (keyed : DirectoryKeyed hub)
    {plan : OwnerPreviewPlan Action Policy Generation}
    (ok : owner.previewEdit hub operations plan = .ok (.rewritten next)) :
    OperationSound owner plan.operationId next ∧ owner.family.operationViolations next = [] := by
  simp only [OwnerHub.previewEdit, exceptBind_ok, errorIf_ok, not_or] at ok
  obtain ⟨_, ⟨requested, _⟩, ok⟩ := ok
  cases stored : operations[plan.operationId]? with
  | some existing =>
    simp only [stored, exceptBind_ok, errorIf_ok, exceptPure_ok] at ok
    obtain ⟨_, _, same⟩ := ok
    cases same
  | none =>
    simp only [stored, exceptBind_ok, errorIf_ok, exceptPure_ok, OwnerHub.validateOperation] at ok
    obtain ⟨preflights, frozen, _, valid, _, _, same⟩ := ok
    cases same
    have admitted := not_not.mp valid
    refine ⟨⟨rfl, (by intro confirmed; cases confirmed), proposedOperation_distinct admitted, ?_, ?_⟩, admitted⟩
    · simp only [OwnerHub.proposedOperation, List.map_map]
      exact List.map_id _
    · have named := requestedPreflights_named keyed owner.targetTexts _
        (fun deviceId record current judged => preflight_describes record _ _ judged)
        plan.request.targets.toList preflights frozen
      intro target member
      obtain ⟨preflight, listed, rfl⟩ := List.mem_map.mp member
      have entry : (preflight.deviceId, preflight.identityRevision) ∈ plan.request.targets.toList := by
        rw [← named]
        exact List.mem_map.mpr ⟨preflight, listed, rfl⟩
      exact proposedTarget_sound (requested_portable (not_not.mp requested) _ entry)

theorem callEdit_sound (laws : OwnerLaws owner) (keyed : DirectoryKeyed hub)
    (sound : LedgerSound owner operations) (call : OwnerCall Action Policy Generation Receipt)
    (ok : owner.callEdit hub operations call = .ok (.rewritten next)) :
    OperationSound owner (owner.callOperation call) next := by
  cases call with
  | preview plan => exact (previewEdit_sound keyed ok).1
  | confirm operationId previewId nowMs =>
    obtain ⟨operation, checks, rfl⟩ := confirmEdit_iff.mp ok
    exact confirmed_sound (sound operationId operation checks.stored) checks.proposed
  | prepare operationId deviceId requestId expected nowMs =>
    obtain ⟨operation, target, generation, checks, rfl⟩ := prepareEdit_iff.mp ok
    have kept := sound operationId operation checks.stored
    have own := kept.targets target (List.mem_of_find?_eq_some checks.found)
    exact rewritten_sound kept checks.found rfl rfl (prepared_sound own checks.accepted requestId generation) (.inl rfl)
  | dispatched operationId deviceId nowMs =>
    obtain ⟨operation, target, checks, rfl⟩ := dispatchedEdit_iff.mp ok
    have kept := sound operationId operation checks.stored
    have own := kept.targets target (List.mem_of_find?_eq_some checks.found)
    exact rewritten_sound kept checks.found rfl rfl (dispatched_sound own checks.accepted) (.inr rfl)
  | receipt receipt nowMs =>
    obtain ⟨operation, target, invocation, checks, rfl⟩ := receiptEdit_iff.mp ok
    have kept := sound _ operation checks.stored
    have own := kept.targets target (List.mem_of_find?_eq_some checks.found)
    have device : target.deviceId = (owner.family.receiptHeader receipt).deviceId := by
      have same := List.find?_some checks.found
      exact beq_iff_eq.mp same
    exact rewritten_sound kept checks.found rfl rfl
      (received_sound laws own checks.valid checks.invoked checks.bound kept.named.symm device.symm) (.inr rfl)
  | fail operationId deviceId code nowMs =>
    obtain ⟨operation, target, checks, rfl⟩ := failEdit_iff.mp ok
    have kept := sound operationId operation checks.stored
    have own := kept.targets target (List.mem_of_find?_eq_some checks.found)
    exact rewritten_sound kept checks.found rfl rfl (failed_sound own code) (.inr rfl)

theorem handleCall_sound (laws : OwnerLaws owner) (keyed : DirectoryKeyed hub)
    (sound : LedgerSound owner operations) (call : OwnerCall Action Policy Generation Receipt) :
    LedgerSound owner (owner.handleCall hub operations call).2 := by
  rcases settle_cases operations (owner.callOperation call) (owner.callEdit hub operations call) with
    same | ⟨next, edit, settled⟩
  · rw [OwnerHub.handleCall, same]
    exact sound
  · rw [OwnerHub.handleCall, settled]
    exact BTreeMap.insert_forall _ _ next (fun id operation => OperationSound owner id operation) sound
      (callEdit_sound laws keyed sound call edit)

end Calls

end Ledger

end RustyFleet.OwnerSafety

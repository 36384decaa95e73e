import RustyFleet.Safety.OwnerAtomicity

namespace RustyFleet.OwnerSafety

section Discipline

variable {Action Policy Generation Binding Receipt Evidence : Type} [ValidateContract Receipt]

structure TargetDisciplined (owner : OwnerHub Action Policy Generation Binding Receipt Evidence)
    (reported : List (String × String)) (operationId : String) (target : owner.Target) : Prop where
  ineligible : target.preflight.eligible = false → target.invocation = none ∧ target.receipt = none ∧
    (target.lifecycle = .rejected ∨ (operationId, target.deviceId) ∈ reported)
  applied : target.lifecycle = .applied → ∃ receipt invocation, target.receipt = some receipt ∧
    target.invocation = some invocation ∧ Valid receipt ∧ owner.receiptEffective receipt = true ∧
      (owner.family.receiptHeader receipt).requestId = invocation.requestId

/-- Every stored target is disciplined and holds the preflight its preview froze. -/
def LedgerDisciplined (owner : OwnerHub Action Policy Generation Binding Receipt Evidence)
    (reported : List (String × String)) (operations : owner.Stored) : Prop :=
  ∀ (operationId : String) operation, operations[operationId]? = some operation →
    operation.targets.map (·.preflight) = operation.preview.targets ∧
      ∀ target ∈ operation.targets, TargetDisciplined owner reported operationId target

def failureReport : OwnerCall Action Policy Generation Receipt → List (String × String)
  | .fail operationId deviceId _ _ => [(operationId, deviceId)]
  | _ => []

def RejectedUnlessReported (owner : OwnerHub Action Policy Generation Binding Receipt Evidence)
    (reported : List (String × String)) (operations : owner.Stored) : Prop :=
  ∀ (operationId : String) operation, operations[operationId]? = some operation →
    ∀ target ∈ operation.targets, target.preflight.eligible = false →
      target.lifecycle = .rejected ∨ (operationId, target.deviceId) ∈ reported

variable {owner : OwnerHub Action Policy Generation Binding Receipt Evidence} {hub : FleetHub}
  {operations : owner.Stored} {reported : List (String × String)}

theorem disciplined_of_sound (sound : LedgerSound owner operations)
    (rejected : RejectedUnlessReported owner reported operations) :
    LedgerDisciplined owner reported operations := by
  intro operationId operation stored
  have kept := sound operationId operation stored
  refine ⟨kept.frozen, ?_⟩
  intro target member
  have own := kept.targets target member
  constructor
  · intro ineligible
    have uninvoked : target.invocation = none := by
      cases invoked : target.invocation with
      | none => rfl
      | some invocation =>
        have eligible := (own.invoked invocation invoked).2.1
        rw [ineligible] at eligible
        cases eligible
    refine ⟨uninvoked, ?_, rejected operationId operation stored target member ineligible⟩
    cases received : target.receipt with
    | none => rfl
    | some receipt =>
      obtain ⟨invocation, invoked, _⟩ := own.received receipt received
      rw [uninvoked] at invoked
      cases invoked
  · intro applied
    obtain ⟨receipt, received, effective⟩ := own.applied applied
    obtain ⟨invocation, invoked, valid, bound, _⟩ := own.received receipt received
    exact ⟨receipt, invocation, received, invoked, valid, effective, bound.1⟩

structure TargetMoves (owner : OwnerHub Action Policy Generation Binding Receipt Evidence)
    (call : OwnerCall Action Policy Generation Receipt) (operationId : String) (prior next : owner.Target) :
    Prop where
  device : next.deviceId = prior.deviceId
  preflight : next.preflight = prior.preflight
  ineligible : prior.preflight.eligible = false → next.lifecycle = prior.lifecycle ∨
    (operationId, prior.deviceId) ∈ failureReport call
  failed : prior.lifecycle ≠ .failed → next.lifecycle = .failed →
    ∃ code nowMs, call = .fail operationId prior.deviceId code nowMs

omit [ValidateContract Receipt] in
theorem TargetMoves.refl (call : OwnerCall Action Policy Generation Receipt) (operationId : String)
    (target : owner.Target) : TargetMoves owner call operationId target target :=
  ⟨rfl, rfl, fun _ => .inl rfl, fun before after => absurd after before⟩

omit [ValidateContract Receipt] in
theorem rewritten_moves {call : OwnerCall Action Policy Generation Receipt} {operationId deviceId : String}
    {operation : owner.Operation} {rewrite : owner.Target → owner.Target} {target : owner.Target}
    (found : operation.targets.find? (·.deviceId == deviceId) = some target)
    (moves : TargetMoves owner call operationId target (rewrite target)) :
    List.Forall₂ (TargetMoves owner call operationId) operation.targets
      (Support.modifyFirst (·.deviceId == deviceId) rewrite operation.targets) := by
  refine (Support.modifyFirst_forall₂ _ rewrite operation.targets target found).imp fun prior next changed => ?_
  rcases changed with rfl | ⟨rfl, rfl⟩
  · exact .refl call operationId _
  · exact moves

theorem callEdit_moves [DecidableEq Action] [DecidableEq Policy] [DecidableEq Binding]
    (sound : LedgerSound owner operations) (call : OwnerCall Action Policy Generation Receipt)
    {operation next : owner.Operation} (stored : operations[owner.callOperation call]? = some operation)
    (ok : owner.callEdit hub operations call = .ok (.rewritten next)) :
    List.Forall₂ (TargetMoves owner call (owner.callOperation call)) operation.targets next.targets := by
  have kept := sound _ operation stored
  have eligible : ∀ (target : owner.Target), target ∈ operation.targets →
      target.lifecycle ∈ [.accepted, .dispatched, .running, .applied] → target.preflight.eligible ≠ false := by
    intro target member live ineligible
    have settled := (kept.targets target member).settled ineligible
    rcases List.mem_cons.mp settled with rejected | failed
    · rw [rejected] at live
      simp at live
    · rw [List.mem_singleton.mp failed] at live
      simp at live
  cases call with
  | preview plan =>
    have absent := (previewEdit_rewritten ok).1
    rw [OwnerHub.callOperation, absent] at stored
    cases stored
  | confirm operationId previewId nowMs =>
    obtain ⟨known, checks, rfl⟩ := confirmEdit_iff.mp ok
    rw [OwnerHub.callOperation, checks.stored] at stored
    obtain rfl := Option.some.inj stored
    simp only [OwnerHub.confirmed, List.forall₂_map_right_iff]
    refine List.forall₂_same.mpr fun target member => ?_
    split
    · rename_i ready
      refine ⟨rfl, rfl, ?_, ?_⟩
      · intro ineligible
        rw [ready] at ineligible
        cases ineligible
      · intro _ failed
        cases failed
    · exact .refl _ _ _
  | prepare operationId deviceId requestId expected nowMs =>
    obtain ⟨known, target, generation, checks, rfl⟩ := prepareEdit_iff.mp ok
    rw [OwnerHub.callOperation, checks.stored] at stored
    obtain rfl := Option.some.inj stored
    exact rewritten_moves checks.found
      ⟨rfl, rfl, fun _ => .inl rfl, fun before after => absurd after before⟩
  | dispatched operationId deviceId nowMs =>
    obtain ⟨known, target, checks, rfl⟩ := dispatchedEdit_iff.mp ok
    rw [OwnerHub.callOperation, checks.stored] at stored
    obtain rfl := Option.some.inj stored
    refine rewritten_moves checks.found ⟨rfl, rfl, ?_, ?_⟩
    · intro ineligible
      exact absurd ineligible (eligible target (List.mem_of_find?_eq_some checks.found) (by simp [checks.accepted]))
    · intro _ failed
      cases failed
  | receipt receipt nowMs =>
    obtain ⟨known, target, invocation, checks, rfl⟩ := receiptEdit_iff.mp ok
    rw [OwnerHub.callOperation, checks.stored] at stored
    obtain rfl := Option.some.inj stored
    refine rewritten_moves checks.found ⟨rfl, rfl, ?_, ?_⟩
    · intro ineligible
      have member := List.mem_of_find?_eq_some checks.found
      have ready := ((kept.targets target member).invoked invocation checks.invoked).2.1
      rw [ineligible] at ready
      cases ready
    · intro _ failed
      simp only [receivedTarget] at failed
      split at failed <;> cases failed
  | fail operationId deviceId code nowMs =>
    obtain ⟨known, target, checks, rfl⟩ := failEdit_iff.mp ok
    rw [OwnerHub.callOperation, checks.stored] at stored
    obtain rfl := Option.some.inj stored
    have named : target.deviceId = deviceId := by
      have same := List.find?_some checks.found
      exact beq_iff_eq.mp same
    refine rewritten_moves checks.found ⟨rfl, rfl, ?_, ?_⟩
    · intro _
      rw [named]
      exact .inr (List.mem_singleton_self _)
    · intro _ _
      rw [named]
      exact ⟨code, nowMs, rfl⟩

/-- A target that a call leaves failed was failed before, or is the one the failure report names. -/
def FailsOnlyByReport (owner : OwnerHub Action Policy Generation Binding Receipt Evidence)
    (reported : List (String × String)) (before after : owner.Stored) : Prop :=
  ∀ (operationId : String) next, after[operationId]? = some next →
    ∀ target ∈ next.targets, target.lifecycle = .failed →
      (operationId, target.deviceId) ∈ reported ∨ ∃ operation, before[operationId]? = some operation ∧
        ∃ prior ∈ operation.targets, prior.deviceId = target.deviceId ∧ prior.lifecycle = .failed

section Steps

variable [DecidableEq Action] [DecidableEq Policy] [DecidableEq Binding]

theorem proposed_targets {plan : OwnerPreviewPlan Action Policy Generation} {next : owner.Operation}
    (ok : owner.previewEdit hub operations plan = .ok (.rewritten next)) :
    ∀ target ∈ next.targets, target.lifecycle ≠ .failed ∧
      (target.preflight.eligible = false → target.lifecycle = .rejected) := by
  obtain ⟨_, _, _, preflights, rfl⟩ := previewEdit_rewritten ok
  intro target member
  obtain ⟨preflight, _, rfl⟩ := List.mem_map.mp member
  by_cases eligible : preflight.eligible = true
  · have proposed : (owner.proposedTarget plan.createdAtMs preflight).lifecycle = .proposed := if_pos eligible
    rw [proposed]
    refine ⟨by decide, ?_⟩
    intro ineligible
    have known : preflight.eligible = false := ineligible
    rw [eligible] at known
    cases known
  · have rejected : (owner.proposedTarget plan.createdAtMs preflight).lifecycle = .rejected := if_neg eligible
    rw [rejected]
    exact ⟨by decide, fun _ => rfl⟩

theorem callEdit_origin (sound : LedgerSound owner operations)
    (call : OwnerCall Action Policy Generation Receipt) {next : owner.Operation}
    (ok : owner.callEdit hub operations call = .ok (.rewritten next)) :
    (∀ target ∈ next.targets, target.lifecycle ≠ .failed ∧
        (target.preflight.eligible = false → target.lifecycle = .rejected)) ∨
      ∃ operation, operations[owner.callOperation call]? = some operation ∧
        List.Forall₂ (TargetMoves owner call (owner.callOperation call)) operation.targets next.targets := by
  cases stored : operations[owner.callOperation call]? with
  | some operation => exact .inr ⟨operation, rfl, callEdit_moves sound call stored ok⟩
  | none =>
    refine .inl ?_
    cases call with
    | preview plan => exact proposed_targets ok
    | confirm operationId previewId nowMs =>
      obtain ⟨operation, checks, _⟩ := confirmEdit_iff.mp ok
      rw [OwnerHub.callOperation, checks.stored] at stored
      cases stored
    | prepare operationId deviceId requestId expected nowMs =>
      obtain ⟨operation, _, _, checks, _⟩ := prepareEdit_iff.mp ok
      rw [OwnerHub.callOperation, checks.stored] at stored
      cases stored
    | dispatched operationId deviceId nowMs =>
      obtain ⟨operation, _, checks, _⟩ := dispatchedEdit_iff.mp ok
      rw [OwnerHub.callOperation, checks.stored] at stored
      cases stored
    | receipt receipt nowMs =>
      obtain ⟨operation, _, _, checks, _⟩ := receiptEdit_iff.mp ok
      rw [OwnerHub.callOperation, checks.stored] at stored
      cases stored
    | fail operationId deviceId code nowMs =>
      obtain ⟨operation, _, checks, _⟩ := failEdit_iff.mp ok
      rw [OwnerHub.callOperation, checks.stored] at stored
      cases stored

theorem handleCall_rejected (sound : LedgerSound owner operations)
    (rejected : RejectedUnlessReported owner reported operations)
    (call : OwnerCall Action Policy Generation Receipt) :
    RejectedUnlessReported owner (reported ++ failureReport call) (owner.handleCall hub operations call).2 := by
  have carried : RejectedUnlessReported owner (reported ++ failureReport call) operations := by
    intro operationId operation stored target member ineligible
    rcases rejected operationId operation stored target member ineligible with kept | named
    · exact .inl kept
    · exact .inr (List.mem_append_left _ named)
  rcases settle_cases operations (owner.callOperation call) (owner.callEdit hub operations call) with
    same | ⟨next, edit, settled⟩
  · rw [OwnerHub.handleCall, same]
    exact carried
  · rw [OwnerHub.handleCall, settled]
    refine BTreeMap.insert_forall _ _ next (fun operationId operation => ∀ target ∈ operation.targets,
      target.preflight.eligible = false → target.lifecycle = .rejected ∨
        (operationId, target.deviceId) ∈ reported ++ failureReport call) carried ?_
    intro target member ineligible
    rcases callEdit_origin sound call edit with fresh | ⟨operation, stored, moved⟩
    · exact .inl ((fresh target member).2 ineligible)
    · obtain ⟨prior, known, moves⟩ := Support.forall₂_right moved target member
      rw [moves.preflight] at ineligible
      rw [moves.device]
      rcases moves.ineligible ineligible with kept | named
      · rw [kept]
        exact carried _ operation stored prior known ineligible
      · exact .inr (List.mem_append_right _ named)

theorem handleCall_fails (sound : LedgerSound owner operations)
    (call : OwnerCall Action Policy Generation Receipt) :
    FailsOnlyByReport owner (failureReport call) operations (owner.handleCall hub operations call).2 := by
  have still : ∀ (operationId : String) operation, operations[operationId]? = some operation →
      ∀ target ∈ operation.targets, target.lifecycle = .failed →
        (operationId, target.deviceId) ∈ failureReport call ∨
          ∃ prior, operations[operationId]? = some prior ∧
            ∃ former ∈ prior.targets, former.deviceId = target.deviceId ∧ former.lifecycle = .failed :=
    fun operationId operation stored target member failed =>
      .inr ⟨operation, stored, target, member, rfl, failed⟩
  rcases settle_cases operations (owner.callOperation call) (owner.callEdit hub operations call) with
    same | ⟨next, edit, settled⟩
  · rw [OwnerHub.handleCall, same]
    exact still
  · rw [OwnerHub.handleCall, settled]
    refine BTreeMap.insert_forall _ _ next (fun operationId operation => ∀ target ∈ operation.targets,
      target.lifecycle = .failed → (operationId, target.deviceId) ∈ failureReport call ∨
        ∃ prior, operations[operationId]? = some prior ∧
          ∃ former ∈ prior.targets, former.deviceId = target.deviceId ∧ former.lifecycle = .failed) still ?_
    intro target member failed
    rcases callEdit_origin sound call edit with fresh | ⟨operation, stored, moved⟩
    · exact absurd failed (fresh target member).1
    · obtain ⟨prior, known, moves⟩ := Support.forall₂_right moved target member
      rw [moves.device]
      by_cases former : prior.lifecycle = .failed
      · exact .inr ⟨operation, stored, prior, known, rfl, former⟩
      · obtain ⟨code, nowMs, reported⟩ := moves.failed former failed
        refine .inl ?_
        rw [reported]
        exact List.mem_singleton_self _

omit [DecidableEq Action] [DecidableEq Policy] [DecidableEq Binding] [ValidateContract Receipt] in
theorem fails_unchanged (operations : owner.Stored) (reported : List (String × String)) :
    FailsOnlyByReport owner reported operations operations :=
  fun _ operation stored target member failed => .inr ⟨operation, stored, target, member, rfl, failed⟩

omit [DecidableEq Action] [DecidableEq Policy] [DecidableEq Binding] in
theorem ledgerSound_empty : LedgerSound owner ∅ := by
  intro operationId operation stored
  simp at stored

omit [DecidableEq Action] [DecidableEq Policy] [DecidableEq Binding] [ValidateContract Receipt] in
theorem rejected_empty : RejectedUnlessReported owner [] ∅ := by
  intro operationId operation stored
  simp at stored

end Steps

end Discipline

section Runs

variable [HubEnvironment] {hub : FleetHub}

def awakeReport : HubCall → List (String × String)
  | .awake call => failureReport call.owner
  | _ => []

def wifiAdbReport : HubCall → List (String × String)
  | .wifiAdb call => failureReport call.owner
  | _ => []

structure OwnersDisciplined (awake wifiAdb : List (String × String)) (hub : FleetHub) : Prop where
  keyed : DirectoryKeyed hub
  awakeSound : LedgerSound questAwakeHub hub.awakeOperations
  wifiAdbSound : LedgerSound questWifiAdbHub hub.wifiAdbOperations
  awakeRejected : RejectedUnlessReported questAwakeHub awake hub.awakeOperations
  wifiAdbRejected : RejectedUnlessReported questWifiAdbHub wifiAdb hub.wifiAdbOperations

theorem ownersDisciplined_new (policy : AssertedPolicy) : OwnersDisciplined [] [] (.new policy) where
  keyed := directoryKeyed_new policy
  awakeSound := ledgerSound_empty
  wifiAdbSound := ledgerSound_empty
  awakeRejected := rejected_empty
  wifiAdbRejected := rejected_empty

theorem call_keeps_discipline {awake wifiAdb : List (String × String)}
    (sound : OwnersDisciplined awake wifiAdb hub) (call : HubCall) :
    OwnersDisciplined (awake ++ awakeReport call) (wifiAdb ++ wifiAdbReport call) (hub.handle call).1 := by
  have others := hub.handle_leaves_others call
  have keyed := call_keyed sound.keyed call
  by_cases ownAwake : ∃ awakeCall, call = .awake awakeCall
  · obtain ⟨awakeCall, rfl⟩ := ownAwake
    have apart := others.wifiAdb (by intro wifiCall same; cases same)
    refine ⟨keyed, ?_, ?_, ?_, ?_⟩
    · rw [FleetHub.handle_awake, FleetHub.handleAwake_owner]
      exact handleCall_sound awake_laws sound.keyed sound.awakeSound awakeCall.owner
    · rw [apart]
      exact sound.wifiAdbSound
    · rw [FleetHub.handle_awake, FleetHub.handleAwake_owner]
      exact handleCall_rejected sound.awakeSound sound.awakeRejected awakeCall.owner
    · have silent : wifiAdbReport (.awake awakeCall) = [] := rfl
      rw [apart, silent, List.append_nil]
      exact sound.wifiAdbRejected
  · have apart := others.awake fun awakeCall same => ownAwake ⟨awakeCall, same⟩
    have unreported : awakeReport call = [] := by
      unfold awakeReport
      split
      · rename_i awakeCall
        exact absurd ⟨awakeCall, rfl⟩ ownAwake
      · rfl
    rw [unreported, List.append_nil]
    by_cases ownWifi : ∃ wifiCall, call = .wifiAdb wifiCall
    · obtain ⟨wifiCall, rfl⟩ := ownWifi
      refine ⟨keyed, apart.symm ▸ sound.awakeSound, ?_, apart.symm ▸ sound.awakeRejected, ?_⟩
      · rw [FleetHub.handle_wifiAdb, FleetHub.handleWifiAdb_owner]
        exact handleCall_sound wifiAdb_laws sound.keyed sound.wifiAdbSound wifiCall.owner
      · rw [FleetHub.handle_wifiAdb, FleetHub.handleWifiAdb_owner]
        exact handleCall_rejected sound.wifiAdbSound sound.wifiAdbRejected wifiCall.owner
    · have alone := others.wifiAdb fun wifiCall same => ownWifi ⟨wifiCall, same⟩
      have silent : wifiAdbReport call = [] := by
        unfold wifiAdbReport
        split
        · rename_i wifiCall
          exact absurd ⟨wifiCall, rfl⟩ ownWifi
        · rfl
      rw [silent, List.append_nil]
      exact ⟨keyed, apart.symm ▸ sound.awakeSound, alone.symm ▸ sound.wifiAdbSound,
        apart.symm ▸ sound.awakeRejected, alone.symm ▸ sound.wifiAdbRejected⟩

theorem run_disciplined (calls : List HubCall) (hub : FleetHub) (awake wifiAdb : List (String × String))
    (sound : OwnersDisciplined awake wifiAdb hub) :
    OwnersDisciplined (awake ++ calls.flatMap awakeReport) (wifiAdb ++ calls.flatMap wifiAdbReport)
      (fleetHubMachine.run hub calls) := by
  induction calls generalizing hub awake wifiAdb with
  | nil => simpa [Machine.run] using sound
  | cons call rest ih =>
    have later := ih (hub.handle call).1 _ _ (call_keeps_discipline sound call)
    rw [List.append_assoc, List.append_assoc] at later
    rw [List.flatMap_cons, List.flatMap_cons]
    exact later

/-- After any run every target is disciplined, and a further call makes a target failed only by reporting it. -/
theorem owner_targets_disciplined (policy : AssertedPolicy) (calls : List HubCall) :
    let hub := fleetHubMachine.run (.new policy) calls
    LedgerDisciplined questAwakeHub (calls.flatMap awakeReport) hub.awakeOperations ∧
      LedgerDisciplined questWifiAdbHub (calls.flatMap wifiAdbReport) hub.wifiAdbOperations ∧
      ∀ call, FailsOnlyByReport questAwakeHub (awakeReport call) hub.awakeOperations
          (hub.handle call).1.awakeOperations ∧
        FailsOnlyByReport questWifiAdbHub (wifiAdbReport call) hub.wifiAdbOperations
          (hub.handle call).1.wifiAdbOperations := by
  have ending := run_disciplined calls (.new policy) [] [] (ownersDisciplined_new policy)
  simp only [List.nil_append] at ending
  intro hub
  refine ⟨disciplined_of_sound ending.awakeSound ending.awakeRejected,
    disciplined_of_sound ending.wifiAdbSound ending.wifiAdbRejected, ?_⟩
  intro call
  have others := hub.handle_leaves_others call
  constructor
  · by_cases own : ∃ awakeCall, call = .awake awakeCall
    · obtain ⟨awakeCall, rfl⟩ := own
      rw [FleetHub.handle_awake, FleetHub.handleAwake_owner]
      exact handleCall_fails ending.awakeSound awakeCall.owner
    · rw [others.awake fun awakeCall same => own ⟨awakeCall, same⟩]
      exact fails_unchanged _ _
  · by_cases own : ∃ wifiCall, call = .wifiAdb wifiCall
    · obtain ⟨wifiCall, rfl⟩ := own
      rw [FleetHub.handle_wifiAdb, FleetHub.handleWifiAdb_owner]
      exact handleCall_fails ending.wifiAdbSound wifiCall.owner
    · rw [others.wifiAdb fun wifiCall same => own ⟨wifiCall, same⟩]
      exact fails_unchanged _ _

end Runs

section Samples

open PackageSafety

def watchdogReceipt (operationId requestId : String) (observedAtMs : Int) : QuestAwakeOwnerReceipt where
  schema := questAwakeReceiptSchema
  requestId := requestId
  operationId := operationId
  previewId := "preview-1"
  deviceId := "d1"
  identityRevision := 1
  action := .startWindowsWatchdog
  watchdogGeneration := "generation-1"
  requestedDurationMs := 60000
  requestedWatchdogIntervalMs := 1000
  stayOnEffective := true
  proximityHoldEffective := true
  wakeEffective := true
  windowsWatchdogEffective := true
  deviceWatchdogEffective := false
  settingsRestored := false
  effective := true
  settingsLeftUnchanged := false
  outcome := "effective"
  repairCount := 0
  power :=
    { wakefulness := "Awake"
      displayState := "ON"
      stayOn := true
      autoSleepDisabled := none
      proximityState := "CLOSE"
      proximityHoldDurationMs := some 60000
      proximityHoldRemainingMs := some 50000
      capturedAtMs := observedAtMs }
  deviceWatchdog :=
    { reportedActive := false
      fresh := false
      generation := ""
      bootIdSha256 := String.ofList (List.replicate 64 'a')
      intervalMs := 0
      lastPollMs := 0
      proximityRepairCount := 0
      stayOnRepairCount := 0
      wakeRepairCount := 0
      lastAction := ""
      lastError := "" }
  evidenceSha256 := String.ofList (List.replicate 64 'a')
  observedAtMs := observedAtMs

def watchdogApplied (operationId requestId : String) (nowMs : Int) : List HubCall :=
  [.awake (.preview (awakePlan operationId .startWindowsWatchdog)),
    .awake (.confirm operationId "preview-1" nowMs),
    .awake (.prepare operationId "d1" requestId nowMs),
    .awake (.dispatched operationId "d1" nowMs),
    .awake (.receipt (watchdogReceipt operationId requestId nowMs) nowMs)]

def watchdogRun : List HubCall :=
  .observe (readyObservation "d1") 1000 :: watchdogApplied "op-1" "request-1" 1002

/-- A call fails targets only while they are accepted, dispatched or running. -/
def FailsOnlyLive (before after : questAwakeHub.Stored) : Prop :=
  ∀ (operationId : String) operation next, before[operationId]? = some operation →
    after[operationId]? = some next → ∀ prior ∈ operation.targets, ∀ target ∈ next.targets,
      target.deviceId = prior.deviceId → target.lifecycle = .failed → prior.lifecycle ≠ .failed →
        prior.lifecycle ∈ [.accepted, .dispatched, .running]

def targetLifecycles (operations : questAwakeHub.Stored) (operationId : String) :
    Option (List (String × CommandLifecycle)) :=
  operations[operationId]?.map fun operation =>
    operation.targets.map fun target => (target.deviceId, target.lifecycle)

set_option maxRecDepth 30000 in
/-- The watchdog worker reports an applied target as failed. -/
theorem applied_target_fails :
    ∃ (_ : HubEnvironment) (policy : AssertedPolicy) (calls : List HubCall) (call : HubCall),
      ¬ FailsOnlyLive (fleetHubMachine.run (.new policy) calls).awakeOperations
        (fleetHubMachine.next (fleetHubMachine.run (.new policy) calls) call).awakeOperations := by
  refine ⟨sampleEnvironment, samplePolicy, watchdogRun,
    .awake (.fail "op-1" "d1" "watchdog_worker_failed" 1003), ?_⟩
  have moved : targetLifecycles (sampleHubMachine.run (.new samplePolicy) watchdogRun).awakeOperations "op-1" =
      some [("d1", .applied)] ∧
      targetLifecycles (sampleHubMachine.next (sampleHubMachine.run (.new samplePolicy) watchdogRun)
        (.awake (.fail "op-1" "d1" "watchdog_worker_failed" 1003))).awakeOperations "op-1" =
      some [("d1", .failed)] := by
    decide
  obtain ⟨before, after⟩ := moved
  obtain ⟨operation, stored, priors⟩ := Option.map_eq_some_iff.mp before
  obtain ⟨next, left, targets⟩ := Option.map_eq_some_iff.mp after
  have known : (("d1", .applied) : String × CommandLifecycle) ∈
      operation.targets.map fun target => (target.deviceId, target.lifecycle) := by
    rw [priors]
    exact List.mem_singleton_self _
  have failed : (("d1", .failed) : String × CommandLifecycle) ∈
      next.targets.map fun target => (target.deviceId, target.lifecycle) := by
    rw [targets]
    exact List.mem_singleton_self _
  obtain ⟨prior, member, samePrior⟩ := List.mem_map.mp known
  obtain ⟨target, reached, sameTarget⟩ := List.mem_map.mp failed
  obtain ⟨priorDevice, applied⟩ := Prod.mk.inj samePrior
  obtain ⟨device, dead⟩ := Prod.mk.inj sameTarget
  change ¬ FailsOnlyLive (sampleHubMachine.run (.new samplePolicy) watchdogRun).awakeOperations
    (sampleHubMachine.next (sampleHubMachine.run (.new samplePolicy) watchdogRun)
      (.awake (.fail "op-1" "d1" "watchdog_worker_failed" 1003))).awakeOperations
  intro disciplined
  have live := disciplined "op-1" operation next stored left prior member target reached
    (device.trans priorDevice.symm) dead (by rw [applied]; decide)
  rw [applied] at live
  simp at live

end Samples

end RustyFleet.OwnerSafety

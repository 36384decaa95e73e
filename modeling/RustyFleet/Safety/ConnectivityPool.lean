import RustyFleet.Local.Connectivity
import RustyFleet.Safety.OwnerAtomicity
import RustyFleet.Support.WorkerPool

namespace RustyFleet.DispatchSafety

open OwnerSafety

structure LawfulLedger {Action Policy Generation Binding Receipt Evidence : Type}
    {owner : OwnerHub Action Policy Generation Binding Receipt Evidence} (ledger : OwnerLedger owner) :
    Prop where
  read : ∀ hub operations, ledger.operations (ledger.withOperations hub operations) = operations
  devices : ∀ hub operations, (ledger.withOperations hub operations).devices = hub.devices

theorem wifiAdbLedger_lawful [Sha256Hex] : LawfulLedger wifiAdbLedger where
  read _ _ := rfl
  devices _ _ := rfl

section Starts

variable {Action Policy Generation Binding Receipt Evidence : Type}
  [DecidableEq Action] [DecidableEq Policy] [DecidableEq Binding] [ValidateContract Receipt]
  {owner : OwnerHub Action Policy Generation Binding Receipt Evidence} {plan : DispatchPlan owner} {hub : FleetHub}
  {deviceId other : String}

omit [DecidableEq Action] [DecidableEq Policy] [DecidableEq Binding] [ValidateContract Receipt] in
def Taken (plan : DispatchPlan owner) (hub : FleetHub) (deviceId : String) : Prop :=
  ∀ operation target, (plan.ledger.operations hub)[plan.operationId]? = some operation →
    operation.targets.find? (·.deviceId == deviceId) = some target → target.lifecycle ≠ .accepted

structure Rewrites (plan : DispatchPlan owner) (hub : FleetHub) (deviceId : String) (next : owner.Operation)
    (operation : owner.Operation) (target : owner.Target) (rewrite : owner.Target → owner.Target) : Prop where
  stored : (plan.ledger.operations hub)[plan.operationId]? = some operation
  found : operation.targets.find? (·.deviceId == deviceId) = some target
  targets : next.targets = Support.modifyFirst (·.deviceId == deviceId) rewrite operation.targets
  kept : ∀ target, (rewrite target).deviceId = target.deviceId

omit [DecidableEq Action] [DecidableEq Policy] [DecidableEq Binding] [ValidateContract Receipt] in
theorem Rewrites.now {next operation : owner.Operation} {target : owner.Target} {rewrite : owner.Target → owner.Target}
    (rewrites : Rewrites plan hub deviceId next operation target rewrite) :
    next.targets.find? (·.deviceId == deviceId) = some (rewrite target) := by
  rw [rewrites.targets]
  exact Support.find?_modifyFirst_same (·.deviceId) rewrite operation.targets deviceId target rewrites.found
    (rewrites.kept target)

omit [DecidableEq Action] [DecidableEq Policy] [DecidableEq Binding] [ValidateContract Receipt] in
theorem Rewrites.taken {next operation : owner.Operation} {target : owner.Target} {rewrite : owner.Target → owner.Target}
    (rewrites : Rewrites plan hub deviceId next operation target rewrite) (lawful : LawfulLedger plan.ledger)
    (moves : (rewrite target).lifecycle = .accepted → target.lifecycle = .accepted) (taken : Taken plan hub other) :
    Taken plan (plan.ledger.withOperations hub ((plan.ledger.operations hub).insert plan.operationId next)) other := by
  intro known held there here
  rw [lawful.read, BTreeMap.lookup_insert_self] at there
  cases there
  by_cases same : other = deviceId
  · subst same
    rw [rewrites.now] at here
    cases here
    intro accepted
    exact taken operation target rewrites.stored rewrites.found (moves accepted)
  · rw [rewrites.targets, Support.find?_modifyFirst_other (·.deviceId) rewrite operation.targets deviceId other
      rewrites.kept same] at here
    exact taken operation held rewrites.stored here

theorem handle_taken (lawful : LawfulLedger plan.ledger) {call : OwnerCall Action Policy Generation Receipt}
    (deviceId : String)
    (names : owner.callOperation call = plan.operationId)
    (edits : ∀ next, owner.callEdit hub (plan.ledger.operations hub) call = .ok (.rewritten next) →
      ∃ operation target rewrite, Rewrites plan hub deviceId next operation target rewrite ∧
        ((rewrite target).lifecycle = .accepted → target.lifecycle = .accepted))
    (taken : Taken plan hub other) : Taken plan (plan.ledger.handle hub call).2 other := by
  have same : Taken plan (plan.ledger.withOperations hub (plan.ledger.operations hub)) other := by
    intro operation target stored found
    rw [lawful.read] at stored
    exact taken operation target stored found
  show Taken plan (plan.ledger.withOperations hub (owner.settle (plan.ledger.operations hub) (owner.callOperation call)
    (owner.callEdit hub (plan.ledger.operations hub) call)).2) other
  cases edit : owner.callEdit hub (plan.ledger.operations hub) call with
  | error fault => exact same
  | ok outcome =>
    cases outcome with
    | unchanged kept => exact same
    | rewritten next =>
      obtain ⟨operation, target, rewrite, rewrites, moves⟩ := edits next edit
      rw [names]
      exact rewrites.taken lawful moves taken

theorem fail_taken (lawful : LawfulLedger plan.ledger) {code : String} (taken : Taken plan hub other) :
    Taken plan (plan.ledger.handle hub (plan.failCall deviceId code)).2 other := by
  apply handle_taken lawful deviceId rfl _ taken
  intro next edit
  obtain ⟨operation, target, checks, rfl⟩ := failEdit_iff.mp edit
  refine ⟨operation, target, _, ⟨checks.stored, checks.found, rfl, fun _ => rfl⟩, ?_⟩
  intro accepted
  cases accepted

theorem prepare_rewrites {next : owner.Operation}
    (edit : owner.callEdit hub (plan.ledger.operations hub) (plan.prepareCall deviceId) = .ok (.rewritten next)) :
    ∃ operation target invocation, target.lifecycle = .accepted ∧ invocation.deviceId = deviceId ∧
      Rewrites plan hub deviceId next operation target fun rewritten =>
        { rewritten with invocation := some invocation, updatedAtMs := plan.nowMs } := by
  obtain ⟨operation, target, generation, checks, rfl⟩ := prepareEdit_iff.mp edit
  refine ⟨operation, target, preparedInvocation owner operation target (plan.requestId deviceId) generation plan.nowMs,
    checks.accepted, ?_, ⟨checks.stored, checks.found, rfl, fun _ => rfl⟩⟩
  have own := List.find?_some checks.found
  exact beq_iff_eq.mp own

theorem prepare_taken (lawful : LawfulLedger plan.ledger) (taken : Taken plan hub other) :
    Taken plan (plan.ledger.handle hub (plan.prepareCall deviceId)).2 other := by
  apply handle_taken lawful deviceId rfl _ taken
  intro next edit
  obtain ⟨operation, target, invocation, _, _, rewrites⟩ := prepare_rewrites edit
  exact ⟨operation, target, _, rewrites, id⟩

theorem dispatched_rewrites {next : owner.Operation}
    (edit : owner.callEdit hub (plan.ledger.operations hub) (plan.dispatchedCall deviceId) = .ok (.rewritten next)) :
    ∃ operation target, Rewrites plan hub deviceId next operation target fun rewritten =>
        { rewritten with lifecycle := .dispatched, updatedAtMs := plan.nowMs } := by
  obtain ⟨operation, target, checks, rfl⟩ := dispatchedEdit_iff.mp edit
  exact ⟨operation, target, checks.stored, checks.found, rfl, fun _ => rfl⟩

theorem dispatched_taken (lawful : LawfulLedger plan.ledger) (taken : Taken plan hub other) :
    Taken plan (plan.ledger.handle hub (plan.dispatchedCall deviceId)).2 other := by
  apply handle_taken lawful deviceId rfl _ taken
  intro next edit
  obtain ⟨operation, target, rewrites⟩ := dispatched_rewrites edit
  refine ⟨operation, target, _, rewrites, ?_⟩
  intro accepted
  cases accepted

theorem prepare_answered {updated : owner.Operation} {after : FleetHub}
    (handled : plan.ledger.handle hub (plan.prepareCall deviceId) = (.ok updated, after)) :
    ¬ Taken plan hub deviceId ∧ ∀ invocation,
      (updated.targets.find? (·.deviceId == deviceId)).bind (·.invocation) = some invocation →
        invocation.deviceId = deviceId := by
  have answered : (owner.settle (plan.ledger.operations hub) plan.operationId
      (owner.callEdit hub (plan.ledger.operations hub) (plan.prepareCall deviceId))).1 = .ok updated :=
    congrArg Prod.fst handled
  cases edit : owner.callEdit hub (plan.ledger.operations hub) (plan.prepareCall deviceId) with
  | error fault =>
    rw [edit] at answered
    cases answered
  | ok outcome =>
    rw [edit] at answered
    cases outcome with
    | unchanged kept =>
      simp only [OwnerHub.callEdit, DispatchPlan.prepareCall, OwnerHub.prepareEdit, exceptBind_ok, errorIf_ok, exceptPure_ok] at edit
      obtain ⟨_, _, _, _, _, _, _, _, _, _, _, _, same⟩ := edit
      cases same
    | rewritten next =>
      have same : next = updated := by
        simp only [OwnerHub.settle] at answered
        cases checked : owner.validateOperation next with
        | error fault =>
          rw [checked] at answered
          cases answered
        | ok done =>
          rw [checked] at answered
          exact Except.ok.inj answered
      subst same
      obtain ⟨operation, target, invocation, accepted, named, rewrites⟩ := prepare_rewrites edit
      constructor
      · intro taken
        exact taken operation target rewrites.stored rewrites.found accepted
      · intro found looked
        rw [rewrites.now] at looked
        cases looked
        exact named

theorem dispatched_answered (lawful : LawfulLedger plan.ledger) {updated : owner.Operation} {after : FleetHub}
    (handled : plan.ledger.handle hub (plan.dispatchedCall deviceId) = (.ok updated, after)) :
    Taken plan after deviceId := by
  have answered : (owner.settle (plan.ledger.operations hub) plan.operationId
      (owner.callEdit hub (plan.ledger.operations hub) (plan.dispatchedCall deviceId))).1 = .ok updated :=
    congrArg Prod.fst handled
  have written : plan.ledger.withOperations hub (owner.settle (plan.ledger.operations hub) plan.operationId
      (owner.callEdit hub (plan.ledger.operations hub) (plan.dispatchedCall deviceId))).2 = after :=
    congrArg Prod.snd handled
  cases edit : owner.callEdit hub (plan.ledger.operations hub) (plan.dispatchedCall deviceId) with
  | error fault =>
    rw [edit] at answered
    cases answered
  | ok outcome =>
    cases outcome with
    | unchanged kept =>
      simp only [OwnerHub.callEdit, DispatchPlan.dispatchedCall, OwnerHub.dispatchedEdit, exceptBind_ok, errorIf_ok, exceptPure_ok]
        at edit
      obtain ⟨_, _, _, _, _, _, same⟩ := edit
      cases same
    | rewritten next =>
      obtain ⟨operation, target, rewrites⟩ := dispatched_rewrites edit
      rw [edit] at written
      rw [← written]
      intro known held there here
      rw [lawful.read] at there
      change ((plan.ledger.operations hub).insert plan.operationId next)[plan.operationId]? = some known at there
      rw [BTreeMap.lookup_insert_self] at there
      cases there
      rw [rewrites.now] at here
      cases here
      intro accepted
      cases accepted

inductive Turn (plan : DispatchPlan owner) (state : DispatchState owner) (deviceId : String) :
    DispatchState owner → Prop
  | idle (after : DispatchState owner) (same : after.work = state.work) : Turn plan state deviceId after
  | started (after : DispatchState owner) (invocation : OwnerInvocation Action Policy Generation)
    (added : after.work = state.work ++ [invocation]) (named : invocation.deviceId = deviceId)
    (free : plan.conflicts deviceId = false) (waited : ¬ Taken plan state.hub deviceId)
    (taken : Taken plan after.hub deviceId) : Turn plan state deviceId after

theorem dispatch_turn (lawful : LawfulLedger plan.ledger) (state : DispatchState owner) (target : String × Nat) :
    Turn plan state target.1 (plan.dispatch state target) ∧
      ∀ other, Taken plan state.hub other → Taken plan (plan.dispatch state target).hub other := by
  obtain ⟨deviceId, identityRevision⟩ := target
  unfold DispatchPlan.dispatch
  by_cases unconfigured : plan.configured deviceId = false
  · simp only [if_pos unconfigured]
    exact ⟨.idle _ rfl, fun other taken => fail_taken lawful taken⟩
  by_cases conflicting : plan.conflicts deviceId = true
  · simp only [if_neg unconfigured, if_pos conflicting]
    exact ⟨.idle _ rfl, fun other taken => fail_taken lawful taken⟩
  simp only [if_neg unconfigured, if_neg conflicting]
  rcases plan.authorize state.adapter deviceId identityRevision with ⟨refused | receipt, adapter⟩
  · exact ⟨.idle _ rfl, fun other taken => fail_taken lawful taken⟩
  show Turn plan state deviceId (plan.launch { state with adapter := adapter } deviceId) ∧ ∀ other,
    Taken plan state.hub other → Taken plan (plan.launch { state with adapter := adapter } deviceId).hub other
  unfold DispatchPlan.launch
  have prepares : ∀ other, Taken plan state.hub other →
      Taken plan (plan.ledger.handle state.hub (plan.prepareCall deviceId)).2 other := by
    intro other taken
    exact prepare_taken lawful taken
  rcases handled : plan.ledger.handle state.hub (plan.prepareCall deviceId) with ⟨fault | updated, hub⟩
  · rw [handled] at prepares
    exact ⟨.idle _ rfl, prepares⟩
  rw [handled] at prepares
  obtain ⟨waited, named⟩ := prepare_answered handled
  cases looked : (updated.targets.find? (·.deviceId == deviceId)).bind (·.invocation) with
  | none =>
    simp only [looked]
    exact ⟨.idle _ rfl, prepares⟩
  | some invocation =>
    have marks : ∀ other, Taken plan state.hub other →
        Taken plan (plan.ledger.handle hub (plan.dispatchedCall deviceId)).2 other := by
      intro other taken
      exact dispatched_taken lawful (prepares other taken)
    rcases marked : plan.ledger.handle hub (plan.dispatchedCall deviceId) with ⟨fault | done, last⟩
    · rw [marked] at marks
      simp only [looked, marked]
      exact ⟨.idle _ rfl, marks⟩
    · rw [marked] at marks
      simp only [looked, marked]
      refine ⟨.started _ invocation rfl (named invocation looked) (Bool.eq_false_iff.mpr conflicting) waited ?_, marks⟩
      exact dispatched_answered lawful marked

structure Starts (plan : DispatchPlan owner) (limit : Nat) (running : List (String × String))
    (state : DispatchState owner) : Prop where
  admits : WorkerPool.Admits Prod.snd limit running
    (state.work.map fun worker => (worker.operationId, worker.deviceId))
  taken : ∀ worker ∈ state.work, Taken plan state.hub worker.deviceId

theorem Starts.turn {limit : Nat} {running : List (String × String)} {state : DispatchState owner}
    (lawful : LawfulLedger plan.ledger) (busy : ∀ key ∈ running, plan.conflicts key.2 = true)
    (starts : Starts plan limit running state) (room : state.work.length < limit - running.length)
    (target : String × Nat) : Starts plan limit running (plan.dispatch state target) := by
  obtain ⟨turn, kept⟩ := dispatch_turn lawful state target
  generalize plan.dispatch state target = after at turn kept
  cases turn with
  | idle same =>
    constructor
    · rw [same]
      exact starts.admits
    · rw [same]
      intro worker member
      exact kept _ (starts.taken worker member)
  | started invocation added named free waited taken =>
    constructor
    · rw [added, List.map_append]
      apply starts.admits.snoc
      · intro key member
        show invocation.deviceId ≠ key.2
        rw [named]
        rcases List.mem_append.mp member with inRunning | inStarted
        · intro same
          have held := busy key inRunning
          rw [← same, free] at held
          cases held
        · obtain ⟨worker, inWork, rfl⟩ := List.mem_map.mp inStarted
          intro same
          apply waited
          rw [same]
          exact starts.taken worker inWork
      · rw [List.length_map]
        omega
    · rw [added]
      intro worker member
      rcases List.mem_append.mp member with earlier | new
      · exact kept _ (starts.taken worker earlier)
      · rw [List.mem_singleton.mp new, named]
        exact taken

theorem whileSlots_starts {limit : Nat} {running : List (String × String)} (lawful : LawfulLedger plan.ledger)
    (busy : ∀ key ∈ running, plan.conflicts key.2 = true) (targets : List (String × Nat)) (state : DispatchState owner)
    (starts : Starts plan limit running state) :
    Starts plan limit running (plan.dispatchWhileSlots (limit - running.length) state targets) := by
  induction targets generalizing state with
  | nil => exact starts
  | cons target rest ih =>
    by_cases full : state.work.length ≥ limit - running.length
    · rw [DispatchPlan.dispatchWhileSlots, if_pos full]
      exact starts
    · rw [DispatchPlan.dispatchWhileSlots, if_neg full]
      apply ih
      exact starts.turn lawful busy (Nat.lt_of_not_le full) target

end Starts

section Pool

abbrev InflightSound (inflight : List (String × String)) : Prop :=
  WorkerPool.Sound Prod.snd maxConcurrentConnectivityProviderCalls inflight

theorem insertAll_perm (keys inflight : List (String × String)) (distinct : (inflight ++ keys).Nodup) :
    (insertAll keys inflight).Perm (inflight ++ keys) := by
  induction keys generalizing inflight with
  | nil =>
    rw [List.append_nil]
    exact List.Perm.refl inflight
  | cons key rest ih =>
    have moved : (inflight ++ key :: rest).Perm (key :: inflight ++ rest) := List.perm_middle
    have apart := moved.nodup_iff.mp distinct
    have absent : key ∉ inflight := by
      intro member
      exact (List.nodup_cons.mp apart).1 (List.mem_append_left rest member)
    show (insertAll rest (inflight.insert key)).Perm (inflight ++ key :: rest)
    rw [List.insert_of_not_mem absent]
    exact (ih (key :: inflight) apart).trans moved.symm

theorem insertAll_sound {inflight keys : List (String × String)} (sound : InflightSound inflight)
    (admits : WorkerPool.Admits Prod.snd maxConcurrentConnectivityProviderCalls inflight keys) :
    InflightSound (insertAll keys inflight) := by
  have together := sound.start admits
  exact together.perm (insertAll_perm keys inflight together.distinct).symm

section Passes

variable [AuthorityEnvironment]

theorem batch_admitted (hub : FleetHub) (adapter : FleetManifoldAdapter) (operation : QuestWifiAdbOperation)
    (configuredTargets : List String) {inflight : List (String × String)} (nowMs : Nat)
    (sound : InflightSound inflight) :
    WorkerPool.Admits Prod.snd maxConcurrentConnectivityProviderCalls inflight
      ((preparePendingConnectivityBatch hub adapter operation configuredTargets inflight nowMs).work.map workKey) := by
  have busy : ∀ key ∈ inflight,
      (connectivityPlan operation configuredTargets inflight nowMs).conflicts key.2 = true := by
    intro key member
    exact List.any_eq_true.mpr ⟨key, member, beq_self_eq_true key.2⟩
  have start : Starts (connectivityPlan operation configuredTargets inflight nowMs) maxConcurrentConnectivityProviderCalls
      inflight ⟨hub, adapter, []⟩ := by
    constructor
    · exact WorkerPool.admits_nil sound
    · intro worker member
      cases member
  exact (whileSlots_starts wifiAdbLedger_lawful busy operation.pendingTargets ⟨hub, adapter, []⟩ start).admits

theorem schedule_sound (runtime : ConnectivityRuntime) (operationId : String) (nowMs : Nat) (persisted : Bool)
    (sound : InflightSound runtime.inflightConnectivityTargets) :
    InflightSound (schedulePendingConnectivityWork runtime operationId nowMs persisted).inflightConnectivityTargets := by
  unfold schedulePendingConnectivityWork
  split
  · rename_i operation configuredTargets _ _
    split
    · exact sound
    split
    · split <;> exact sound
    split
    · exact sound
    cases persisted with
    | false => exact sound
    | true =>
      exact insertAll_sound sound (batch_admitted runtime.hub runtime.adapter operation configuredTargets nowMs sound)
  · exact sound

end Passes

section Recovery

variable [Sha256Hex]

structure Reserves (inflight : List (String × String)) (state : ConnectivityRecovery) : Prop where
  reserved : state.reserved = insertAll (state.recovered.map (·.1)) inflight
  sound : InflightSound state.reserved
  room : state.reserved.length + state.remainingSlots ≤ maxConcurrentConnectivityProviderCalls

variable {inflight : List (String × String)} {state next : ConnectivityRecovery} {configuredTargets : List String}
  {nowMs : Nat}

theorem Reserves.target {operationId deviceId : String} {invocation : QuestWifiAdbOwnerInvocation}
    (reserves : Reserves inflight state)
    (recovered : recoverTarget configuredTargets nowMs state operationId deviceId invocation = .ok next) :
    Reserves inflight next := by
  have failed : ∀ {result : HubResult QuestWifiAdbOperation} {hub : FleetHub},
      (result.map fun _ => { state with hub := hub, changed := true }) = .ok next → Reserves inflight next := by
    intro result hub same
    cases result with
    | error => cases same
    | ok operation =>
      cases same
      exact ⟨reserves.reserved, reserves.sound, reserves.room⟩
  unfold recoverTarget at recovered
  split at recovered
  · exact failed recovered
  split at recovered
  · exact failed recovered
  split at recovered
  · cases recovered
    exact reserves
  · rename_i spare
    obtain ⟨slots, free⟩ := not_or.mp spare
    cases recovered
    have apart : ∀ key ∈ state.reserved, deviceId ≠ key.2 := by
      intro key member same
      apply free
      exact List.any_eq_true.mpr ⟨key, member, beq_iff_eq.mpr same.symm⟩
    have absent : (operationId, deviceId) ∉ state.reserved := by
      intro member
      exact apart _ member rfl
    have room := reserves.room
    have admits : WorkerPool.Admits Prod.snd maxConcurrentConnectivityProviderCalls state.reserved
        [(operationId, deviceId)] := by
      apply (WorkerPool.admits_nil reserves.sound).snoc
      · rw [List.append_nil]
        exact apart
      · rw [List.length_nil]
        omega
    constructor
    · show state.reserved.insert (operationId, deviceId) = insertAll _ inflight
      rw [List.map_append, insertAll, List.foldl_append, reserves.reserved]
      rfl
    · exact insertAll_sound reserves.sound admits
    · show (state.reserved.insert (operationId, deviceId)).length + (state.remainingSlots - 1) ≤ _
      rw [List.insert_of_not_mem absent, List.length_cons]
      omega

theorem Reserves.targets (work : List (String × String × QuestWifiAdbOwnerInvocation))
    (reserves : Reserves inflight state) (recovered : recoverTargets configuredTargets nowMs state work = .ok next) :
    Reserves inflight next := by
  induction work generalizing state with
  | nil =>
    cases recovered
    exact reserves
  | cons entry rest ih =>
    obtain ⟨operationId, deviceId, invocation⟩ := entry
    simp only [recoverTargets, exceptBind_ok] at recovered
    obtain ⟨middle, now, later⟩ := recovered
    exact ih (reserves.target now) later

theorem recovery_sound (runtime : ConnectivityRuntime) (nowMs : Nat) (persisted : Bool)
    (sound : InflightSound runtime.inflightConnectivityTargets) :
    InflightSound (scheduleRecoveredConnectivityWork runtime nowMs persisted).inflightConnectivityTargets := by
  unfold scheduleRecoveredConnectivityWork
  split
  · exact sound
  rename_i configuredTargets _
  have start : Reserves runtime.inflightConnectivityTargets
      { hub := runtime.hub
        changed := false
        remainingSlots := connectivityDispatchSlots runtime.inflightConnectivityTargets.length
        reserved := runtime.inflightConnectivityTargets
        recovered := [] } := by
    constructor
    · rfl
    · exact sound
    · have bounded := sound.bounded
      simp only [connectivityDispatchSlots]
      omega
  dsimp only
  split
  · exact sound
  · rename_i recovery recovered
    have ended := start.targets _ recovered
    split
    · exact sound
    · show InflightSound (insertAll (recovery.recovered.map (·.1)) runtime.inflightConnectivityTargets)
      rw [← ended.reserved]
      exact ended.sound

theorem settlement_sound (runtime : ConnectivityRuntime) (worker : QuestWifiAdbOwnerInvocation)
    (result : Except ConnectivityOwnerWorkFailure QuestWifiAdbOwnerReceipt) (nowMs : Nat) (persisted : Bool)
    (sound : InflightSound runtime.inflightConnectivityTargets) :
    InflightSound (settleConnectivityWorker runtime worker result nowMs persisted).inflightConnectivityTargets := by
  unfold settleConnectivityWorker
  split
  · exact sound
  · exact sound.sublist List.erase_sublist

end Recovery

variable [AuthorityEnvironment]

theorem step_inflight_sound (runtime : ConnectivityRuntime) (step : ConnectivityStep)
    (sound : InflightSound runtime.inflightConnectivityTargets) :
    InflightSound (runtime.handle step).inflightConnectivityTargets := by
  cases step with
  | call call persisted =>
    unfold ConnectivityRuntime.handle ConnectivityRuntime.answer
    dsimp only
    split <;> exact sound
  | schedule operationId nowMs persisted => exact schedule_sound runtime operationId nowMs persisted sound
  | recover nowMs persisted => exact recovery_sound runtime nowMs persisted sound
  | settle worker result nowMs persisted => exact settlement_sound runtime worker result nowMs persisted sound
  | restart policy adapter provider => exact WorkerPool.sound_nil

theorem connectivity_inflight_bounded (hub : FleetHub) (adapter : FleetManifoldAdapter) (provider : Option (List String))
    (steps : List ConnectivityStep) :
    let runtime := connectivityMachine.run ⟨hub, adapter, provider, [], []⟩ steps
    InflightSound runtime.inflightConnectivityTargets ∧
      ∀ operation configuredTargets nowMs, WorkerPool.Admits Prod.snd maxConcurrentConnectivityProviderCalls
        runtime.inflightConnectivityTargets ((preparePendingConnectivityBatch runtime.hub runtime.adapter operation
          configuredTargets runtime.inflightConnectivityTargets nowMs).work.map workKey) := by
  intro runtime
  have sound : InflightSound runtime.inflightConnectivityTargets := by
    apply connectivityMachine.run_invariant (fun _ _ => True)
      (fun runtime => InflightSound runtime.inflightConnectivityTargets)
    · intro before step _ held
      exact step_inflight_sound before step held
    · exact connectivityMachine.admits_true _ steps
    · exact WorkerPool.sound_nil
  refine ⟨sound, ?_⟩
  intro operation configuredTargets nowMs
  exact batch_admitted runtime.hub runtime.adapter operation configuredTargets nowMs sound

end Pool

end RustyFleet.DispatchSafety

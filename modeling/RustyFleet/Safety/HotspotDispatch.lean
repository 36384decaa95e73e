import RustyFleet.Safety.HotspotOwnership

namespace RustyFleet.HotspotSafety

variable {hub : FleetHub} {operation dispatched : WindowsHotspotOperation}
  {invocation : WindowsHotspotProviderRequest}

/-- An invocation that starts no hotspot over an external one and stops only the one Fleet owns. -/
def KeepsToOwn (observed : Option WindowsHotspotObservedState) (invocation : WindowsHotspotProviderRequest) :
    Prop :=
  (invocation.action = .start ∨ invocation.action = .ensure →
      ∀ state, observed = some state → state.ownership ≠ .external) ∧
    (invocation.action = .stop → ∃ state generation, observed = some state ∧ state.ownership = .fleet ∧
      state.generation = some generation ∧ invocation.ownershipGeneration = some generation)

def ObservesExternal (observed : Option WindowsHotspotObservedState) : Prop :=
  ∃ state, observed = some state ∧ state.ownership = .external

def StartsUnowned (operation : WindowsHotspotOperation) : Prop :=
  operation.preview.action = .start ∨
    operation.preview.action = .ensure ∧ operation.preview.preflight.ownershipGeneration = none

def AwaitsDispatch (operation : WindowsHotspotOperation) : Prop :=
  operation.lifecycle = .proposed ∨ operation.lifecycle = .accepted

/-- A receipt that leaves an external hotspot observed while a start still awaits its dispatch. -/
def OvertakesStart (hub : FleetHub) (call : HubCall) : Prop :=
  ∃ receipt nowMs settled, call = .hotspot (.receipt receipt nowMs) ∧
    hub.hotspotReceiptChecks receipt = .ok settled ∧
    ObservesExternal (hotspotObservedAfter hub.windowsHotspotObservation receipt nowMs) ∧
    ∃ (operationId : String) (operation : WindowsHotspotOperation),
      hub.windowsHotspotOperations[operationId]? = some operation ∧ AwaitsDispatch operation ∧
        StartsUnowned operation

theorem fleet_of_generation (sound : ObservedSound hub.windowsHotspotObservation) {generation : String}
    (current : hub.windowsHotspotObservation.bind (·.generation) = some generation) :
    ∃ state, hub.windowsHotspotObservation = some state ∧ state.generation = some generation ∧
      state.ownership = .fleet := by
  obtain ⟨state, observed, carried⟩ := Option.bind_eq_some_iff.mp current
  exact ⟨state, observed, carried, (sound state observed).1.mpr ⟨generation, carried⟩⟩

theorem start_keeps {nowMs : Int} (dispatches : Dispatches hub operation nowMs invocation)
    (start : operation.preview.action = .start)
    (clear : StartsUnowned operation → ¬ ObservesExternal hub.windowsHotspotObservation) :
    KeepsToOwn hub.windowsHotspotObservation invocation := by
  have action : invocation.action = .start := dispatches.bound.2.trans start
  constructor
  · intro _ state observed external
    exact clear (.inl start) ⟨state, observed, external⟩
  · intro stop
    cases action.symm.trans stop

theorem ensure_keeps (sound : HotspotHub hub) {nowMs : Int}
    (dispatches : Dispatches hub operation nowMs invocation) (ensure : operation.preview.action = .ensure)
    (clear : StartsUnowned operation → ¬ ObservesExternal hub.windowsHotspotObservation) :
    KeepsToOwn hub.windowsHotspotObservation invocation := by
  have action : invocation.action = .ensure := dispatches.bound.2.trans ensure
  have requested := dispatches.generation
  simp only [FleetHub.requestedGeneration, ensure, exceptBind_ok, errorIf_ok, exceptPure_ok, ne_eq, not_not] at requested
  obtain ⟨_, current, _⟩ := requested
  constructor
  · intro _ state observed external
    cases kept : operation.preview.preflight.ownershipGeneration with
    | none => exact clear (.inr ⟨ensure, kept⟩) ⟨state, observed, external⟩
    | some generation =>
      obtain ⟨owned, seen, _, fleet⟩ := fleet_of_generation sound.observed (current.trans kept)
      cases observed.symm.trans seen
      cases external.symm.trans fleet
  · intro stop
    cases action.symm.trans stop

theorem stop_keeps (sound : HotspotHub hub) {nowMs : Int}
    (dispatches : Dispatches hub operation nowMs invocation) (stop : operation.preview.action = .stop) :
    KeepsToOwn hub.windowsHotspotObservation invocation := by
  have action : invocation.action = .stop := dispatches.bound.2.trans stop
  have requested := dispatches.generation
  simp only [FleetHub.requestedGeneration, stop, exceptBind_ok, orError_ok, errorIf_ok, exceptPure_ok] at requested
  obtain ⟨generation, current, _, _, sent⟩ := requested
  obtain ⟨state, observed, carried, fleet⟩ := fleet_of_generation sound.observed current
  refine ⟨?_, fun _ => ⟨state, generation, observed, fleet, carried, sent.symm⟩⟩
  rintro (start | ensure)
  · cases action.symm.trans start
  · cases action.symm.trans ensure

theorem status_keeps {nowMs : Int} (dispatches : Dispatches hub operation nowMs invocation)
    (status : operation.preview.action = .status) : KeepsToOwn hub.windowsHotspotObservation invocation := by
  have action : invocation.action = .status := dispatches.bound.2.trans status
  refine ⟨?_, fun stop => by cases action.symm.trans stop⟩
  rintro (start | ensure)
  · cases action.symm.trans start
  · cases action.symm.trans ensure

theorem dispatch_keeps (sound : HotspotHub hub) {nowMs : Int}
    (dispatches : Dispatches hub operation nowMs invocation)
    (clear : StartsUnowned operation → ¬ ObservesExternal hub.windowsHotspotObservation) :
    KeepsToOwn hub.windowsHotspotObservation invocation := by
  cases action : operation.preview.action with
  | start => exact start_keeps dispatches action clear
  | ensure => exact ensure_keeps sound dispatches action clear
  | stop => exact stop_keeps sound dispatches action
  | status => exact status_keeps dispatches action

theorem newly_dispatched {operationId requestId : String} {nowMs : Int}
    (stored : hub.windowsHotspotOperations[operationId]? = some operation)
    (waiting : operation.lifecycle ≠ .dispatched)
    (prepared : (hub.prepareWindowsHotspotInvocation operationId requestId nowMs).1 = .ok dispatched) :
    ∃ invocation, Dispatches hub operation nowMs invocation ∧
      dispatched = operation.dispatched invocation nowMs := by
  rw [FleetHub.prepareWindowsHotspotInvocation] at prepared
  cases edit : hub.hotspotPrepareEdit operationId requestId nowMs with
  | error fault =>
    rw [edit] at prepared
    cases prepared
  | ok change =>
    rw [edit] at prepared
    cases change with
    | unchanged kept =>
      simp only [FleetHub.hotspotPrepareEdit, exceptBind_ok, windowsHotspotOperation_ok] at edit
      obtain ⟨existing, found, settled⟩ := edit
      cases stored.symm.trans found
      rw [if_neg fun sent => waiting sent.1] at settled
      simp only [exceptBind_ok, exceptPure_ok, reduceCtorEq, and_false, exists_false] at settled
    | rewritten next =>
      obtain ⟨existing, invocation, found, dispatches, same⟩ :=
        prepareEdit_dispatches operationId requestId nowMs edit
      cases stored.symm.trans found
      cases prepared
      exact ⟨invocation, dispatches, same⟩

def ClearOfExternal (hub : FleetHub) : Prop :=
  ObservesExternal hub.windowsHotspotObservation →
    ∀ (operationId : String) (operation : WindowsHotspotOperation),
      hub.windowsHotspotOperations[operationId]? = some operation → AwaitsDispatch operation →
        ¬ StartsUnowned operation

theorem ClearOfExternal.store {operationId : String} {next : WindowsHotspotOperation}
    (clear : ClearOfExternal hub)
    (safe : ObservesExternal hub.windowsHotspotObservation → AwaitsDispatch next → ¬ StartsUnowned next) :
    ClearOfExternal (hub.storeHotspot operationId next) := by
  intro external key operation stored awaits
  by_cases own : key = operationId
  · subst own
    cases (BTreeMap.lookup_insert_self _ _ _).symm.trans stored
    exact safe external awaits
  · exact clear external key operation ((BTreeMap.lookup_insert_of_ne _ _ own).symm.trans stored) awaits

theorem proposed_starts_nothing (plan : WindowsHotspotPreviewPlan) (fleetRevision : Nat)
    (leaseAvailable : Bool) {observed : Option WindowsHotspotObservedState}
    (external : ObservesExternal observed)
    (awaits : AwaitsDispatch (proposedHotspotOperation plan fleetRevision leaseAvailable observed)) :
    ¬ StartsUnowned (proposedHotspotOperation plan fleetRevision leaseAvailable observed) := by
  obtain ⟨state, rfl, owned⟩ := external
  intro starts
  have action : plan.request.action = .start ∨ plan.request.action = .ensure := by
    rcases starts with start | ⟨ensure, _⟩
    · exact .inl start
    · exact .inr ensure
  have refused : hotspotActionEligible plan.request.action (some state) = false := by
    rcases action with same | same <;> simp [hotspotActionEligible, same, owned]
  simp [AwaitsDispatch, proposedHotspotOperation, refused] at awaits

theorem received_settled (operation : WindowsHotspotOperation) (receipt : WindowsHotspotProviderReceipt)
    (nowMs : Int) : ¬ AwaitsDispatch (operation.received receipt nowMs) := by
  intro awaits
  rcases received_lifecycle operation receipt nowMs with applied | failed
  · rw [AwaitsDispatch, applied] at awaits
    rcases awaits with same | same <;> cases same
  · rw [AwaitsDispatch, failed] at awaits
    rcases awaits with same | same <;> cases same

theorem OneChange.clear {after : FleetHub} (change : OneChange hub after) (clear : ClearOfExternal hub)
    (same : after.windowsHotspotObservation = hub.windowsHotspotObservation) : ClearOfExternal after := by
  rcases change with rfl | changed
  · exact clear
  cases changed with
  | previewed plan operation created unused room valid =>
    subst created
    exact clear.store fun external => proposed_starts_nothing plan _ _ external
  | dispatched operationId operation invocation nowMs stored accepted valid bound =>
    exact clear.store fun _ awaits => by rcases awaits with same | same <;> cases same
  | expired operationId operation nowMs stored =>
    exact clear.store fun _ awaits => by rcases awaits with same | same <;> cases same
  | failed operationId operation failureCode nowMs stored =>
    exact clear.store fun _ awaits => by rcases awaits with same | same <;> cases same
  | received receipt operation nowMs checked =>
    have written : ClearOfExternal
        (hub.storeHotspot receipt.operationId (operation.received receipt nowMs)) :=
      clear.store fun _ awaits => absurd awaits (received_settled operation receipt nowMs)
    intro external
    exact written (by rwa [same] at external)

theorem recover_clear (ids : List String) (nowMs : Int) (state : FleetHub) (clear : ClearOfExternal state) :
    ClearOfExternal (ids.foldl
      (fun state operationId => state.expireWindowsHotspotOperation operationId nowMs) state) := by
  induction ids generalizing state with
  | nil => exact clear
  | cons id rest ih => exact ih _ ((expire_change id nowMs).clear clear (expire_observation state id nowMs))

theorem Confirms.clear {operationId previewId : String} {nowMs : Int}
    (confirms : Confirms hub operationId previewId nowMs operation) (clear : ClearOfExternal hub) :
    ClearOfExternal (hub.storeHotspot operationId (operation.confirmed nowMs)) := by
  apply clear.store
  intro external _
  exact clear external operationId operation confirms.stored (.inl confirms.proposed)

theorem receipt_clear {receipt : WindowsHotspotProviderReceipt} {nowMs : Int} (clear : ClearOfExternal hub)
    (free : ¬ OvertakesStart hub (.hotspot (.receipt receipt nowMs))) :
    ClearOfExternal (hub.applyWindowsHotspotReceipt receipt nowMs).2 := by
  cases checked : hub.hotspotReceiptChecks receipt with
  | error fault =>
    rw [FleetHub.applyWindowsHotspotReceipt, checked]
    exact clear
  | ok settled =>
    rw [FleetHub.applyWindowsHotspotReceipt, checked]
    intro external key operation stored awaits starts
    by_cases own : key = receipt.operationId
    · subst own
      cases (BTreeMap.lookup_insert_self _ _ _).symm.trans stored
      exact received_settled settled receipt nowMs awaits
    · exact free ⟨receipt, nowMs, settled, rfl, checked, external, key, operation,
        (BTreeMap.lookup_insert_of_ne _ _ own).symm.trans stored, awaits, starts⟩

theorem handleHotspot_clear (clear : ClearOfExternal hub) (call : HotspotCall)
    (free : ¬ OvertakesStart hub (.hotspot call)) : ClearOfExternal (hub.handleHotspot call).2 := by
  cases call with
  | preview plan =>
    exact (settle_change _ _ fun next => previewEdit_creates plan).clear clear (settle_observation _ _)
  | confirm operationId previewId nowMs =>
    rcases confirm_change hub operationId previewId nowMs with changed | ⟨operation, confirms, accepted⟩
    · apply changed.clear clear
      rcases hotspot_observation hub (.confirm operationId previewId nowMs) with ⟨same, _⟩ | ⟨_, _, _, _, same, _⟩
      · exact same
      · cases same
    · show ClearOfExternal (hub.confirmWindowsHotspot operationId previewId nowMs).2
      rw [accepted]
      exact confirms.clear clear
  | prepare operationId requestId nowMs =>
    refine (settle_change _ _ fun next rewritten => ?_).clear clear (settle_observation _ _)
    obtain ⟨operation, invocation, stored, dispatches, rfl⟩ :=
      prepareEdit_dispatches operationId requestId nowMs rewritten
    exact .dispatched operationId operation invocation nowMs stored dispatches.accepted dispatches.valid
      dispatches.bound
  | receipt receipt nowMs => exact receipt_clear clear free
  | fail operationId failureCode nowMs =>
    exact (settle_change _ _ fun next => failEdit_fails operationId failureCode nowMs).clear clear
      (settle_observation _ _)
  | recover nowMs => exact recover_clear (hub.recoverableHotspotIds nowMs) nowMs hub clear

section Runs

variable [HubEnvironment]

theorem call_clear (clear : ClearOfExternal hub) (call : HubCall) (free : ¬ OvertakesStart hub call) :
    ClearOfExternal (fleetHubMachine.next hub call) := by
  by_cases own : ∃ hotspot, call = .hotspot hotspot
  · obtain ⟨hotspot, rfl⟩ := own
    exact handleHotspot_clear clear hotspot free
  · have leaves := hub.handle_leaves_others call
    have other : ∀ hotspot, call ≠ .hotspot hotspot := fun hotspot same => own ⟨hotspot, same⟩
    intro external key operation stored
    apply clear ((leaves.hotspotObservation other).symm ▸ external) key operation
    rw [← stored]
    exact (congrArg (·[key]?) (leaves.hotspot other)).symm

theorem run_clear (policy : AssertedPolicy) (calls : List HubCall)
    (free : fleetHubMachine.Admits (fun hub call => ¬ OvertakesStart hub call) (.new policy) calls) :
    ClearOfExternal (fleetHubMachine.run (.new policy) calls) := by
  refine fleetHubMachine.run_invariant _ ClearOfExternal
    (fun hub call permitted clear => call_clear clear call permitted) (.new policy) calls free ?_
  rintro ⟨state, observed, _⟩
  cases observed

/-- In a run whose receipts overtake no start, every new dispatch keeps to Fleet's own hotspot. -/
theorem external_never_taken_over (policy : AssertedPolicy) (calls : List HubCall)
    (free : fleetHubMachine.Admits (fun hub call => ¬ OvertakesStart hub call) (.new policy) calls)
    (operationId requestId : String) (nowMs : Int) (operation dispatched : WindowsHotspotOperation)
    (stored : (fleetHubMachine.run (.new policy) calls).windowsHotspotOperations[operationId]? =
      some operation)
    (waiting : operation.lifecycle ≠ .dispatched)
    (prepared : fleetHubMachine.answer (fleetHubMachine.run (.new policy) calls)
      (.hotspot (.prepare operationId requestId nowMs)) = .hotspot (.ok dispatched)) :
    ∃ invocation, dispatched.lifecycle = .dispatched ∧ dispatched.invocation = some invocation ∧
      KeepsToOwn (fleetHubMachine.run (.new policy) calls).windowsHotspotObservation invocation := by
  obtain ⟨invocation, dispatches, rfl⟩ := newly_dispatched stored waiting (HubAnswer.hotspot.inj prepared)
  refine ⟨invocation, rfl, rfl, dispatch_keeps (run_hotspot policy calls).2 dispatches ?_⟩
  intro starts external
  exact run_clear policy calls free external operationId operation stored (.inr dispatches.accepted) starts

end Runs

section Samples

open PackageSafety

def sampleHotspotReceipt (operationalState : String) : WindowsHotspotProviderReceipt where
  schema := windowsHotspotProviderReceiptSchema
  requestId := "request.status"
  operationId := "operation.status"
  action := .status
  outcome := .verified
  reason := "status.read"
  observedAtUtc := "2026-01-01T00:00:00Z"
  capabilityAvailable := true
  capability := "available"
  operationalState := operationalState
  clientCount := 0
  maxClientCount := 8
  band := "five_ghz"
  sourceConnectivity := "internet"
  ownershipGeneration := none

def readBeforeStart (operationalState : String) : List HubCall :=
  [.hotspot (.preview (sampleHotspotPlan "start" .start 1000 9000)),
    .hotspot (.preview (sampleHotspotPlan "status" .status 1000 9000)),
    .hotspot (.confirm "operation.status" "preview.status" 1001),
    .hotspot (.prepare "operation.status" "request.status" 1002),
    .hotspot (.receipt (sampleHotspotReceipt operationalState) 1003),
    .hotspot (.confirm "operation.start" "preview.start" 1004)]

theorem prepared_of_reads {operationId requestId : String} {nowMs : Int} {action : WindowsHotspotAction}
    (accepted : (hub.windowsHotspotOperations[operationId]?).map (·.lifecycle) = some .accepted)
    (sent : ((hub.prepareWindowsHotspotInvocation operationId requestId nowMs).1.toOption.bind
      (·.invocation)).map (·.action) = some action) :
    ∃ operation dispatched invocation, hub.windowsHotspotOperations[operationId]? = some operation ∧
      operation.lifecycle = .accepted ∧
      (hub.prepareWindowsHotspotInvocation operationId requestId nowMs).1 = .ok dispatched ∧
      dispatched.invocation = some invocation ∧ invocation.action = action := by
  obtain ⟨operation, stored, lifecycle⟩ := Option.map_eq_some_iff.mp accepted
  obtain ⟨invocation, read, same⟩ := Option.map_eq_some_iff.mp sent
  obtain ⟨dispatched, answered, invoked⟩ := Option.bind_eq_some_iff.mp read
  refine ⟨operation, dispatched, invocation, stored, lifecycle, ?_, invoked, same⟩
  cases result : (hub.prepareWindowsHotspotInvocation operationId requestId nowMs).1 with
  | error fault =>
    rw [result] at answered
    cases answered
  | ok value =>
    rw [result] at answered
    cases answered
    rfl

theorem overtakes_receipt {call : HubCall} (quiet : ∀ receipt nowMs, call ≠ .hotspot (.receipt receipt nowMs)) :
    ¬ OvertakesStart hub call := by
  rintro ⟨receipt, nowMs, _, same, _⟩
  exact quiet receipt nowMs same

theorem off_overtakes_nothing : ¬ OvertakesStart hub (.hotspot (.receipt (sampleHotspotReceipt "Off") 1003)) := by
  rintro ⟨receipt, nowMs, _, same, _, ⟨state, observed, external⟩, _⟩
  cases same
  simp [hotspotObservedAfter, sampleHotspotReceipt] at observed
  cases observed
  cases external

theorem started_when_off :
    ∃ operation dispatched invocation,
      ((@fleetHubMachine sampleEnvironment).run (.new samplePolicy)
          (readBeforeStart "Off")).windowsHotspotOperations["operation.start"]? = some operation ∧
        (@fleetHubMachine sampleEnvironment).answer
          ((@fleetHubMachine sampleEnvironment).run (.new samplePolicy) (readBeforeStart "Off"))
          (.hotspot (.prepare "operation.start" "request.start" 1005)) = .hotspot (.ok dispatched) ∧
        dispatched.invocation = some invocation ∧ invocation.action = .start ∧
        KeepsToOwn ((@fleetHubMachine sampleEnvironment).run (.new samplePolicy)
            (readBeforeStart "Off")).windowsHotspotObservation invocation := by
  have free : (@fleetHubMachine sampleEnvironment).Admits (fun hub call => ¬ OvertakesStart hub call)
      (.new samplePolicy) (readBeforeStart "Off") := by
    refine ⟨overtakes_receipt ?_, overtakes_receipt ?_, overtakes_receipt ?_, overtakes_receipt ?_,
      off_overtakes_nothing, overtakes_receipt ?_, trivial⟩ <;>
    · intro receipt nowMs same
      cases same
  have reads : (((@fleetHubMachine sampleEnvironment).run (.new samplePolicy)
        (readBeforeStart "Off")).windowsHotspotOperations["operation.start"]?).map (·.lifecycle) =
        some .accepted ∧
      ((((@fleetHubMachine sampleEnvironment).run (.new samplePolicy)
        (readBeforeStart "Off")).prepareWindowsHotspotInvocation "operation.start" "request.start"
          1005).1.toOption.bind (·.invocation)).map (·.action) = some .start := by decide
  obtain ⟨operation, dispatched, sent, stored, accepted, prepared, read, start⟩ :=
    prepared_of_reads reads.1 reads.2
  have waiting : operation.lifecycle ≠ .dispatched := by
    rw [accepted]
    decide
  have answer := congrArg HubAnswer.hotspot prepared
  obtain ⟨invocation, _, invoked, keeps⟩ := @external_never_taken_over sampleEnvironment samplePolicy
    (readBeforeStart "Off") free "operation.start" "request.start" 1005 operation dispatched stored waiting
    answer
  cases read.symm.trans invoked
  exact ⟨operation, dispatched, sent, stored, answer, read, start, keeps⟩

/-- The start that was previewed before the external hotspot appeared is dispatched over it. -/
theorem start_dispatched_over_external :
    ∃ (_ : HubEnvironment) (policy : AssertedPolicy) (calls : List HubCall) (operationId requestId : String)
      (nowMs : Int) (operation dispatched : WindowsHotspotOperation)
      (invocation : WindowsHotspotProviderRequest) (state : WindowsHotspotObservedState),
      (fleetHubMachine.run (.new policy) calls).windowsHotspotOperations[operationId]? = some operation ∧
        operation.lifecycle = .accepted ∧
        fleetHubMachine.answer (fleetHubMachine.run (.new policy) calls)
          (.hotspot (.prepare operationId requestId nowMs)) = .hotspot (.ok dispatched) ∧
        dispatched.invocation = some invocation ∧ invocation.action = .start ∧
        (fleetHubMachine.run (.new policy) calls).windowsHotspotObservation = some state ∧
        state.ownership = .external := by
  have reads : (((@fleetHubMachine sampleEnvironment).run (.new samplePolicy)
        (readBeforeStart "On")).windowsHotspotOperations["operation.start"]?).map (·.lifecycle) = some .accepted ∧
      ((((@fleetHubMachine sampleEnvironment).run (.new samplePolicy)
        (readBeforeStart "On")).prepareWindowsHotspotInvocation "operation.start" "request.start"
          1005).1.toOption.bind (·.invocation)).map (·.action) = some .start ∧
      (((@fleetHubMachine sampleEnvironment).run (.new samplePolicy)
        (readBeforeStart "On")).windowsHotspotObservation).map (·.ownership) = some .external := by
    decide
  obtain ⟨operation, dispatched, invocation, stored, accepted, prepared, invoked, start⟩ :=
    prepared_of_reads reads.1 reads.2.1
  obtain ⟨state, observed, external⟩ := Option.map_eq_some_iff.mp reads.2.2
  exact ⟨sampleEnvironment, samplePolicy, readBeforeStart "On", "operation.start", "request.start", 1005, operation,
    dispatched, invocation, state, stored, accepted, congrArg HubAnswer.hotspot prepared, invoked, start,
    observed, external⟩

end Samples

end RustyFleet.HotspotSafety

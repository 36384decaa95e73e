import RustyFleet.Hub.Frames
import RustyFleet.Hub.Watch
import RustyFleet.Safety.Lineage
import RustyFleet.Safety.PackageAtomicity
import RustyFleet.Safety.Revisions
import RustyFleet.Support.NumberedLog

namespace RustyFleet

open NumberedLog

namespace Watch

section Steps

theorem newest_retained {α : Type} (limit : Nat) (values : List α) : newest limit values = retained limit values :=
  rfl

inductive Records (hub next : FleetHub) : List WatchEvent → Prop
  | nothing (sequence : next.eventSequence = hub.eventSequence) (events : next.events = hub.events) :
      Records hub next []
  | event (event : WatchEvent) (number : event.eventSequence = saturatingSucc hub.eventSequence)
      (sequence : next.eventSequence = saturatingSucc hub.eventSequence)
      (events : next.events = newest hub.policy.eventLimit (hub.events ++ [event])) :
      Records hub next [event]

variable [HubEnvironment] (hub : FleetHub)

theorem observation_records (observation : DeviceObservation) (nowMs : Int) :
    Records hub (hub.handle (.observe observation nowMs)).1
      (hub.recordedEvents (.observe observation nowMs) (hub.handle (.observe observation nowMs)).2) := by
  rcases Lineage.acceptObservation_cases hub observation nowMs with
    ⟨_, _, _, _, _, rejected⟩ | ⟨_, _, admitted⟩
  · simp only [FleetHub.handle, answeredBy, rejected]
    exact .event _ rfl rfl rfl
  · simp only [FleetHub.handle, answeredBy, admitted, FleetHub.admitObservation]
    split
    · exact .event _ rfl rfl rfl
    · exact .nothing rfl rfl

theorem call_records (call : HubCall) :
    Records hub (hub.handle call).1 (hub.recordedEvents call (hub.handle call).2) := by
  by_cases observes : ∃ observation nowMs, call = .observe observation nowMs
  · obtain ⟨observation, nowMs, rfl⟩ := observes
    exact observation_records hub observation nowMs
  · have others := hub.handle_leaves_others call
    have same := others.events fun observation nowMs same => observes ⟨observation, nowMs, same⟩
    have silent : hub.recordedEvents call (hub.handle call).2 = [] := by
      unfold FleetHub.recordedEvents
      split
      · exact absurd ⟨_, _, rfl⟩ observes
      · rfl
    rw [silent]
    exact .nothing same.1 same.2

end Steps

section Logs

structure Logged (hub : FleetHub) (log : List WatchEvent) : Prop where
  numbered : Numbered (·.eventSequence) log
  counter : hub.eventSequence = log.length
  kept : hub.events = retained hub.policy.eventLimit log

theorem logged_new (policy : AssertedPolicy) : Logged (.new policy) [] where
  numbered := .nil _
  counter := rfl
  kept := List.drop_nil.symm

theorem Logged.records {hub next : FleetHub} {log recorded : List WatchEvent} (logged : Logged hub log)
    (policy : next.policy = hub.policy) (records : Records hub next recorded)
    (room : (log ++ recorded).length ≤ u64Max) : Logged next (log ++ recorded) := by
  cases records with
  | nothing sequence events =>
    rw [List.append_nil]
    exact ⟨logged.numbered, sequence.trans logged.counter, by rw [events, policy, logged.kept]⟩
  | event event number sequence events =>
    rw [List.length_append, List.length_singleton] at room
    have counted : saturatingSucc hub.eventSequence = log.length + 1 := by
      rw [saturatingSucc, logged.counter]
      omega
    refine ⟨logged.numbered.snoc (number.trans counted), ?_, ?_⟩
    · rw [sequence, counted, List.length_append, List.length_singleton]
    · rw [events, policy, newest_retained, logged.kept, retained_snoc]

variable [HubEnvironment]

theorem Logged.call {hub : FleetHub} {log : List WatchEvent} (logged : Logged hub log) (call : HubCall)
    (room : (log ++ hub.recordedEvents call (hub.handle call).2).length ≤ u64Max) :
    Logged (hub.handle call).1 (log ++ hub.recordedEvents call (hub.handle call).2) :=
  logged.records (hub.handle_policy call) (call_records hub call) room

/-- The events a Hub recorded since it was new. -/
def recordedBy (policy : AssertedPolicy) (calls : List HubCall) : List WatchEvent :=
  fleetHubMachine.history FleetHub.recordedEvents (.new policy) calls

theorem run_logged (policy : AssertedPolicy) (calls : List HubCall)
    (room : (recordedBy policy calls).length ≤ u64Max) :
    Logged (fleetHubMachine.run (.new policy) calls) (recordedBy policy calls) := by
  have held := fleetHubMachine.run_history FleetHub.recordedEvents (fun _ _ => True)
    (fun hub log => log.length ≤ u64Max → Logged hub log)
    (fun hub call log _ holds room => by
      have earlier : log.length ≤ u64Max := by
        rw [List.length_append] at room
        omega
      exact (holds earlier).call call room)
    (.new policy) calls [] (fleetHubMachine.admits_true _ calls) (fun _ => logged_new policy)
  rw [List.nil_append] at held
  exact held room

end Logs

section Clients

structure Attached (policy : HubPolicy) (start : Nat) (state : WatchState) (log : List WatchEvent) : Prop where
  policy : state.hub.policy = policy
  logged : Logged state.hub log
  reading : Reading start state.client.cursor state.client.received log

theorem reading_records {start cursor : Nat} {received log recorded : List WatchEvent} {hub next : FleetHub}
    (reading : Reading start cursor received log) (records : Records hub next recorded) :
    Reading start cursor received (log ++ recorded) := by
  cases records with
  | nothing => exact (List.append_nil log).symm ▸ reading
  | event event => exact reading.snoc event

variable [HubEnvironment] {policy : HubPolicy} {start : Nat} {state : WatchState} {log : List WatchEvent}

omit [HubEnvironment] in
theorem watch_in_time (attached : Attached policy start state log) (limit : Nat)
    (inTime : state.hub.eventSequence ≤ state.client.cursor + state.hub.policy.eventLimit) :
    state.hub.watch state.client.cursor limit =
      (log.drop state.client.cursor).take (min limit policy.eventLimit) := by
  have logged := attached.logged
  rw [logged.counter] at inTime
  rw [FleetHub.watch, logged.kept, ← attached.policy]
  exact read_in_time logged.numbered _ inTime

theorem poll_attached (attached : Attached policy start state log) (limit : Nat)
    (inTime : state.hub.eventSequence ≤ state.client.cursor + state.hub.policy.eventLimit) :
    Attached policy start (watchMachine.next state (.poll limit)) log ∧
      (watchMachine.next state (.poll limit)).client.cursor =
        state.client.cursor + min (min limit policy.eventLimit) (log.length - state.client.cursor) := by
  have delivered := watch_in_time attached limit inTime
  have reading := attached.reading
  have moved : (watchMachine.next state (.poll limit)).client.cursor =
      state.client.cursor + ((log.drop state.client.cursor).take (min limit policy.eventLimit)).length := by
    rw [← advanced_eq attached.logged.numbered reading.within, ← delivered]
    rfl
  have received : (watchMachine.next state (.poll limit)).client.received =
      state.client.received ++ (log.drop state.client.cursor).take (min limit policy.eventLimit) := by
    rw [← delivered]
    rfl
  refine ⟨⟨attached.policy, attached.logged, ?_⟩, ?_⟩
  · rw [moved, received]
    exact reading.receive _
  · rw [moved, List.length_take, List.length_drop]

theorem step_attached (attached : Attached policy start state log) (step : WatchStep)
    (allowed : state.pollsInTime step)
    (room : (log ++ state.recordedEvents step (watchMachine.answer state step)).length ≤ u64Max) :
    Attached policy start (watchMachine.next state step)
      (log ++ state.recordedEvents step (watchMachine.answer state step)) := by
  cases step with
  | call call =>
    have records := call_records state.hub call
    have logged := attached.logged.call call room
    refine ⟨(state.hub.handle_policy call).trans attached.policy, logged, ?_⟩
    exact reading_records attached.reading records
  | poll limit =>
    show Attached policy start (watchMachine.next state (.poll limit)) (log ++ [])
    rw [List.append_nil]
    exact (poll_attached attached limit allowed.2).1

theorem drained (attached : Attached policy start state log) (positive : 0 < policy.eventLimit) :
    ∀ limits : List Nat, (∀ limit ∈ limits, 0 < limit) →
      log.length ≤ state.client.cursor + limits.length →
      state.hub.eventSequence ≤ state.client.cursor + state.hub.policy.eventLimit →
      (watchMachine.run state (limits.map .poll)).client.received = log.drop start := by
  intro limits
  induction limits generalizing state with
  | nil =>
    intro _ few _
    have whole := attached.reading.split
    rw [List.length_nil, Nat.add_zero] at few
    rw [List.drop_eq_nil_of_le few, List.append_nil] at whole
    exact whole
  | cons limit rest ih =>
    intro asked few inTime
    obtain ⟨next, moved⟩ := poll_attached attached limit inTime
    have some := asked limit List.mem_cons_self
    rw [List.length_cons] at few
    apply ih next (fun other member => asked other (List.mem_cons_of_mem _ member))
    · rw [moved]
      omega
    · show state.hub.eventSequence ≤ _ + state.hub.policy.eventLimit
      rw [moved]
      omega

end Clients

section Runs

variable [HubEnvironment]

/-- The Hub keeps the newest events under consecutive numbers, and a reader can tell what it missed. -/
structure RetainsNewest (log : List WatchEvent) (hub : FleetHub) : Prop where
  contiguous : hub.events.map (·.eventSequence) =
    List.range' (hub.eventSequence + 1 - hub.events.length) hub.events.length
  gap : ∀ cursor limit first rest, hub.watch cursor limit = first :: rest →
    (cursor + 1 < first.eventSequence ↔ ∃ event ∈ log, cursor < event.eventSequence ∧ event ∉ hub.events)

/-- What a client that keeps up can rely on: nothing recorded is lost, repeated or reordered. -/
structure DeliversOnce (recorded : List WatchEvent) (state : WatchState) : Prop where
  received : ∃ pending, state.client.received ++ pending = recorded
  distinct : recorded.Nodup
  complete : ∀ limits : List Nat, (∀ limit ∈ limits, 0 < limit) →
    state.hub.eventSequence ≤ state.client.cursor + limits.length →
    state.hub.eventSequence ≤ state.client.cursor + state.hub.policy.eventLimit →
    (watchMachine.run state (limits.map .poll)).client.received = recorded

omit [HubEnvironment] in
theorem Logged.retains {hub : FleetHub} {log : List WatchEvent} (logged : Logged hub log) :
    RetainsNewest log hub := by
  refine ⟨?_, ?_⟩
  · rw [logged.kept, logged.counter]
    exact logged.numbered.retained_numbers _
  · intro cursor limit first rest delivered
    rw [FleetHub.watch, logged.kept] at delivered
    rw [logged.kept]
    exact gap_iff logged.numbered delivered

theorem Attached.delivers {policy : AssertedPolicy} {earlier recorded : List WatchEvent} {state : WatchState}
    (attached : Attached policy.val earlier.length state (earlier ++ recorded)) : DeliversOnce recorded state := by
  have logged := attached.logged
  have since : (earlier ++ recorded).drop earlier.length = recorded := List.drop_left
  refine ⟨⟨(earlier ++ recorded).drop state.client.cursor, ?_⟩, ?_, ?_⟩
  · rw [attached.reading.split, since]
  · exact (List.nodup_append.mp logged.numbered.nodup).2.1
  · intro limits asked enough inTime
    rw [logged.counter] at enough
    rw [drained attached policy.property.2.2.2.2 limits asked enough inTime, since]

/-- The Hub a client attaches to. -/
def attachedHub (policy : AssertedPolicy) (before : List HubCall) : WatchState :=
  (fleetHubMachine.run (.new policy) before).attachWatch

/-- The events recorded since the client attached. -/
def recordedSince (policy : AssertedPolicy) (before : List HubCall) (steps : List WatchStep) : List WatchEvent :=
  watchMachine.history WatchState.recordedEvents (attachedHub policy before) steps

theorem watch_logged (policy : AssertedPolicy) (before : List HubCall) (steps : List WatchStep)
    (room : (recordedBy policy before ++ recordedSince policy before steps).length ≤ u64Max) :
    Logged (watchMachine.run (attachedHub policy before) steps).hub
      (recordedBy policy before ++ recordedSince policy before steps) := by
  have held := watchMachine.run_history WatchState.recordedEvents (fun _ _ => True)
    (fun state log => log.length ≤ u64Max → Logged state.hub log)
    (fun state step log _ holds room => by
      have earlier : log.length ≤ u64Max := by
        rw [List.length_append] at room
        omega
      cases step with
      | call call => exact (holds earlier).call call room
      | poll limit => exact (List.append_nil log).symm ▸ holds earlier)
    (attachedHub policy before) steps (recordedBy policy before) (watchMachine.admits_true _ steps)
    (run_logged policy before)
  exact held room

theorem watch_attached (policy : AssertedPolicy) (before : List HubCall) (steps : List WatchStep)
    (room : (recordedBy policy before ++ recordedSince policy before steps).length ≤ u64Max)
    (inTime : watchMachine.Admits WatchState.pollsInTime (attachedHub policy before) steps) :
    Attached policy.val (recordedBy policy before).length (watchMachine.run (attachedHub policy before) steps)
      (recordedBy policy before ++ recordedSince policy before steps) := by
  have held := watchMachine.run_history WatchState.recordedEvents WatchState.pollsInTime
    (fun state log => log.length ≤ u64Max → Attached policy.val (recordedBy policy before).length state log)
    (fun state step log allowed holds room => by
      have earlier : log.length ≤ u64Max := by
        rw [List.length_append] at room
        omega
      exact step_attached (holds earlier) step allowed room)
    (attachedHub policy before) steps (recordedBy policy before) inTime
    (fun room => by
      have logged := run_logged policy before room
      refine ⟨?_, logged, ?_⟩
      · exact fleetHubMachine.run_invariant (fun _ _ => True) (fun hub => hub.policy = policy.val)
          (fun hub call _ same => (hub.handle_policy call).trans same) (.new policy) before
          (fleetHubMachine.admits_true _ before) rfl
      · show Reading _ (fleetHubMachine.run (.new policy) before).eventSequence [] _
        rw [logged.counter]
        exact .begin _)
  exact held room

/-- Watch resume: over every run of calls, restarts and polls the Hub retains the newest events in order, and
a client whose polls are in time receives every recorded event once. -/
theorem watch_delivers_once (policy : AssertedPolicy) (before : List HubCall) (steps : List WatchStep)
    (room : (recordedBy policy before ++ recordedSince policy before steps).length ≤ u64Max) :
    RetainsNewest (recordedBy policy before ++ recordedSince policy before steps)
        (watchMachine.run (attachedHub policy before) steps).hub ∧
      (watchMachine.Admits WatchState.pollsInTime (attachedHub policy before) steps →
        DeliversOnce (recordedSince policy before steps)
          (watchMachine.run (attachedHub policy before) steps)) :=
  ⟨(watch_logged policy before steps room).retains,
    fun inTime => (watch_attached policy before steps room inTime).delivers⟩

end Runs

section Saturation

theorem refused_sequence [HubEnvironment] (hub : FleetHub) {observation : DeviceObservation} (nowMs : Int)
    (invalid : ¬ Valid observation) :
    (hub.handle (.observe observation nowMs)).1.eventSequence = saturatingSucc hub.eventSequence := by
  rw [FleetHub.handle_observe, FleetHub.acceptObservation, validate_of_not_valid invalid]
  rfl

theorem refused_recorded [HubEnvironment] (hub : FleetHub) {observation : DeviceObservation} (nowMs : Int)
    (invalid : ¬ Valid observation) :
    hub.recordedEvents (.observe observation nowMs) (hub.handle (.observe observation nowMs)).2 ≠ [] := by
  simp only [FleetHub.handle, answeredBy, FleetHub.acceptObservation, validate_of_not_valid invalid]
  exact List.cons_ne_nil _ _

theorem repeated_sequence [HubEnvironment] {observation : DeviceObservation} (nowMs : Int)
    (invalid : ¬ Valid observation) (count : Nat) (hub : FleetHub) (bounded : hub.eventSequence ≤ u64Max) :
    (fleetHubMachine.run hub (List.replicate count (.observe observation nowMs))).eventSequence =
      min (hub.eventSequence + count) u64Max := by
  induction count generalizing hub with
  | zero =>
    show hub.eventSequence = _
    omega
  | succ count ih =>
    have counted := refused_sequence hub nowMs invalid
    rw [List.replicate_succ]
    show (fleetHubMachine.run (hub.handle (.observe observation nowMs)).1 _).eventSequence = _
    rw [ih, counted, saturatingSucc]
    · omega
    · rw [counted, saturatingSucc]
      omega

def Counted (hub : FleetHub) : Prop :=
  hub.eventSequence ≤ u64Max ∧ ∀ event ∈ hub.events, event.eventSequence ≤ hub.eventSequence

theorem Counted.call [HubEnvironment] {hub : FleetHub} (counted : Counted hub) (call : HubCall) :
    Counted (hub.handle call).1 := by
  have records := call_records hub call
  obtain ⟨bounded, numbers⟩ := counted
  generalize hub.recordedEvents call (hub.handle call).2 = recorded at records
  cases records with
  | nothing sequence events =>
    rw [Counted, sequence, events]
    exact ⟨bounded, numbers⟩
  | event event number sequence events =>
    have grown : hub.eventSequence ≤ saturatingSucc hub.eventSequence := le_saturatingSucc bounded
    rw [Counted, sequence, events]
    refine ⟨Nat.min_le_right _ _, ?_⟩
    intro other member
    rcases List.mem_append.mp (List.mem_of_mem_drop member) with earlier | single
    · exact Nat.le_trans (numbers other earlier) grown
    · exact Nat.le_of_eq (List.mem_singleton.mp single ▸ number)

theorem Counted.nothing_past {hub : FleetHub} (counted : Counted hub) (limit : Nat) :
    hub.watch hub.eventSequence limit = [] := by
  have none : hub.events.filter (fun event => decide (event.eventSequence > hub.eventSequence)) = [] := by
    apply List.filter_eq_nil_iff.mpr
    intro event member
    have bound := counted.2 event member
    simpa using bound
  rw [FleetHub.watch, none, List.take_nil]

theorem call_then_poll [HubEnvironment] (hub : FleetHub) (call : HubCall) (limit : Nat) :
    watchMachine.run hub.attachWatch [.call call, .poll limit] =
        ⟨(hub.handle call).1, hub.attachWatch.client.receive ((hub.handle call).1.watch hub.eventSequence limit)⟩ ∧
      watchMachine.history WatchState.recordedEvents hub.attachWatch [.call call, .poll limit] =
        hub.recordedEvents call (hub.handle call).2 :=
  ⟨rfl, List.append_nil _⟩

theorem saturated_loses [HubEnvironment] {hub : FleetHub} (counted : Counted hub)
    (sequence : hub.eventSequence = u64Max) {observation : DeviceObservation} (nowMs : Int)
    (invalid : ¬ Valid observation) :
    watchMachine.Admits WatchState.pollsInTime hub.attachWatch [.call (.observe observation nowMs), .poll 1] ∧
      ¬ DeliversOnce
        (watchMachine.history WatchState.recordedEvents hub.attachWatch
          [.call (.observe observation nowMs), .poll 1])
        (watchMachine.run hub.attachWatch [.call (.observe observation nowMs), .poll 1]) := by
  have later := counted.call (.observe observation nowMs)
  have stays : (hub.handle (.observe observation nowMs)).1.eventSequence = hub.eventSequence := by
    rw [refused_sequence hub nowMs invalid, saturatingSucc, sequence]
    omega
  have silent : (hub.handle (.observe observation nowMs)).1.watch hub.eventSequence 1 = [] := by
    rw [← stays]
    exact later.nothing_past 1
  obtain ⟨final, recorded⟩ := call_then_poll hub (.observe observation nowMs) 1
  have missed := refused_recorded hub nowMs invalid
  rw [final, recorded, silent]
  generalize (hub.handle (.observe observation nowMs)).2 = answer at missed
  refine ⟨⟨trivial, ⟨Nat.one_pos, ?_⟩, trivial⟩, ?_⟩
  · show (hub.handle (.observe observation nowMs)).1.eventSequence ≤ hub.eventSequence + _
    omega
  · generalize (hub.handle (.observe observation nowMs)).1 = next at stays
    intro delivers
    have caughtUp := delivers.complete [] (fun _ member => absurd member List.not_mem_nil)
      (show next.eventSequence ≤ hub.eventSequence + 0 by omega)
      (show next.eventSequence ≤ hub.eventSequence + next.policy.eventLimit by omega)
    exact missed caughtUp.symm

end Saturation

section Samples

open PackageSafety

def unboundObservation : DeviceObservation := { readyObservation "d1" with sourceEpoch := "" }

def refusedCall : HubCall := .observe unboundObservation 1000

theorem unbound_invalid : ¬ @Valid _ (@instValidateContractDeviceObservation sampleEnvironment.toObservationCodec)
    unboundObservation := by
  decide

abbrev sampleAttached (calls : List HubCall) : WatchState := @attachedHub sampleEnvironment samplePolicy calls

/-- One more observation is refused, and the client polls for one event. -/
abbrev sampleSteps : List WatchStep := [.call refusedCall, .poll 1]

def smallPolicy : AssertedPolicy := ⟨{ HubPolicy.default with eventLimit := 2 }, by decide⟩

def earlierCalls : List HubCall := [refusedCall, refusedCall, refusedCall]

def burstSteps : List WatchStep :=
  [.call refusedCall, .call refusedCall, .poll 1, .call refusedCall, .poll 5]

theorem sample_delivered :
    let state := @Machine.run _ _ _ (@watchMachine sampleEnvironment)
      (@attachedHub sampleEnvironment smallPolicy earlierCalls) burstSteps
    @RetainsNewest (@recordedBy sampleEnvironment smallPolicy earlierCalls ++
        @recordedSince sampleEnvironment smallPolicy earlierCalls burstSteps) state.hub ∧
      @DeliversOnce sampleEnvironment (@recordedSince sampleEnvironment smallPolicy earlierCalls burstSteps) state ∧
      state.hub.events.map (·.eventSequence) = [5, 6] ∧
      state.client.received.map (·.eventSequence) = [4, 5, 6] := by
  have holds := @watch_delivers_once sampleEnvironment smallPolicy earlierCalls burstSteps (by decide)
  have inTime : @Machine.Admits _ _ _ (@watchMachine sampleEnvironment) WatchState.pollsInTime
      (@attachedHub sampleEnvironment smallPolicy earlierCalls) burstSteps :=
    ⟨trivial, trivial, ⟨by decide, by decide⟩, trivial, ⟨by decide, by decide⟩, trivial⟩
  exact ⟨holds.1, holds.2 inTime, by decide, by decide⟩

theorem sampleHub_counted (calls : List HubCall) : Counted (sampleAttached calls).hub :=
  @Machine.run_invariant _ _ _ (@fleetHubMachine sampleEnvironment) (fun _ _ => True) Counted
    (fun _ call _ counted => @Counted.call sampleEnvironment _ counted call) (.new samplePolicy) calls
    (Machine.admits_true _ _ _) ⟨Nat.zero_le _, fun _ member => absurd member List.not_mem_nil⟩

theorem sampleHub_sequence (count : Nat) :
    (sampleAttached (List.replicate count refusedCall)).hub.eventSequence = min (0 + count) u64Max :=
  @repeated_sequence sampleEnvironment unboundObservation 1000 unbound_invalid count (.new samplePolicy)
    (Nat.zero_le _)

theorem sampleHub_loses (calls : List HubCall) (saturated : (sampleAttached calls).hub.eventSequence = u64Max) :
    @Machine.Admits _ _ _ (@watchMachine sampleEnvironment) WatchState.pollsInTime (sampleAttached calls)
        sampleSteps ∧
      ¬ @DeliversOnce sampleEnvironment (@recordedSince sampleEnvironment samplePolicy calls sampleSteps)
        (@Machine.run _ _ _ (@watchMachine sampleEnvironment) (sampleAttached calls) sampleSteps) :=
  @saturated_loses sampleEnvironment (sampleAttached calls).hub (sampleHub_counted calls) saturated
    unboundObservation 1000 unbound_invalid

/-- Once the counter is saturated, a client in time receives nothing of what is recorded. -/
theorem saturated_counter_loses :
    @Machine.Admits _ _ _ (@watchMachine sampleEnvironment) WatchState.pollsInTime
        (sampleAttached (List.replicate u64Max refusedCall)) sampleSteps ∧
      ¬ @DeliversOnce sampleEnvironment
        (@recordedSince sampleEnvironment samplePolicy (List.replicate u64Max refusedCall) sampleSteps)
        (@Machine.run _ _ _ (@watchMachine sampleEnvironment)
          (sampleAttached (List.replicate u64Max refusedCall)) sampleSteps) := by
  apply sampleHub_loses
  rw [sampleHub_sequence]
  omega

end Samples

end Watch

end RustyFleet

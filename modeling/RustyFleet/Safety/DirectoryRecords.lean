import RustyFleet.Safety.Directory
import RustyFleet.Safety.PackageAtomicity
import RustyFleet.Safety.Revisions

namespace RustyFleet

variable {hub : FleetHub}

structure RecordSound (hub : FleetHub) [ObservationCodec] (record : DeviceRecord) : Prop where
  valid : Valid record.observation
  accepted : 0 ≤ record.acceptedAtMs
  stamped : 0 < record.acceptedRevision ∧ record.acceptedRevision ≤ hub.resultRevision
  bounded : record.conditionHistory.length ≤ hub.policy.historyLimitPerDevice
  conditions : ∀ condition ∈ record.conditionHistory, Valid condition

structure DirectorySound (hub : FleetHub) [ObservationCodec] : Prop where
  keyed : DirectoryKeyed hub
  records : ∀ (deviceId : String) (record : DeviceRecord),
    hub.devices[deviceId]? = some record → RecordSound hub record

structure EventsSound (hub : FleetHub) : Prop where
  bounded : hub.events.length ≤ hub.policy.eventLimit
  schema : ∀ event ∈ hub.events, event.schema = watchEventSchema
  ordered : hub.events.Pairwise fun earlier later => earlier.eventSequence < later.eventSequence
  counted : ∀ event ∈ hub.events, event.eventSequence ≤ hub.eventSequence

theorem mem_newest {α : Type} {limit : Nat} {values : List α} {value : α}
    (member : value ∈ newest limit values) : value ∈ values :=
  List.mem_of_mem_drop member

theorem recordEvent_sound (events : EventsSound hub) (room : hub.eventSequence < u64Max)
    (observedAtMs : Int) (decision : ObservationDecision) :
    EventsSound (hub.recordEvent observedAtMs decision) := by
  have counted : ∀ event ∈ hub.events, event.eventSequence < saturatingSucc hub.eventSequence :=
    fun event member => Nat.lt_of_le_of_lt (events.counted event member) (lt_saturatingSucc room)
  refine ⟨?_, ?_, ?_, ?_⟩
  · simp only [FleetHub.recordEvent, newest_length]
    omega
  · intro event member
    rcases List.mem_append.mp (mem_newest member) with earlier | single
    · exact events.schema event earlier
    · rw [List.mem_singleton.mp single]
  · exact (Support.pairwise_snoc events.ordered counted).sublist (List.drop_sublist _ _)
  · intro event member
    rcases List.mem_append.mp (mem_newest member) with earlier | single
    · exact Nat.le_of_lt (counted event earlier)
    · rw [List.mem_singleton.mp single]
      exact Nat.le_refl _

theorem EventsSound.of_same {other : FleetHub} (events : EventsSound hub)
    (policy : other.policy = hub.policy)
    (same : other.eventSequence = hub.eventSequence ∧ other.events = hub.events) : EventsSound other := by
  obtain ⟨sequence, kept⟩ := same
  exact
    { bounded := by rw [kept, policy]; exact events.bounded
      schema := by rw [kept]; exact events.schema
      ordered := by rw [kept]; exact events.ordered
      counted := by rw [kept, sequence]; exact events.counted }

section Observations

variable [ObservationCodec]

theorem RecordSound.later {other : FleetHub} {record : DeviceRecord} (sound : RecordSound hub record)
    (policy : other.policy = hub.policy) (grown : hub.resultRevision ≤ other.resultRevision) :
    RecordSound other record :=
  { sound with
    stamped := ⟨sound.stamped.1, Nat.le_trans sound.stamped.2 grown⟩
    bounded := policy ▸ sound.bounded }

theorem DirectorySound.of_same {other : FleetHub} (sound : DirectorySound hub)
    (policy : other.policy = hub.policy) (same : other.devices = hub.devices)
    (grown : hub.resultRevision ≤ other.resultRevision) : DirectorySound other where
  keyed := directoryKeyed_of_devices same sound.keyed
  records := by
    intro deviceId record stored
    rw [same] at stored
    exact (sound.records deviceId record stored).later policy grown

theorem acceptedRecord_sound (sound : DirectorySound hub) {observation : DeviceObservation} {nowMs : Int}
    (valid : Valid observation) (clock : 0 ≤ nowMs) (next : FleetHub)
    (policy : next.policy = hub.policy)
    (revision : next.resultRevision = saturatingSucc hub.resultRevision) :
    RecordSound next (hub.acceptedRecord observation nowMs) := by
  have positive : 0 < saturatingSucc hub.resultRevision := by
    unfold saturatingSucc u64Max
    omega
  refine ⟨valid, clock, ⟨positive, Nat.le_of_eq revision.symm⟩, ?_, ?_⟩
  · simp only [FleetHub.acceptedRecord, newest_length, policy]
    omega
  · intro condition member
    rcases List.mem_append.mp (mem_newest member) with earlier | own
    · cases stored : hub.devices[observation.identity.deviceId]? with
      | none => simp [stored] at earlier
      | some record =>
        rw [stored] at earlier
        exact (sound.records _ record stored).conditions condition earlier
    · exact (observation_valid_facts observation valid).2.2.2.2 condition own

theorem admitObservation_sound (revised : Revised hub) (sound : DirectorySound hub)
    {observation : DeviceObservation} {nowMs : Int} (valid : Valid observation) (clock : 0 ≤ nowMs) :
    DirectorySound (hub.admitObservation observation nowMs).2 := by
  have grown := le_saturatingSucc revised.bounded
  unfold FleetHub.admitObservation
  simp only
  split
  · refine ⟨?_, ?_⟩
    · exact BTreeMap.insert_forall hub.devices _ _
        (fun deviceId record => record.observation.identity.deviceId = deviceId) sound.keyed rfl
    · refine BTreeMap.insert_forall hub.devices _ _ (fun _ record => RecordSound _ record)
        (fun deviceId record stored => ?_) ?_
      · exact (sound.records deviceId record stored).later rfl grown
      · exact acceptedRecord_sound sound valid clock _ rfl rfl
  · exact sound.of_same rfl rfl grown

omit [ObservationCodec] in
theorem admitObservation_events (events : EventsSound hub) (room : hub.eventSequence < u64Max)
    (observation : DeviceObservation) (nowMs : Int) :
    EventsSound (hub.admitObservation observation nowMs).2 := by
  unfold FleetHub.admitObservation
  simp only
  split
  · have stored : EventsSound
        { hub with
          resultRevision := saturatingSucc hub.resultRevision
          devices := hub.devices.insert observation.identity.deviceId
            (hub.acceptedRecord observation nowMs) } := events.of_same rfl ⟨rfl, rfl⟩
    exact recordEvent_sound stored room nowMs _
  · exact events.of_same rfl ⟨rfl, rfl⟩

theorem observation_directory (revised : Revised hub) (sound : DirectorySound hub)
    (observation : DeviceObservation) (nowMs : Int) (clock : 0 ≤ nowMs) :
    DirectorySound (hub.acceptObservation observation nowMs).2 := by
  rcases Lineage.acceptObservation_cases hub observation nowMs with
    ⟨_, _, _, _, _, rejected⟩ | ⟨_, valid, admitted⟩
  · rw [rejected]
    exact sound.of_same rfl rfl (Nat.le_refl _)
  · rw [admitted]
    exact admitObservation_sound revised sound valid clock

theorem observation_events (events : EventsSound hub) (room : hub.eventSequence < u64Max)
    (observation : DeviceObservation) (nowMs : Int) :
    EventsSound (hub.acceptObservation observation nowMs).2 := by
  rcases Lineage.acceptObservation_cases hub observation nowMs with
    ⟨_, _, _, _, _, rejected⟩ | ⟨_, _, admitted⟩
  · rw [rejected]
    exact recordEvent_sound events room nowMs _
  · rw [admitted]
    exact admitObservation_events events room observation nowMs

end Observations

section Calls

variable [HubEnvironment]

theorem call_directory (revised : Revised hub) (sound : DirectorySound hub) (call : HubCall)
    (clock : ∀ observation nowMs, call = .observe observation nowMs → 0 ≤ nowMs) :
    DirectorySound (hub.handle call).1 := by
  by_cases observes : ∃ observation nowMs, call = .observe observation nowMs
  · obtain ⟨observation, nowMs, rfl⟩ := observes
    rw [FleetHub.handle_observe]
    exact observation_directory revised sound observation nowMs (clock observation nowMs rfl)
  · have others := hub.handle_leaves_others call
    exact sound.of_same others.policy
      (others.devices fun observation nowMs same => observes ⟨observation, nowMs, same⟩)
      (handle_revision_le revised call)

theorem call_events (events : EventsSound hub) (room : hub.eventSequence < u64Max) (call : HubCall) :
    EventsSound (hub.handle call).1 := by
  by_cases observes : ∃ observation nowMs, call = .observe observation nowMs
  · obtain ⟨observation, nowMs, rfl⟩ := observes
    rw [FleetHub.handle_observe]
    exact observation_events events room observation nowMs
  · have others := hub.handle_leaves_others call
    exact events.of_same others.policy
      (others.events fun observation nowMs same => observes ⟨observation, nowMs, same⟩)

end Calls

section Runs

variable [HubEnvironment]

structure InRange (hub : FleetHub) (call : HubCall) : Prop where
  clock : ∀ observation nowMs, call = .observe observation nowMs → 0 ≤ nowMs
  room : hub.eventSequence < u64Max

omit [HubEnvironment] in
theorem eventsSound_new (policy : AssertedPolicy) : EventsSound (.new policy) where
  bounded := Nat.zero_le _
  schema := by
    intro event member
    cases member
  ordered := List.Pairwise.nil
  counted := by
    intro event member
    cases member

theorem directorySound_new (policy : AssertedPolicy) : DirectorySound (.new policy) where
  keyed := directoryKeyed_new policy
  records := by
    intro deviceId record stored
    simp [FleetHub.new] at stored

theorem directory_sound_throughout (policy : AssertedPolicy) (calls : List HubCall)
    (admitted : fleetHubMachine.Admits InRange (.new policy) calls) :
    let hub := fleetHubMachine.run (.new policy) calls
    DirectorySound hub ∧ EventsSound hub := by
  have held := fleetHubMachine.run_invariant InRange
    (fun hub => Revised hub ∧ DirectorySound hub ∧ EventsSound hub) ?_ (.new policy) calls admitted
    ⟨revised_new policy, directorySound_new policy, eventsSound_new policy⟩
  · exact held.2
  · intro hub call range sound
    obtain ⟨revised, directory, events⟩ := sound
    exact ⟨call_revised revised call, call_directory revised directory call range.clock, call_events events range.room call⟩

end Runs

section Samples

open PackageSafety

def narrowPolicy : AssertedPolicy :=
  ⟨{ HubPolicy.default with historyLimitPerDevice := 1, eventLimit := 2 }, by decide⟩

def powerCondition (revision : Nat) : StatusCondition where
  family := .power
  state := .current
  reason := "battery_reported"
  message := "the headset reports its battery"
  sourceTimeMs := 1000
  receivedTimeMs := 1000
  acceptedRevision := revision
  freshUntilMs := 61000
  source := { adapterId := "device", owner := "device", authorityRevision := 1 }
  sensitivity := .operator
  extensions := ∅

def poweredObservation (revision : Nat) : DeviceObservation :=
  { readyObservation "d1" with
    sourceRevision := revision
    conditions := [powerCondition revision] }

def directoryCalls : List HubCall :=
  [.observe (poweredObservation 1) 1000, .observe (poweredObservation 2) 1000,
    .observe (poweredObservation 2) 1001, .observe (readyObservation "d2") 1001]

theorem observe_inRange (observation : DeviceObservation) {nowMs : Int} (clock : 0 ≤ nowMs)
    (room : hub.eventSequence < u64Max) : InRange hub (.observe observation nowMs) where
  clock := by
    intro observed atMs same
    cases same
    exact clock
  room := room

theorem headset_directory_sound :
    let hub := (@fleetHubMachine sampleEnvironment).run (.new narrowPolicy) directoryCalls
    hub.devices.size = 2 ∧ hub.events.map (·.eventSequence) = [3, 4] ∧
      hub.devices["d1"]?.map (fun record => record.conditionHistory.map (·.acceptedRevision)) = some [2] ∧
      @DirectorySound hub sampleEnvironment.toObservationCodec ∧ EventsSound hub := by
  have admitted : (@fleetHubMachine sampleEnvironment).Admits InRange (.new narrowPolicy) directoryCalls := by
    refine ⟨?_, ?_, ?_, ?_, trivial⟩
    all_goals exact observe_inRange _ (by decide) (by decide)
  exact ⟨by decide, by decide, by decide,
    @directory_sound_throughout sampleEnvironment narrowPolicy directoryCalls admitted⟩

end Samples

end RustyFleet

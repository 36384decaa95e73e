import RustyFleet.Safety.HotspotSingleton

namespace RustyFleet.HotspotSafety

variable {hub after : FleetHub} {operation next : WindowsHotspotOperation}

/-- One receipt a run has applied: the lifecycle it met and the observation it left. -/
structure AppliedReceipt where
  before : Option CommandLifecycle
  receipt : WindowsHotspotProviderReceipt
  observed : Option WindowsHotspotObservedState

def appliedReceipts (hub : FleetHub) (call : HubCall) (answer : HubAnswer) : List AppliedReceipt :=
  match call, answer with
  | .hotspot (.receipt receipt nowMs), .hotspot (.ok _) =>
    [{ before := (hub.windowsHotspotOperations[receipt.operationId]?).map (·.lifecycle)
       receipt := receipt
       observed := hotspotObservedAfter hub.windowsHotspotObservation receipt nowMs }]
  | _, _ => []

/-- A generation was created by an applied start, and no receipt applied since has ended Fleet's ownership. -/
def StartedBy (applied : List AppliedReceipt) (generation : String) : Prop :=
  ∃ earlier start later, applied = earlier ++ start :: later ∧ start.before = some .dispatched ∧
    ProvesStart start.receipt ∧ start.receipt.ownershipGeneration = some generation ∧
    ∀ entry ∈ later, ∃ state, entry.observed = some state ∧ state.ownership = .fleet

theorem StartedBy.kept {applied : List AppliedReceipt} {generation : String} {entry : AppliedReceipt}
    (started : StartedBy applied generation) {state : WindowsHotspotObservedState}
    (observed : entry.observed = some state) (owned : state.ownership = .fleet) :
    StartedBy (applied ++ [entry]) generation := by
  obtain ⟨earlier, start, later, rfl, dispatched, proves, carried, since⟩ := started
  refine ⟨earlier, start, later ++ [entry], by simp, dispatched, proves, carried, fun one member => ?_⟩
  rcases List.mem_append.mp member with before | last
  · exact since one before
  · rw [List.mem_singleton.mp last]
    exact ⟨state, observed, owned⟩

def Answered (hub : FleetHub) (operationId : String) : Prop :=
  ∃ operation, hub.windowsHotspotOperations[operationId]? = some operation ∧ operation.receipt.isSome = true

theorem Answered.store {operationId key : String} (answered : Answered hub key)
    (keeps : ∀ prior, hub.windowsHotspotOperations[operationId]? = some prior →
      prior.receipt.isSome = true → next.receipt.isSome = true) :
    Answered (hub.storeHotspot operationId next) key := by
  obtain ⟨prior, stored, received⟩ := answered
  by_cases own : key = operationId
  · subst own
    exact ⟨next, BTreeMap.lookup_insert_self _ _ _, keeps prior stored received⟩
  · exact ⟨prior, (BTreeMap.lookup_insert_of_ne _ _ own).trans stored, received⟩

theorem HotspotChange.answered {key : String} (change : HotspotChange hub after)
    (answered : Answered hub key) : Answered after key := by
  cases change with
  | previewed plan operation created unused room valid =>
    exact answered.store fun prior stored => by cases unused.symm.trans stored
  | dispatched operationId operation invocation nowMs stored accepted valid bound =>
    refine answered.store fun prior found received => ?_
    cases stored.symm.trans found
    exact received
  | expired operationId operation nowMs stored =>
    refine answered.store fun prior found received => ?_
    cases stored.symm.trans found
    exact received
  | failed operationId operation failureCode nowMs stored =>
    refine answered.store fun prior found received => ?_
    cases stored.symm.trans found
    exact received
  | received receipt operation nowMs checked =>
    have written : Answered (hub.storeHotspot receipt.operationId (operation.received receipt nowMs)) key :=
      answered.store fun prior found received => rfl
    exact written

theorem handleHotspot_answered {key : String} (answered : Answered hub key) (call : HotspotCall) :
    Answered (hub.handleHotspot call).2 key := by
  rcases hotspot_changes hub call with changes |
    ⟨operationId, previewId, nowMs, operation, _, confirms, accepted⟩
  · exact changes.preserve (Answered · key) (fun _ _ change => change.answered) answered
  · rw [accepted]
    refine answered.store fun prior found received => ?_
    cases confirms.stored.symm.trans found
    exact received

theorem settle_observation (operationId : String) (edit : HubResult (LedgerEdit WindowsHotspotOperation)) :
    (hub.settleHotspot operationId edit).2.windowsHotspotObservation = hub.windowsHotspotObservation := by
  rcases edit with fault | operation | next <;> rfl

theorem expire_observation (hub : FleetHub) (operationId : String) (nowMs : Int) :
    (hub.expireWindowsHotspotOperation operationId nowMs).windowsHotspotObservation =
      hub.windowsHotspotObservation := by
  unfold FleetHub.expireWindowsHotspotOperation
  split <;> rfl

theorem recover_observation (ids : List String) (nowMs : Int) (state : FleetHub) :
    (ids.foldl (fun state operationId => state.expireWindowsHotspotOperation operationId nowMs)
      state).windowsHotspotObservation = state.windowsHotspotObservation := by
  induction ids generalizing state with
  | nil => rfl
  | cons id rest ih => exact (ih _).trans (expire_observation state id nowMs)

theorem hotspot_observation (hub : FleetHub) (call : HotspotCall) :
    (hub.handleHotspot call).2.windowsHotspotObservation = hub.windowsHotspotObservation ∧
        (∀ receipt nowMs, call = .receipt receipt nowMs →
          ∃ fault, (hub.applyWindowsHotspotReceipt receipt nowMs).1 = .error fault) ∨
      ∃ receipt nowMs operation invocation, call = .receipt receipt nowMs ∧
        Settles hub receipt operation invocation ∧
        hub.applyWindowsHotspotReceipt receipt nowMs = (.ok (operation.received receipt nowMs),
          { hub.storeHotspot receipt.operationId (operation.received receipt nowMs) with
            windowsHotspotObservation :=
              hotspotObservedAfter hub.windowsHotspotObservation receipt nowMs }) := by
  cases call with
  | preview plan => exact .inl ⟨settle_observation _ _, fun _ _ same => by cases same⟩
  | confirm operationId previewId nowMs =>
    refine .inl ⟨?_, fun _ _ same => by cases same⟩
    simp only [FleetHub.handleHotspot, Prod.map_snd, id, FleetHub.confirmWindowsHotspot]
    split
    · rfl
    repeat' split
    · rfl
    · rfl
    · exact expire_observation hub operationId nowMs
    · rfl
    · rfl
  | prepare operationId requestId nowMs =>
    exact .inl ⟨settle_observation _ _, fun _ _ same => by cases same⟩
  | receipt receipt nowMs =>
    cases checked : hub.hotspotReceiptChecks receipt with
    | error fault =>
      have refused : hub.applyWindowsHotspotReceipt receipt nowMs = (.error fault, hub) := by
        rw [FleetHub.applyWindowsHotspotReceipt, checked]
      refine .inl ⟨?_, fun _ _ same => ?_⟩
      · simp only [FleetHub.handleHotspot, Prod.map_snd, id, refused]
      · cases same
        exact ⟨fault, by rw [refused]⟩
    | ok operation =>
      obtain ⟨invocation, settles⟩ := (receiptChecks_ok receipt).mp checked
      refine .inr ⟨receipt, nowMs, operation, invocation, rfl, settles, ?_⟩
      rw [FleetHub.applyWindowsHotspotReceipt, checked]
  | fail operationId failureCode nowMs =>
    exact .inl ⟨settle_observation _ _, fun _ _ same => by cases same⟩
  | recover nowMs =>
    exact .inl ⟨recover_observation _ nowMs hub, fun _ _ same => by cases same⟩

structure OwnershipRecord (hub : FleetHub) (applied : List AppliedReceipt) : Prop where
  started : ∀ state, hub.windowsHotspotObservation = some state → state.ownership = .fleet →
    ∀ generation, state.generation = some generation → StartedBy applied generation
  once : (applied.map (·.receipt.operationId)).Nodup
  answered : ∀ entry ∈ applied, Answered hub entry.receipt.operationId
  dispatched : ∀ entry ∈ applied, entry.before = some .dispatched

theorem OwnershipRecord.of_same {other : FleetHub} {applied : List AppliedReceipt}
    (record : OwnershipRecord hub applied)
    (same : other.windowsHotspotObservation = hub.windowsHotspotObservation)
    (kept : ∀ key, Answered hub key → Answered other key) : OwnershipRecord other applied where
  started := by
    rw [same]
    exact record.started
  once := record.once
  answered := fun entry member => kept _ (record.answered entry member)
  dispatched := record.dispatched

theorem OwnershipRecord.receive {applied : List AppliedReceipt} {receipt : WindowsHotspotProviderReceipt}
    {invocation : WindowsHotspotProviderRequest} (record : OwnershipRecord hub applied)
    (settles : Settles hub receipt operation invocation) (nowMs : Int)
    (observed : after.windowsHotspotObservation =
      hotspotObservedAfter hub.windowsHotspotObservation receipt nowMs)
    (stored : after.windowsHotspotOperations[receipt.operationId]? = some (operation.received receipt nowMs))
    (kept : ∀ key, Answered hub key → Answered after key) :
    OwnershipRecord after (applied ++
      [{ before := some .dispatched
         receipt := receipt
         observed := hotspotObservedAfter hub.windowsHotspotObservation receipt nowMs }]) where
  started := by
    rw [observed]
    intro state seen owned generation carried
    rcases observedAfter_cases hub.windowsHotspotObservation receipt nowMs with
      same | ended | ⟨proves, started⟩
    · exact (record.started state (same ▸ seen) owned generation carried).kept seen owned
    · exact absurd owned (ended state seen).1
    · rw [started] at seen
      cases seen
      exact ⟨applied, _, [], rfl, rfl, proves, carried, fun entry member => by cases member⟩
  once := by
    rw [List.map_append, List.map_singleton, List.nodup_append]
    refine ⟨record.once, by simp, ?_⟩
    intro known member key single same
    rw [List.mem_singleton] at single
    obtain ⟨entry, known', rfl⟩ := List.mem_map.mp member
    obtain ⟨prior, found, received⟩ := record.answered entry known'
    rw [same, single, settles.stored] at found
    cases found
    rw [settles.unanswered] at received
    cases received
  answered := by
    intro entry member
    rcases List.mem_append.mp member with before | last
    · exact kept _ (record.answered entry before)
    · rw [List.mem_singleton.mp last]
      exact ⟨_, stored, rfl⟩
  dispatched := by
    intro entry member
    rcases List.mem_append.mp member with before | last
    · exact record.dispatched entry before
    · rw [List.mem_singleton.mp last]

section Runs

variable [HubEnvironment]

theorem call_ownership {applied : List AppliedReceipt} (record : OwnershipRecord hub applied)
    (call : HubCall) :
    OwnershipRecord (fleetHubMachine.next hub call)
      (applied ++ appliedReceipts hub call (fleetHubMachine.answer hub call)) := by
  by_cases own : ∃ hotspot, call = .hotspot hotspot
  · obtain ⟨hotspot, rfl⟩ := own
    have kept : ∀ key, Answered hub key → Answered (hub.handleHotspot hotspot).2 key :=
      fun key answered => handleHotspot_answered answered hotspot
    rcases hotspot_observation hub hotspot with ⟨same, refused⟩ |
      ⟨receipt, nowMs, operation, invocation, rfl, settles, applies⟩
    · have nothing : appliedReceipts hub (.hotspot hotspot)
          (fleetHubMachine.answer hub (.hotspot hotspot)) = [] := by
        cases hotspot with
        | receipt receipt nowMs =>
          obtain ⟨fault, failed⟩ := refused receipt nowMs rfl
          have answer : fleetHubMachine.answer hub (.hotspot (.receipt receipt nowMs)) =
              .hotspot (.error fault) := congrArg HubAnswer.hotspot failed
          rw [answer]
          rfl
        | _ => rfl
      rw [nothing, List.append_nil]
      exact record.of_same same kept
    · have answer : fleetHubMachine.answer hub (.hotspot (.receipt receipt nowMs)) =
          .hotspot (.ok (operation.received receipt nowMs)) :=
        congrArg (fun result : HubResult WindowsHotspotOperation × FleetHub => HubAnswer.hotspot result.1)
            applies
      have final : fleetHubMachine.next hub (.hotspot (.receipt receipt nowMs)) =
          { hub.storeHotspot receipt.operationId (operation.received receipt nowMs) with
            windowsHotspotObservation :=
              hotspotObservedAfter hub.windowsHotspotObservation receipt nowMs } :=
        congrArg Prod.snd applies
      rw [answer]
      simp only [appliedReceipts, settles.stored, Option.map_some, settles.dispatched]
      refine record.receive settles nowMs ?_ ?_ kept
      · rw [final]
      · rw [final]
        exact BTreeMap.lookup_insert_self _ _ _
  · have other : ∀ hotspot, call ≠ .hotspot hotspot := fun hotspot same => own ⟨hotspot, same⟩
    have leaves := hub.handle_leaves_others call
    have nothing : appliedReceipts hub call (fleetHubMachine.answer hub call) = [] := by
      cases call with
      | hotspot hotspot => exact absurd rfl (other hotspot)
      | _ => rfl
    rw [nothing, List.append_nil]
    refine record.of_same (leaves.hotspotObservation other) fun key answered => ?_
    obtain ⟨operation, stored, received⟩ := answered
    exact ⟨operation, by rw [← stored]; exact congrArg (·[key]?) (leaves.hotspot other), received⟩

theorem run_ownership (policy : AssertedPolicy) (calls : List HubCall) :
    OwnershipRecord (fleetHubMachine.run (.new policy) calls)
      (fleetHubMachine.history appliedReceipts (.new policy) calls) := by
  refine fleetHubMachine.run_history appliedReceipts (fun _ _ => True) OwnershipRecord
    (fun hub call applied _ record => call_ownership record call) (.new policy) calls []
    (fleetHubMachine.admits_true _ _) ?_
  exact ⟨(fun state same => by cases same), .nil, (fun entry member => by cases member),
    (fun entry member => by cases member)⟩

/-- Fleet owns the observed hotspot exactly when a verified start created the generation it carries. -/
theorem ownership_only_started (policy : AssertedPolicy) (calls : List HubCall) :
    let hub := fleetHubMachine.run (.new policy) calls
    let applied := fleetHubMachine.history appliedReceipts (.new policy) calls
    (∀ state, hub.windowsHotspotObservation = some state →
      (state.ownership = .fleet ↔ ∃ generation, state.generation = some generation) ∧
        ∀ generation, state.generation = some generation →
          generation.isEmpty = false ∧ state.active = true ∧ StartedBy applied generation) ∧
      (∀ entry ∈ applied, entry.before = some .dispatched) ∧
      (applied.map (·.receipt.operationId)).Nodup := by
  intro hub applied
  have sound := (run_hotspot policy calls).2
  have record := run_ownership policy calls
  refine ⟨fun state observed => ?_, record.dispatched, record.once⟩
  obtain ⟨owned, filled⟩ := sound.observed state observed
  refine ⟨owned, fun generation carried => ?_⟩
  obtain ⟨nonempty, active⟩ := filled generation carried
  exact ⟨nonempty, active, record.started state observed (owned.mpr ⟨generation, carried⟩) generation carried⟩

end Runs

end RustyFleet.HotspotSafety

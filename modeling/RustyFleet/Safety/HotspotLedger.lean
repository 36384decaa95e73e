import RustyFleet.Safety.HotspotSteps
import RustyFleet.Safety.Revisions
import RustyFleet.Support.Ledger

namespace RustyFleet.HotspotSafety

variable {hub : FleetHub} {operation next : WindowsHotspotOperation}

def Framed (operation : WindowsHotspotOperation) : Prop :=
  operation.schema = windowsHotspotOperationSchema ∧
    (operation.actionId = windowsHotspotActionId ∧ operation.operationId = operation.preview.operationId ∧
      operation.actionId = operation.preview.actionId ∧
      operation.preview.resourceId = windowsHotspotResourceId ∧
      operation.preview.ownerId = windowsHotspotOwner) ∧
    operation.preview.createdAtMs < operation.preview.expiresAtMs ∧
    (operation.preview.schema = "rusty.fleet.windows_hotspot_preview.v1" ∧
      operation.preview.actionId = windowsHotspotActionId ∧
      operation.preview.resourceId = windowsHotspotResourceId ∧
      operation.preview.ownerId = windowsHotspotOwner ∧ operation.preview.fleetRevision ≠ 0) ∧
    ∀ lease, operation.lease = some lease → hotspotLeaseBound operation lease

theorem optional_nil {α : Type} (value : Option α) (check : α → List ContractViolation) :
    (value.map check).getD [] = [] ↔ ∀ present, value = some present → check present = [] := by
  cases value <;> simp

theorem valid_iff : Valid operation ↔ Framed operation ∧
    (∀ invocation, operation.invocation = some invocation →
      hotspotInvocationViolations operation invocation = []) ∧
    (∀ receipt, operation.receipt = some receipt → hotspotReceiptViolations operation receipt = []) ∧
    (operation.lifecycle = .accepted ∨ operation.lifecycle = .dispatched →
      operation.confirmedAtMs ≠ none) ∧
    (operation.lifecycle = .dispatched → operation.invocation ≠ none) := by
  simp only [Valid, violations, List.append_eq_nil_iff, violationIf_nil, optional_nil, Framed, not_or,
    not_exists, not_and, not_not, ne_eq, Option.mem_def, Int.not_le]
  tauto

structure StoredHotspot (operation : WindowsHotspotOperation) : Prop where
  valid : Valid operation
  leased : ∃ lease, operation.lease = some lease
  unanswered : operation.lifecycle = .proposed ∨ operation.lifecycle = .accepted →
    operation.receipt = none
  frozen : operation.preview.preflight.ownership = .fleet ↔
    ∃ generation, operation.preview.preflight.ownershipGeneration = some generation

def ObservedSound (observed : Option WindowsHotspotObservedState) : Prop :=
  ∀ state, observed = some state →
    (state.ownership = .fleet ↔ ∃ generation, state.generation = some generation) ∧
      ∀ generation, state.generation = some generation → generation.isEmpty = false ∧ state.active = true

def Disowned (observed : Option WindowsHotspotObservedState) : Prop :=
  ∀ state, observed = some state → state.ownership ≠ .fleet ∧ state.generation = none

def ProvesStart (receipt : WindowsHotspotProviderReceipt) : Prop :=
  receipt.outcome = .verified ∧ (receipt.action = .start ∨ receipt.action = .ensure) ∧
    receipt.operationalState = "On"

theorem disowned_external (nowMs : Int) : Disowned (some
    { active := true, ownership := .external, generation := none, observedAtMs := nowMs }) := by
  intro state same
  cases same
  exact ⟨(fun owned => by cases owned), rfl⟩

theorem disowned_stopped (nowMs : Int) : Disowned (some
    { active := false, ownership := .none, generation := none, observedAtMs := nowMs }) := by
  intro state same
  cases same
  exact ⟨(fun owned => by cases owned), rfl⟩

theorem disowned_none : Disowned none := by
  intro state same
  cases same

theorem observedAfter_cases (prior : Option WindowsHotspotObservedState)
    (receipt : WindowsHotspotProviderReceipt) (nowMs : Int) :
    hotspotObservedAfter prior receipt nowMs = prior ∨
      Disowned (hotspotObservedAfter prior receipt nowMs) ∨
      (ProvesStart receipt ∧ hotspotObservedAfter prior receipt nowMs = some
        { active := true
          ownership := .fleet
          generation := receipt.ownershipGeneration
          observedAtMs := nowMs }) := by
  unfold hotspotObservedAfter
  simp only
  split
  · rename_i proves
    exact .inr (.inr ⟨by simpa only [ProvesStart, decide_eq_true_eq] using proves, rfl⟩)
  split
  · exact .inl rfl
  split
  · exact .inr (.inl (disowned_external nowMs))
  split
  · exact .inr (.inl (disowned_stopped nowMs))
  split
  · exact .inr (.inl (disowned_external nowMs))
  split
  · exact .inr (.inl (disowned_external nowMs))
  split
  · exact .inr (.inl (disowned_stopped nowMs))
  split
  · exact .inl rfl
  split
  · exact .inr (.inl (disowned_external nowMs))
  split
  · exact .inr (.inl disowned_none)
  · exact .inl rfl

theorem Settles.generation {receipt : WindowsHotspotProviderReceipt}
    {invocation : WindowsHotspotProviderRequest} (settles : Settles hub receipt operation invocation)
    (proves : ProvesStart receipt) :
    ∃ generation, receipt.ownershipGeneration = some generation ∧ generation.isEmpty = false := by
  have semantic := settles.agrees proves.1
  unfold hotspotSemanticMatch at semantic
  have named : receipt.ownershipGeneration.any (!·.isEmpty) = true := by
    rcases proves.2.1 with start | ensure
    · rw [start] at semantic
      simp only [Bool.and_eq_true] at semantic
      exact semantic.1.2
    · rw [ensure] at semantic
      simp only [Bool.and_eq_true] at semantic
      exact semantic.1.2
  cases carried : receipt.ownershipGeneration with
  | none =>
    rw [carried] at named
    cases named
  | some generation =>
    rw [carried] at named
    exact ⟨generation, rfl, by simpa using named⟩

theorem observedAfter_sound {receipt : WindowsHotspotProviderReceipt}
    {invocation : WindowsHotspotProviderRequest} (sound : ObservedSound hub.windowsHotspotObservation)
    (settles : Settles hub receipt operation invocation) (nowMs : Int) :
    ObservedSound (hotspotObservedAfter hub.windowsHotspotObservation receipt nowMs) := by
  rcases observedAfter_cases hub.windowsHotspotObservation receipt nowMs with same | ended | ⟨proves, started⟩
  · rw [same]
    exact sound
  · intro state observed
    obtain ⟨notFleet, none⟩ := ended state observed
    refine ⟨⟨fun owned => absurd owned notFleet, ?_⟩, ?_⟩
    · rintro ⟨generation, carried⟩
      cases none.symm.trans carried
    · intro generation carried
      cases none.symm.trans carried
  · obtain ⟨generation, carried, filled⟩ := settles.generation proves
    rw [started]
    intro state observed
    cases observed
    refine ⟨⟨fun _ => ⟨generation, carried⟩, fun _ => rfl⟩, fun named present => ?_⟩
    cases carried.symm.trans present
    exact ⟨filled, rfl⟩

/-- An edit of a hotspot operation keeps its name and its frozen preview. -/
def Keeps (prior next : WindowsHotspotOperation) : Prop :=
  next.operationId = prior.operationId ∧ next.preview = prior.preview

abbrev HotspotWrite (hub : FleetHub) (operationId : String) (next : WindowsHotspotOperation) : Prop :=
  Ledger.Write (·.operationId) maxWindowsHotspotOperations (·.preview.fleetRevision = hub.resultRevision) Keeps
    hub.windowsHotspotOperations operationId next

/-- The hotspot ledger and observation of every reachable Hub. -/
structure HotspotHub (hub : FleetHub) : Prop where
  ledger : Ledger.Sound (·.operationId) maxWindowsHotspotOperations
    (fun operation => StoredHotspot operation ∧ operation.preview.fleetRevision ≤ hub.resultRevision)
    hub.windowsHotspotOperations
  observed : ObservedSound hub.windowsHotspotObservation

theorem HotspotHub.stored (sound : HotspotHub hub) {operationId : String}
    (found : hub.windowsHotspotOperations[operationId]? = some operation) : StoredHotspot operation :=
  (sound.ledger.accepted operationId operation found).1

theorem proposed_unanswered (plan : WindowsHotspotPreviewPlan) (revision : Nat) (available : Bool)
    (observed : Option WindowsHotspotObservedState) (sound : ObservedSound observed)
    (valid : Valid (proposedHotspotOperation plan revision available observed)) :
    StoredHotspot (proposedHotspotOperation plan revision available observed) where
  valid := valid
  leased := ⟨_, rfl⟩
  unanswered := fun _ => rfl
  frozen := by
    simp only [proposedHotspotOperation]
    cases known : observed with
    | none => simp
    | some state => simpa using (sound state known).1

theorem confirmed_stored (nowMs : Int) (sound : StoredHotspot operation)
    (proposed : operation.lifecycle = .proposed) : StoredHotspot (operation.confirmed nowMs) where
  valid := by
    obtain ⟨frame, invoked, received, _, _⟩ := valid_iff.mp sound.valid
    exact valid_iff.mpr ⟨frame, invoked, received, fun _ => Option.some_ne_none nowMs, fun same => by cases same⟩
  leased := sound.leased
  unanswered := fun _ => sound.unanswered (.inl proposed)
  frozen := sound.frozen

theorem dispatched_stored {invocation : WindowsHotspotProviderRequest} (nowMs : Int)
    (sound : StoredHotspot operation) (accepted : operation.lifecycle = .accepted) (valid : Valid invocation)
    (bound : invocation.operationId = operation.operationId ∧
      invocation.action = operation.preview.action) :
    StoredHotspot (operation.dispatched invocation nowMs) where
  valid := by
    obtain ⟨frame, _, _, confirmed, _⟩ := valid_iff.mp sound.valid
    refine valid_iff.mpr ⟨frame, fun present same => ?_, fun receipt same => ?_,
      fun _ => confirmed (.inl accepted), fun _ => Option.some_ne_none invocation⟩
    · cases same
      simp only [hotspotInvocationViolations, List.append_eq_nil_iff, violationIf_nil]
      exact ⟨valid, not_or.mpr ⟨not_not.mpr bound.1, not_not.mpr bound.2⟩⟩
    · cases (sound.unanswered (.inr accepted)).symm.trans same
  leased := sound.leased
  unanswered := by rintro (same | same) <;> cases same
  frozen := sound.frozen

theorem ended_stored {lifecycle : CommandLifecycle} (ended : lifecycle = .expired ∨ lifecycle = .failed)
    (failureCode : Option String) (nowMs : Int) (sound : StoredHotspot operation) :
    StoredHotspot { operation with
      lifecycle := lifecycle
      failureCode := failureCode
      updatedAtMs := nowMs } where
  valid := by
    obtain ⟨frame, invoked, received, _, _⟩ := valid_iff.mp sound.valid
    refine valid_iff.mpr ⟨frame, invoked, received, ?_, ?_⟩
    · rintro (same | same) <;> rcases ended with rfl | rfl <;> cases same
    · intro same
      rcases ended with rfl | rfl <;> cases same
  leased := sound.leased
  unanswered := by rintro (same | same) <;> rcases ended with rfl | rfl <;> cases same
  frozen := sound.frozen

theorem received_lifecycle (operation : WindowsHotspotOperation) (receipt : WindowsHotspotProviderReceipt)
    (nowMs : Int) :
    (operation.received receipt nowMs).lifecycle = .applied ∨
      (operation.received receipt nowMs).lifecycle = .failed := by
  simp only [WindowsHotspotOperation.received]
  split
  · exact .inl rfl
  · exact .inr rfl

theorem received_stored {receipt : WindowsHotspotProviderReceipt}
    {invocation : WindowsHotspotProviderRequest} (nowMs : Int) (sound : StoredHotspot operation)
    (named : operation.operationId = receipt.operationId)
    (settles : Settles hub receipt operation invocation) :
    StoredHotspot (operation.received receipt nowMs) where
  valid := by
    obtain ⟨frame, invoked, _, _, _⟩ := valid_iff.mp sound.valid
    have own := invoked invocation settles.invoked
    simp only [hotspotInvocationViolations, List.append_eq_nil_iff, violationIf_nil, not_or, not_not, ne_eq]
      at own
    have bound : hotspotReceiptViolations (operation.received receipt nowMs) receipt = [] := by
      simp only [hotspotReceiptViolations, List.append_eq_nil_iff, violationIf_nil, not_or, not_not, ne_eq]
      refine ⟨settles.valid, named.symm, settles.bound.2.trans own.2.2, ?_⟩
      simp only [WindowsHotspotOperation.received, settles.invoked, Option.map_some, settles.bound.1]
    refine valid_iff.mpr ⟨frame, invoked, fun present same => ?_, ?_, ?_⟩
    · cases same
      exact bound
    · rcases received_lifecycle operation receipt nowMs with applied | failed
      · rw [applied]
        rintro (same | same) <;> cases same
      · rw [failed]
        rintro (same | same) <;> cases same
    · rcases received_lifecycle operation receipt nowMs with applied | failed
      · rw [applied]
        exact fun same => by cases same
      · rw [failed]
        exact fun same => by cases same
  leased := sound.leased
  unanswered := by
    rcases received_lifecycle operation receipt nowMs with ended | ended <;> rw [ended] <;>
      rintro (same | same) <;> cases same
  frozen := sound.frozen

theorem HotspotHub.write {operationId : String} (sound : HotspotHub hub)
    (write : HotspotWrite hub operationId next) (stored : StoredHotspot next) :
    HotspotHub (hub.storeHotspot operationId next) where
  ledger := by
    have stamped : next.preview.fleetRevision ≤ hub.resultRevision := by
      refine write.holds (fun operation => operation.preview.fleetRevision ≤ hub.resultRevision)
        (fun key operation found => (sound.ledger.accepted key operation found).2)
        (fun operation new => Nat.le_of_eq new) (fun prior later kept known => ?_)
      rw [kept.2]
      exact known
    exact sound.ledger.write (fun prior later kept => kept.1) write ⟨stored, stamped⟩
  observed := sound.observed

theorem HotspotChange.sound {after : FleetHub} (change : HotspotChange hub after) (sound : HotspotHub hub) :
    HotspotHub after := by
  cases change with
  | previewed plan operation created unused room valid =>
    subst created
    exact sound.write (.created room rfl rfl)
      (proposed_unanswered plan hub.resultRevision _ _ sound.observed valid)
  | dispatched operationId operation invocation nowMs stored accepted valid bound =>
    exact sound.write (.edited operation stored ⟨rfl, rfl⟩)
      (dispatched_stored nowMs (sound.stored stored) accepted valid bound)
  | expired operationId operation nowMs stored =>
    exact sound.write (.edited operation stored ⟨rfl, rfl⟩)
      (ended_stored (.inl rfl) (some "lease_expired") nowMs (sound.stored stored))
  | failed operationId operation failureCode nowMs stored =>
    exact sound.write (.edited operation stored ⟨rfl, rfl⟩)
      (ended_stored (.inr rfl) (some failureCode) nowMs (sound.stored stored))
  | received receipt operation nowMs checked =>
    obtain ⟨invocation, settles⟩ := (receiptChecks_ok receipt).mp checked
    have written : HotspotHub (hub.storeHotspot receipt.operationId (operation.received receipt nowMs)) :=
      sound.write (.edited operation settles.stored ⟨rfl, rfl⟩) (received_stored nowMs
        (sound.stored settles.stored)
        (sound.ledger.named receipt.operationId operation settles.stored) settles)
    exact ⟨written.ledger, observedAfter_sound sound.observed settles nowMs⟩

theorem Confirms.sound {operationId previewId : String} {nowMs : Int} (sound : HotspotHub hub)
    (confirms : Confirms hub operationId previewId nowMs operation) :
    HotspotHub (hub.storeHotspot operationId (operation.confirmed nowMs)) :=
  sound.write (.edited operation confirms.stored ⟨rfl, rfl⟩)
    (confirmed_stored nowMs (sound.stored confirms.stored) confirms.proposed)

theorem handleHotspot_sound (sound : HotspotHub hub) (call : HotspotCall) :
    HotspotHub (hub.handleHotspot call).2 := by
  rcases hotspot_changes hub call with changes | ⟨operationId, previewId, nowMs, operation, _, confirms, accepted⟩
  · exact changes.preserve HotspotHub (fun _ _ change => change.sound) sound
  · rw [accepted]
    exact confirms.sound sound

theorem hotspotHub_new (policy : AssertedPolicy) : HotspotHub (.new policy) where
  ledger := Ledger.sound_empty
  observed := fun state same => by cases same

theorem HotspotHub.of_same {other : FleetHub} (sound : HotspotHub hub)
    (same : other.windowsHotspotOperations = hub.windowsHotspotOperations)
    (observed : other.windowsHotspotObservation = hub.windowsHotspotObservation)
    (grown : hub.resultRevision ≤ other.resultRevision) : HotspotHub other where
  ledger := by
    rw [same]
    exact sound.ledger.mono fun operation admitted => ⟨admitted.1, Nat.le_trans admitted.2 grown⟩
  observed := by
    rw [observed]
    exact sound.observed

section Runs

variable [HubEnvironment]

theorem call_hotspot (revised : Revised hub) (sound : HotspotHub hub) (call : HubCall) :
    HotspotHub (hub.handle call).1 := by
  by_cases own : ∃ hotspot, call = .hotspot hotspot
  · obtain ⟨hotspot, rfl⟩ := own
    rw [FleetHub.handle_hotspot]
    exact handleHotspot_sound sound hotspot
  · have other : ∀ hotspot, call ≠ .hotspot hotspot := fun hotspot same => own ⟨hotspot, same⟩
    have leaves := hub.handle_leaves_others call
    exact sound.of_same (leaves.hotspot other) (leaves.hotspotObservation other)
      (handle_revision_le revised call)

theorem run_hotspot (policy : AssertedPolicy) (calls : List HubCall) :
    Revised (fleetHubMachine.run (.new policy) calls) ∧
      HotspotHub (fleetHubMachine.run (.new policy) calls) :=
  fleetHubMachine.run_invariant (fun _ _ => True) (fun hub => Revised hub ∧ HotspotHub hub)
    (fun _ call _ kept => ⟨call_revised kept.1 call, call_hotspot kept.1 kept.2 call⟩) (.new policy)
    calls (fleetHubMachine.admits_true _ _) ⟨revised_new policy, hotspotHub_new policy⟩

end Runs

end RustyFleet.HotspotSafety

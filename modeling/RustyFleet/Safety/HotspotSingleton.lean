import RustyFleet.Safety.HotspotLedger
import RustyFleet.Safety.PackageAtomicity

namespace RustyFleet.HotspotSafety

variable {hub after : FleetHub} {operation next : WindowsHotspotOperation}

def AtMostOneActive (hub : FleetHub) : Prop :=
  ∀ (left : String) first (right : String) second, hub.windowsHotspotOperations[left]? = some first →
    hub.windowsHotspotOperations[right]? = some second → first.isActive = true → second.isActive = true →
    left = right

/-- A confirmation that would be accepted although the lease of another active operation has run out. -/
def LateConfirmation (hub : FleetHub) (call : HubCall) : Prop :=
  ∃ (operationId previewId : String) (nowMs : Int) (operation : WindowsHotspotOperation),
    call = .hotspot (.confirm operationId previewId nowMs) ∧
    hub.windowsHotspotOperations[operationId]? = some operation ∧ operation.preview.previewId = previewId ∧
    operation.lifecycle = .proposed ∧ nowMs ≤ operation.preview.expiresAtMs ∧
    ∃ (otherId : String) (other : WindowsHotspotOperation),
      hub.windowsHotspotOperations[otherId]? = some other ∧ other.isActive = true ∧
        other.preview.expiresAtMs < nowMs

theorem restore_singleton_iff : hub.snapshot.activeHotspots ≤ 1 ↔ AtMostOneActive hub :=
  BTreeMap.countP_storedValues_le_one hub.windowsHotspotOperations (·.isActive)

theorem inactive_of_proposed (proposed : operation.lifecycle = .proposed) : operation.isActive = false := by
  rw [WindowsHotspotOperation.isActive, proposed]
  rfl

theorem AtMostOneActive.store {operationId : String} (single : AtMostOneActive hub)
    (held : next.isActive = true → ∃ prior, hub.windowsHotspotOperations[operationId]? = some prior ∧
      prior.isActive = true) :
    AtMostOneActive (hub.storeHotspot operationId next) := by
  have before : ∀ (key : String) operation,
      (hub.storeHotspot operationId next).windowsHotspotOperations[key]? = some operation →
      operation.isActive = true →
      ∃ prior, hub.windowsHotspotOperations[key]? = some prior ∧ prior.isActive = true := by
    intro key operation found active
    simp only [FleetHub.storeHotspot] at found
    by_cases own : key = operationId
    · subst own
      rw [BTreeMap.lookup_insert_self] at found
      cases found
      exact held active
    · rw [BTreeMap.lookup_insert_of_ne _ _ own] at found
      exact ⟨operation, found, active⟩
  intro left first right second foundLeft foundRight activeLeft activeRight
  obtain ⟨one, storedLeft, heldLeft⟩ := before left first foundLeft activeLeft
  obtain ⟨two, storedRight, heldRight⟩ := before right second foundRight activeRight
  exact single left one right two storedLeft storedRight heldLeft heldRight

theorem HotspotChange.single (change : HotspotChange hub after) (single : AtMostOneActive hub) :
    AtMostOneActive after := by
  cases change with
  | previewed plan operation created unused room valid =>
    refine single.store fun active => ?_
    subst created
    simp only [WindowsHotspotOperation.isActive, proposedHotspotOperation] at active
    split at active <;> cases active
  | dispatched operationId operation invocation nowMs stored accepted valid bound =>
    exact single.store fun _ =>
      ⟨operation, stored, by rw [WindowsHotspotOperation.isActive, accepted]; rfl⟩
  | expired operationId operation nowMs stored => exact single.store fun active => by cases active
  | failed operationId operation failureCode nowMs stored => exact single.store fun active => by cases active
  | received receipt operation nowMs checked =>
    refine single.store fun active => ?_
    rcases received_lifecycle operation receipt nowMs with ended | ended <;>
      · rw [WindowsHotspotOperation.isActive, ended] at active
        cases active

theorem blocking_lease (sound : HotspotHub hub) {otherId : String} {other : WindowsHotspotOperation}
    (stored : hub.windowsHotspotOperations[otherId]? = some other) (active : other.isActive = true)
    {nowMs : Int} (inTime : nowMs ≤ other.preview.expiresAtMs) :
    other.leasesResource nowMs = true := by
  obtain ⟨lease, leased⟩ := (sound.stored stored).leased
  obtain ⟨⟨_, _, _, _, bound⟩, _⟩ := valid_iff.mp (sound.stored stored).valid
  obtain ⟨_, _, _, _, _, _, ends⟩ := bound lease leased
  simp only [WindowsHotspotOperation.leasesResource, active, leased, Option.any_some, ends, Bool.true_and,
    ge_iff_le, decide_eq_true_eq]
  exact inTime

theorem unexpired_active (sound : HotspotHub hub) {otherId : String} {other : WindowsHotspotOperation}
    (stored : hub.windowsHotspotOperations[otherId]? = some other) {nowMs : Int}
    (leases : other.leasesResource nowMs = true) :
    other.isActive = true ∧ nowMs ≤ other.preview.expiresAtMs := by
  obtain ⟨lease, leased⟩ := (sound.stored stored).leased
  obtain ⟨⟨_, _, _, _, bound⟩, _⟩ := valid_iff.mp (sound.stored stored).valid
  obtain ⟨_, _, _, _, _, _, ends⟩ := bound lease leased
  simpa only [WindowsHotspotOperation.leasesResource, leased, Option.any_some, ends, Bool.and_eq_true,
    ge_iff_le, decide_eq_true_eq] using leases

theorem Confirms.others {operationId previewId : String} {nowMs : Int} (sound : HotspotHub hub)
    (confirms : Confirms hub operationId previewId nowMs operation) {otherId : String}
    {other : WindowsHotspotOperation} (stored : hub.windowsHotspotOperations[otherId]? = some other)
    (active : other.isActive = true) : otherId ≠ operationId ∧ other.preview.expiresAtMs < nowMs := by
  have apart : otherId ≠ operationId := by
    rintro rfl
    cases confirms.stored.symm.trans stored
    rw [inactive_of_proposed confirms.proposed] at active
    cases active
  refine ⟨apart, ?_⟩
  by_contra inTime
  have free := (BTreeMap.anyEntry_false_iff _ _).mp confirms.free otherId other stored
  have named : other.operationId = otherId := sound.ledger.named otherId other stored
  have foreign : (some operationId != some other.operationId) = true := by
    rw [named]
    simpa using Ne.symm apart
  rw [foreign, blocking_lease sound stored active (Int.not_lt.mp inTime)] at free
  cases free

theorem Confirms.single_iff {operationId previewId : String} {nowMs : Int}
    (confirms : Confirms hub operationId previewId nowMs operation) :
    AtMostOneActive (hub.storeHotspot operationId (operation.confirmed nowMs)) ↔
      ∀ (otherId : String) other, hub.windowsHotspotOperations[otherId]? = some other →
        other.isActive = false := by
  have own : (hub.storeHotspot operationId (operation.confirmed nowMs)).windowsHotspotOperations[operationId]? =
      some (operation.confirmed nowMs) := BTreeMap.lookup_insert_self _ _ _
  constructor
  · intro unique otherId other stored
    by_contra running
    have active : other.isActive = true := by simpa using running
    have apart : otherId ≠ operationId := by
      rintro rfl
      cases confirms.stored.symm.trans stored
      rw [inactive_of_proposed confirms.proposed] at active
      cases active
    have kept : (hub.storeHotspot operationId (operation.confirmed nowMs)).windowsHotspotOperations[otherId]? =
        some other := (BTreeMap.lookup_insert_of_ne _ _ apart).trans stored
    exact apart (unique otherId other operationId _ kept own active rfl)
  · intro idle
    have holder : ∀ (key : String) held,
        (hub.storeHotspot operationId (operation.confirmed nowMs)).windowsHotspotOperations[key]? = some held →
        held.isActive = true → key = operationId := by
      intro key held found active
      by_contra apart
      have kept := (BTreeMap.lookup_insert_of_ne _ _ apart).symm.trans found
      rw [idle key held kept] at active
      cases active
    intro left first right second foundLeft foundRight activeLeft activeRight
    exact (holder left first foundLeft activeLeft).trans (holder right second foundRight activeRight).symm

theorem late_confirms (sound : HotspotHub hub) (single : AtMostOneActive hub) {operationId previewId : String}
    {nowMs : Int} (late : LateConfirmation hub (.hotspot (.confirm operationId previewId nowMs))) :
    ∃ operation, Confirms hub operationId previewId nowMs operation ∧
      ∃ (otherId : String) (other : WindowsHotspotOperation),
        hub.windowsHotspotOperations[otherId]? = some other ∧ other.isActive = true := by
  obtain ⟨_, _, _, operation, same, stored, previewed, proposed, inTime, otherId, other, kept, active,
    ended⟩ := late
  cases same
  refine ⟨operation, ⟨stored, previewed, proposed, inTime, ?_⟩, otherId, other, kept, active⟩
  refine (BTreeMap.anyEntry_false_iff _ _).mpr fun key holder found => ?_
  by_contra leased
  have leases : holder.leasesResource nowMs = true :=
    (Bool.and_eq_true_iff.mp (Bool.not_eq_false _ ▸ leased)).2
  obtain ⟨running, unexpired⟩ := unexpired_active sound found leases
  have same := single key holder otherId other found kept running active
  subst same
  cases found.symm.trans kept
  omega

theorem handleHotspot_single_iff (sound : HotspotHub hub) (single : AtMostOneActive hub)
    (call : HotspotCall) :
    AtMostOneActive (hub.handleHotspot call).2 ↔ ¬ LateConfirmation hub (.hotspot call) := by
  constructor
  · intro kept late
    have confirmation := late
    obtain ⟨operationId, previewId, nowMs, _, same, _⟩ := confirmation
    cases same
    obtain ⟨operation, confirms, otherId, other, stored, active⟩ := late_confirms sound single late
    simp only [FleetHub.handleHotspot, Prod.map_snd, id, confirms.accepts] at kept
    have idle := confirms.single_iff.mp kept otherId other stored
    rw [active] at idle
    cases idle
  · intro timely
    rcases hotspot_changes hub call with changes |
      ⟨operationId, previewId, nowMs, operation, rfl, confirms, accepted⟩
    · exact changes.preserve AtMostOneActive (fun _ _ change => change.single) single
    · rw [accepted]
      refine confirms.single_iff.mpr fun otherId other stored => ?_
      by_contra running
      have active : other.isActive = true := by simpa using running
      exact timely ⟨operationId, previewId, nowMs, operation, rfl, confirms.stored, confirms.previewed,
        confirms.proposed, confirms.inTime, otherId, other, stored, active,
        (confirms.others sound stored active).2⟩

section Runs

variable [HubEnvironment]

theorem call_single_iff (sound : HotspotHub hub) (single : AtMostOneActive hub) (call : HubCall) :
    AtMostOneActive (hub.handle call).1 ↔ ¬ LateConfirmation hub call := by
  by_cases own : ∃ hotspot, call = .hotspot hotspot
  · obtain ⟨hotspot, rfl⟩ := own
    rw [FleetHub.handle_hotspot]
    exact handleHotspot_single_iff sound single hotspot
  · have same := (hub.handle_leaves_others call).hotspot fun hotspot same => own ⟨hotspot, same⟩
    have timely : ¬ LateConfirmation hub call := by
      rintro ⟨operationId, previewId, nowMs, _, same, _⟩
      exact own ⟨_, same⟩
    simp only [AtMostOneActive, same]
    exact iff_of_true single timely

theorem run_single (policy : AssertedPolicy) (calls : List HubCall)
    (timely : fleetHubMachine.Admits (fun hub call => ¬ LateConfirmation hub call) (.new policy) calls) :
    AtMostOneActive (fleetHubMachine.run (.new policy) calls) := by
  refine (fleetHubMachine.run_invariant (fun hub call => ¬ LateConfirmation hub call)
    (fun hub => Revised hub ∧ HotspotHub hub ∧ AtMostOneActive hub) ?_ (.new policy) calls timely
    ⟨revised_new policy, hotspotHub_new policy, ?_⟩).2.2
  · rintro hub call permitted ⟨revised, sound, single⟩
    exact ⟨call_revised revised call, call_hotspot revised sound call,
      (call_single_iff sound single call).mpr permitted⟩
  · intro left first right second found
    simp [FleetHub.new] at found

/-- In runs without late confirmations the host resource has one holder at most, and only one of those ends it. -/
theorem hotspot_singleton_exact (policy : AssertedPolicy) (calls : List HubCall)
    (timely : fleetHubMachine.Admits (fun hub call => ¬ LateConfirmation hub call) (.new policy) calls) :
    let hub := fleetHubMachine.run (.new policy) calls
    hub.snapshot.activeHotspots ≤ 1 ∧
      ∀ call, (fleetHubMachine.next hub call).snapshot.activeHotspots ≤ 1 ↔ ¬ LateConfirmation hub call := by
  intro hub
  have single : AtMostOneActive hub := run_single policy calls timely
  refine ⟨restore_singleton_iff.mpr single, fun call => ?_⟩
  rw [restore_singleton_iff]
  exact call_single_iff (run_hotspot policy calls).2 single call

end Runs

section Samples

open PackageSafety

def sampleHotspotPlan (suffix : String) (action : WindowsHotspotAction) (createdAtMs expiresAtMs : Int) :
    WindowsHotspotPreviewPlan where
  operationId := "operation." ++ suffix
  previewId := "preview." ++ suffix
  leaseId := "lease." ++ suffix
  generation := "generation." ++ suffix
  request :=
    { schema := windowsHotspotPreviewRequestSchema
      actionId := windowsHotspotActionId
      action := action }
  createdAtMs := createdAtMs
  expiresAtMs := expiresAtMs
  providerReady := true

def overlappingPreviews : List HubCall :=
  [.hotspot (.preview (sampleHotspotPlan "one" .status 1000 2000)),
    .hotspot (.preview (sampleHotspotPlan "two" .status 1000 9000))]

theorem overlapping_previews_single :
    let hub := (@fleetHubMachine sampleEnvironment).run (.new samplePolicy) overlappingPreviews
    hub.snapshot.activeHotspots ≤ 1 ∧ ∀ call,
      ((@fleetHubMachine sampleEnvironment).next hub call).snapshot.activeHotspots ≤ 1 ↔
        ¬ LateConfirmation hub call := by
  refine @hotspot_singleton_exact sampleEnvironment samplePolicy overlappingPreviews ⟨?_, ?_, trivial⟩
  · rintro ⟨_, _, _, _, same, _⟩
    cases same
  · rintro ⟨_, _, _, _, same, _⟩
    cases same

/-- The second preview is confirmed once the first one's lease has run out: both operations are accepted. -/
theorem expired_lease_not_exclusive :
    ∃ (_ : HubEnvironment) (policy : AssertedPolicy) (calls : List HubCall),
      (fleetHubMachine.run (.new policy) calls).snapshot.activeHotspots = 2 :=
  ⟨sampleEnvironment, samplePolicy, overlappingPreviews ++
    [.hotspot (.confirm "operation.one" "preview.one" 1001),
      .hotspot (.confirm "operation.two" "preview.two" 3000)], by decide⟩

end Samples

end RustyFleet.HotspotSafety

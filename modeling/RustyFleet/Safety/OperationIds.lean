import RustyFleet.Safety.OwnerDiscipline

namespace RustyFleet.OperationIds

structure NamesOnePreview {Operation : Type} (hub : FleetHub) (planChecked samePlan : Prop) (conflict : String)
    (stored : Operation) (outcome : HubResult Operation × FleetHub) : Prop where
  unchanged : outcome.2 = hub
  returned : ∀ operation, outcome.1 = .ok operation → operation = stored ∧ samePlan
  refused : ∀ fault, outcome.1 = .error fault →
    (∃ message, fault = .hubError ⟨conflict, message⟩) ∨ ¬ planChecked ∧ ∃ error, fault = .hubError error

section Replays

variable {Operation : Type} {hub : FleetHub} {check : HubResult Unit} {matched samePlan : Prop} [Decidable matched]
  {conflict text : String} {stored : Operation}

def replayEdit (check : HubResult Unit) (matched : Prop) [Decidable matched] (conflict text : String)
    (stored : Operation) : HubResult (LedgerEdit Operation) := do
  check
  rejectIf (¬ matched) conflict text
  return .unchanged stored

theorem replayEdit_cases (onlyRefuses : OnlyRefuses check) :
    replayEdit check matched conflict text stored = .ok (.unchanged stored) ∧ check = .ok () ∧ matched ∨
      replayEdit check matched conflict text stored = refuse conflict text ∧ check = .ok () ∧ ¬ matched ∨
        ∃ error, replayEdit check matched conflict text stored = .error (.hubError error) ∧ check ≠ .ok () := by
  rcases checked : check with fault | ⟨⟩
  · refine .inr (.inr ?_)
    rcases fault with error | panicText
    · exact ⟨error, rfl, nofun⟩
    · exact absurd checked (onlyRefuses panicText)
  · by_cases same : matched
    · refine .inl ⟨?_, rfl, same⟩
      simp only [replayEdit, rejectIf, errorIf, if_neg (not_not.mpr same)]
      rfl
    · refine .inr (.inl ⟨?_, rfl, same⟩)
      simp only [replayEdit, rejectIf, errorIf, if_pos same]
      rfl

structure SettlesReplay (hub : FleetHub)
    (settle : HubResult (LedgerEdit Operation) → HubResult Operation × FleetHub) : Prop where
  error : ∀ fault, settle (.error fault) = (.error fault, hub)
  unchanged : ∀ operation, settle (.ok (.unchanged operation)) = (.ok operation, hub)

theorem replay_names_iff {settle : HubResult (LedgerEdit Operation) → HubResult Operation × FleetHub}
    (settles : SettlesReplay hub settle) (onlyRefuses : OnlyRefuses check) :
    NamesOnePreview hub (check = .ok ()) samePlan conflict stored
        (settle (replayEdit check matched conflict text stored)) ↔
      (check = .ok () → matched → samePlan) := by
  have cases := @replayEdit_cases _ check matched _ conflict text stored onlyRefuses
  constructor
  · intro names checked same
    rcases cases with ⟨edit, _⟩ | ⟨_, _, differs⟩ | ⟨_, _, unchecked⟩
    · rw [edit, settles.unchanged] at names
      exact (names.returned stored rfl).2
    · exact absurd same differs
    · exact absurd checked unchecked
  · intro implied
    rcases cases with ⟨edit, checked, same⟩ | ⟨edit, checked, _⟩ | ⟨error, edit, unchecked⟩
    · rw [edit, settles.unchanged]
      refine ⟨rfl, ?_, by rintro fault ⟨⟩⟩
      rintro operation ⟨⟩
      exact ⟨rfl, implied checked same⟩
    · rw [edit, refuse, settles.error]
      refine ⟨rfl, by rintro operation ⟨⟩, ?_⟩
      rintro fault ⟨⟩
      exact .inl ⟨text, rfl⟩
    · rw [edit, settles.error]
      refine ⟨rfl, by rintro operation ⟨⟩, ?_⟩
      rintro fault ⟨⟩
      exact .inr ⟨unchecked, error, rfl⟩

end Replays

def frozenTargets (targets : List TargetPreflight) : BTreeMap String Nat :=
  .ofList (targets.map fun target => (target.deviceId, target.identityRevision)) compare

def SameKioskPreview (plan : KioskShowControlsPreviewPlan) (stored : KioskShowControlsOperation) : Prop :=
  stored.preview.previewId = plan.previewId ∧ stored.actionId = plan.request.actionId ∧
    frozenTargets stored.preview.targets = plan.request.targets

def SamePackagePreview (plan : PackageInstallReleasePreviewPlan) (stored : PackageInstallReleaseOperation) :
    Prop :=
  stored.preview.previewId = plan.previewId ∧ stored.preview.release = plan.request.release ∧
    stored.preview.expectedPackageName = plan.request.expectedPackageName ∧
    stored.preview.expectedRolloutRing = plan.request.expectedRolloutRing ∧
    frozenTargets stored.preview.targets = plan.request.targets

def SameHotspotPreview (plan : WindowsHotspotPreviewPlan) (stored : WindowsHotspotOperation) : Prop :=
  stored.preview.previewId = plan.previewId ∧ stored.preview.action = plan.request.action

variable {hub : FleetHub}

theorem kiosk_names_one_preview {plan : KioskShowControlsPreviewPlan} {stored : KioskShowControlsOperation}
    (known : hub.kioskOperations[plan.operationId]? = some stored) :
    NamesOnePreview hub (plan.validatePreviewPlan = .ok ()) (SameKioskPreview plan stored)
      "kiosk_operation_id_conflict" stored (hub.previewKioskShowControls plan) := by
  have settles : SettlesReplay hub (hub.settleKiosk plan.operationId) := ⟨fun _ => rfl, fun _ => rfl⟩
  have refuses : OnlyRefuses plan.validatePreviewPlan :=
    onlyRefuses_bind (onlyRefuses_rejectIf _ _ _) fun _ =>
      onlyRefuses_bind (onlyRefuses_rejectIf _ _ _) fun _ =>
        onlyRefuses_bind (onlyRefuses_rejectIf _ _ _) fun _ =>
          onlyRefuses_bind (onlyRefuses_rejectIf _ _ _) fun _ => onlyRefuses_rejectIf _ _ _
  have edit : hub.kioskPreviewEdit plan = replayEdit plan.validatePreviewPlan (plan.matchesOperation stored)
      "kiosk_operation_id_conflict" "operation ID already names a different immutable preview" stored := by
    simp only [FleetHub.kioskPreviewEdit, known, replayEdit]
  rw [FleetHub.previewKioskShowControls, edit, replay_names_iff settles refuses]
  rintro _ ⟨_, previewed, _, _, _, _, acted, targeted⟩
  exact ⟨previewed.symm, acted.symm, targeted.symm⟩

def storedPackageOperation (hub : FleetHub) (operationId : String) : Option PackageInstallReleaseOperation :=
  match hub.packageOperations[operationId]? with
  | some operation => some operation
  | none => hub.packageOperationArchives[operationId]?.map (·.operation)

theorem package_names_one_preview {plan : PackageInstallReleasePreviewPlan}
    {stored : PackageInstallReleaseOperation}
    (known : storedPackageOperation hub plan.operationId = some stored) :
    NamesOnePreview hub (plan.validatePackagePreviewPlan = .ok ()) (SamePackagePreview plan stored)
      "package_operation_id_conflict" stored (hub.previewPackageInstallRelease plan) := by
  have settles : SettlesReplay hub (hub.settlePackage plan.operationId) := ⟨fun _ => rfl, fun _ => rfl⟩
  have refuses : OnlyRefuses plan.validatePackagePreviewPlan := onlyRefuses_rejectIf _ _ _
  have edit : ∃ text, hub.packagePreviewEdit plan = replayEdit plan.validatePackagePreviewPlan
      (plan.matchesOperation stored) "package_operation_id_conflict" text stored := by
    unfold storedPackageOperation at known
    cases active : hub.packageOperations[plan.operationId]? with
    | some operation =>
      rw [active] at known
      obtain rfl := Option.some.inj known
      refine ⟨"operation ID already names a different immutable package preview", ?_⟩
      simp only [FleetHub.packagePreviewEdit, active, replayEdit]
    | none =>
      rw [active] at known
      obtain ⟨archive, archived, rfl⟩ := Option.map_eq_some_iff.mp known
      refine ⟨"operation ID already names a different archived package operation", ?_⟩
      simp only [FleetHub.packagePreviewEdit, active, archived, replayEdit]
  obtain ⟨text, edit⟩ := edit
  rw [FleetHub.previewPackageInstallRelease, edit, replay_names_iff settles refuses]
  rintro _ ⟨_, previewed, _, _, _, released, named, ringed, targeted⟩
  exact ⟨previewed.symm, released.symm, named.symm, ringed.symm, targeted.symm⟩

def hotspotPlanCheck (plan : WindowsHotspotPreviewPlan) : HubResult Unit :=
  rejectIf (¬ Valid plan.request ∨ plan.operationId.isEmpty ∨ plan.previewId.isEmpty ∨
      plan.leaseId.isEmpty ∨ plan.generation.isEmpty ∨ plan.createdAtMs < 0 ∨
      plan.expiresAtMs ≤ plan.createdAtMs ∨
      plan.expiresAtMs - plan.createdAtMs > windowsHotspotPreviewMaxLifetimeMs)
    "windows_hotspot_preview_plan_invalid"
    "Windows hotspot preview plan is invalid or exceeds five minutes"

theorem hotspot_names_one_preview {plan : WindowsHotspotPreviewPlan} {stored : WindowsHotspotOperation}
    (known : hub.windowsHotspotOperations[plan.operationId]? = some stored) :
    NamesOnePreview hub (hotspotPlanCheck plan = .ok ()) (SameHotspotPreview plan stored)
      "windows_hotspot_operation_id_conflict" stored (hub.previewWindowsHotspot plan) := by
  have settles : SettlesReplay hub (hub.settleHotspot plan.operationId) := ⟨fun _ => rfl, fun _ => rfl⟩
  have refuses : OnlyRefuses (hotspotPlanCheck plan) := onlyRefuses_rejectIf _ _ _
  have edit : hub.hotspotPreviewEdit plan = replayEdit (hotspotPlanCheck plan)
      (stored.preview.previewId = plan.previewId ∧ stored.preview.action = plan.request.action)
      "windows_hotspot_operation_id_conflict" "operation ID names a different immutable hotspot preview"
      stored := by
    simp only [FleetHub.hotspotPreviewEdit, known, replayEdit, hotspotPlanCheck, not_and_or, ne_eq]
  rw [FleetHub.previewWindowsHotspot, edit, replay_names_iff settles refuses]
  exact fun _ same => same

section Owners

variable {Action Policy Generation Binding Receipt Evidence : Type}
  [DecidableEq Action] [DecidableEq Policy] [DecidableEq Binding] [ValidateContract Receipt]
  (owner : OwnerHub Action Policy Generation Binding Receipt Evidence)

def ownerPlanCheck (plan : OwnerPreviewPlan Action Policy Generation) : HubResult Unit :=
  rejectIf (owner.family.requestViolations plan.request ≠ [] ∨ plan.createdAtMs < 0 ∨
      plan.expiresAtMs ≤ plan.createdAtMs ∨
      plan.expiresAtMs - plan.createdAtMs > ownerPreviewMaxLifetimeMs ∨
      plan.operationId.isEmpty ∨ plan.previewId.isEmpty ∨
      ¬ owner.generationPresent plan.watchdogGeneration)
    (owner.code "preview_plan_invalid")
    (owner.family.noun ++ " preview plan is invalid or exceeds its bounded lifetime")

def RepeatsOwnerPreview (plan : OwnerPreviewPlan Action Policy Generation) (stored : owner.Operation) : Prop :=
  stored.preview.previewId = plan.previewId ∧ stored.preview.action = plan.request.action ∧
    stored.preview.policy = plan.request.policy

def SameOwnerPreview (plan : OwnerPreviewPlan Action Policy Generation) (stored : owner.Operation) : Prop :=
  RepeatsOwnerPreview owner plan stored ∧ frozenTargets stored.preview.targets = plan.request.targets

instance (plan : OwnerPreviewPlan Action Policy Generation) (stored : owner.Operation) :
    Decidable (RepeatsOwnerPreview owner plan stored) :=
  inferInstanceAs (Decidable (_ ∧ _))

def RepeatsTargets (plan : OwnerPreviewPlan Action Policy Generation) (stored : owner.Operation) : Prop :=
  ownerPlanCheck owner plan = .ok () → RepeatsOwnerPreview owner plan stored →
    frozenTargets stored.preview.targets = plan.request.targets

variable {owner} {operations : owner.Stored} {plan : OwnerPreviewPlan Action Policy Generation}
  {stored : owner.Operation}

theorem owner_names_one_preview_iff (known : operations[plan.operationId]? = some stored)
    {settle : HubResult (LedgerEdit owner.Operation) → HubResult owner.Operation × FleetHub}
    (settles : SettlesReplay hub settle) :
    NamesOnePreview hub (ownerPlanCheck owner plan = .ok ()) (SameOwnerPreview owner plan stored)
        (owner.code "operation_id_conflict") stored (settle (owner.previewEdit hub operations plan)) ↔
      RepeatsTargets owner plan stored := by
  have refuses : OnlyRefuses (ownerPlanCheck owner plan) := onlyRefuses_rejectIf _ _ _
  have edit : owner.previewEdit hub operations plan = replayEdit (ownerPlanCheck owner plan)
      (RepeatsOwnerPreview owner plan stored) (owner.code "operation_id_conflict") owner.conflictMessage
      stored := by
    simp only [OwnerHub.previewEdit, known, replayEdit, ownerPlanCheck, RepeatsOwnerPreview, not_and_or, ne_eq]
  rw [edit, replay_names_iff settles refuses]
  constructor
  · intro implied checked same
    exact (implied checked same).2
  · intro repeats checked same
    exact ⟨same, repeats checked same⟩

end Owners

section Runs

variable [HubEnvironment]

/-- What a preview call does once its operation id is stored. -/
def PreviewNamesOne (hub : FleetHub) : HubCall → Prop
  | .kiosk (.preview plan) => ∀ stored, hub.kioskOperations[plan.operationId]? = some stored →
    NamesOnePreview hub (plan.validatePreviewPlan = .ok ()) (SameKioskPreview plan stored)
      "kiosk_operation_id_conflict" stored (hub.handleKiosk (.preview plan))
  | .package (.preview plan) => ∀ stored, storedPackageOperation hub plan.operationId = some stored →
    NamesOnePreview hub (plan.validatePackagePreviewPlan = .ok ()) (SamePackagePreview plan stored)
      "package_operation_id_conflict" stored (hub.previewPackageInstallRelease plan)
  | .awake (.preview plan) => ∀ stored, hub.awakeOperations[plan.operationId]? = some stored →
    NamesOnePreview hub (ownerPlanCheck questAwakeHub plan = .ok ()) (SameOwnerPreview questAwakeHub plan stored)
      "awake_operation_id_conflict" stored (hub.handleAwake (.preview plan))
  | .wifiAdb (.preview plan) => ∀ stored, hub.wifiAdbOperations[plan.operationId]? = some stored →
    NamesOnePreview hub (ownerPlanCheck questWifiAdbHub plan = .ok ())
      (SameOwnerPreview questWifiAdbHub plan stored)
      "wifi_adb_operation_id_conflict" stored (hub.handleWifiAdb (.preview plan))
  | .hotspot (.preview plan) => ∀ stored, hub.windowsHotspotOperations[plan.operationId]? = some stored →
    NamesOnePreview hub (hotspotPlanCheck plan = .ok ()) (SameHotspotPreview plan stored)
      "windows_hotspot_operation_id_conflict" stored (hub.previewWindowsHotspot plan)
  | _ => True

/-- A replayed awake or Wi-Fi ADB preview names the headsets that were frozen; the others need not. -/
def RepeatsFrozenTargets (hub : FleetHub) : HubCall → Prop
  | .awake (.preview plan) => ∀ stored, hub.awakeOperations[plan.operationId]? = some stored →
    RepeatsTargets questAwakeHub plan stored
  | .wifiAdb (.preview plan) => ∀ stored, hub.wifiAdbOperations[plan.operationId]? = some stored →
    RepeatsTargets questWifiAdbHub plan stored
  | _ => True

theorem preview_names_one_iff (hub : FleetHub) (call : HubCall) :
    PreviewNamesOne hub call ↔ RepeatsFrozenTargets hub call := by
  have awakeCode : "awake" ++ "_" ++ "operation_id_conflict" = "awake_operation_id_conflict" := by
    decide
  have wifiCode : "wifi_adb" ++ "_" ++ "operation_id_conflict" = "wifi_adb_operation_id_conflict" := by
    decide
  cases call with
  | kiosk kioskCall =>
    cases kioskCall with
    | preview plan => exact ⟨fun _ => trivial, fun _ stored known => kiosk_names_one_preview known⟩
    | _ => exact Iff.rfl
  | package packageCall =>
    cases packageCall with
    | preview plan => exact ⟨fun _ => trivial, fun _ stored known => package_names_one_preview known⟩
    | _ => exact Iff.rfl
  | hotspot hotspotCall =>
    cases hotspotCall with
    | preview plan => exact ⟨fun _ => trivial, fun _ stored known => hotspot_names_one_preview known⟩
    | _ => exact Iff.rfl
  | awake awakeCall =>
    cases awakeCall with
    | preview plan =>
      refine forall_congr' fun stored => imp_congr_right fun known => ?_
      have settles : SettlesReplay hub (hub.settleAwake plan.operationId) := ⟨fun _ => rfl, fun _ => rfl⟩
      rw [← awakeCode]
      exact owner_names_one_preview_iff known settles
    | _ => exact Iff.rfl
  | wifiAdb wifiCall =>
    cases wifiCall with
    | preview plan =>
      refine forall_congr' fun stored => imp_congr_right fun known => ?_
      have settles : SettlesReplay hub (hub.settleWifiAdb plan.operationId) := ⟨fun _ => rfl, fun _ => rfl⟩
      rw [← wifiCode]
      exact owner_names_one_preview_iff known settles
    | _ => exact Iff.rfl
  | _ => exact Iff.rfl

/-- After any run a further preview of a stored operation id names the one preview stored under it exactly when
it repeats the frozen headsets wherever the ledger does not compare them. -/
theorem operation_ids_name_one_preview (policy : AssertedPolicy) (calls : List HubCall) (call : HubCall) :
    PreviewNamesOne (fleetHubMachine.run (.new policy) calls) call ↔
      RepeatsFrozenTargets (fleetHubMachine.run (.new policy) calls) call :=
  preview_names_one_iff _ call

end Runs

section Samples

open PackageSafety OwnerSafety

def widenedPlan : QuestAwakePreviewPlan :=
  { awakePlan "op-1" .applyBounded with
    request :=
      { (awakePlan "op-1" .applyBounded).request with targets := .ofList [("d1", 1), ("d2", 1)] compare } }

/-- The Hub answers a preview of two headsets with the stored preview of one. -/
theorem widened_preview_accepted :
    ∃ (_ : HubEnvironment) (policy : AssertedPolicy) (calls : List HubCall) (call : HubCall),
      ¬ PreviewNamesOne (fleetHubMachine.run (.new policy) calls) call := by
  refine ⟨sampleEnvironment, samplePolicy, awakePreviewed, .awake (.preview widenedPlan), ?_⟩
  change ¬ @PreviewNamesOne sampleEnvironment (sampleHubMachine.run (.new samplePolicy) awakePreviewed)
    (.awake (.preview widenedPlan))
  have repeated : (sampleHubMachine.run (.new samplePolicy) awakePreviewed).awakeOperations["op-1"]?.any
      (fun stored => decide (ownerPlanCheck questAwakeHub widenedPlan = .ok ()) &&
        decide (RepeatsOwnerPreview questAwakeHub widenedPlan stored) &&
        decide ((frozenTargets stored.preview.targets).size ≠ widenedPlan.request.targets.size)) = true := by
    decide
  obtain ⟨stored, known, facts⟩ := (Option.any_eq_true _ _).mp repeated
  simp only [Bool.and_eq_true, decide_eq_true_eq] at facts
  obtain ⟨⟨checked, same⟩, differs⟩ := facts
  intro names
  have targets := (@preview_names_one_iff sampleEnvironment _ _).mp names stored known checked same
  exact differs (congrArg Std.ExtTreeMap.size targets)

end Samples

end RustyFleet.OperationIds

import RustyFleet.Hub.Calls

namespace RustyFleet

namespace FleetHub

variable (hub : FleetHub)

theorem observation_frame [ObservationCodec] (observation : DeviceObservation) (nowMs : Int) :
    ∃ devices resultRevision eventSequence events,
      (hub.acceptObservation observation nowMs).2 =
        { hub with
          devices := devices
          resultRevision := resultRevision
          eventSequence := eventSequence
          events := events } := by
  unfold acceptObservation
  cases validate observation with
  | error failures => exact ⟨_, _, _, _, rfl⟩
  | ok done =>
    simp only
    split
    · exact ⟨_, _, _, _, rfl⟩
    · unfold admitObservation
      simp only
      split
      · exact ⟨_, _, _, _, rfl⟩
      · exact ⟨_, _, _, _, rfl⟩

theorem savedView_frame (call : SavedViewCall) :
    ∃ revision views,
      (hub.handleSavedView call).2 = { hub with savedViewRevision := revision, savedViews := views } := by
  cases call with
  | upsert request =>
    simp only [handleSavedView, upsertSavedView]
    split <;> exact ⟨_, _, rfl⟩
  | delete viewId expectedRevision =>
    simp only [handleSavedView, deleteSavedView]
    split <;> exact ⟨_, _, rfl⟩

theorem settleKiosk_frame (operationId : String) (edit : HubResult (LedgerEdit KioskShowControlsOperation)) :
    ∃ operations, (hub.settleKiosk operationId edit).2 = { hub with kioskOperations := operations } := by
  unfold settleKiosk
  split
  · exact ⟨_, rfl⟩
  · exact ⟨_, rfl⟩
  · split <;> exact ⟨_, rfl⟩

/-- Every Kiosk call settles one edit, or is refused before it reads the ledger. -/
theorem kiosk_settles (call : KioskCall) :
    (∃ operationId edit, hub.handleKiosk call = hub.settleKiosk operationId edit) ∨
      ∃ code message, hub.handleKiosk call = (refuse code message, hub) := by
  cases call with
  | confirmRequest request nowMs =>
    by_cases valid : Valid request
    · exact .inl ⟨request.operationId, _, by
        simp only [handleKiosk, confirmKioskShowControlsRequest, if_pos valid]; rfl⟩
    · exact .inr ⟨_, _, by
        simp only [handleKiosk, confirmKioskShowControlsRequest, if_neg valid]; rfl⟩
  | _ =>
    simp only [handleKiosk, previewKioskShowControls, confirmKioskShowControls,
      dispatchKioskShowControls, markKioskShowControlsRunning, transitionInflight,
      applyKioskShowControlsReceipt, failKioskShowControls, expireKioskShowControls,
      finishOwnerAttempt, requestKioskShowControlsCancellation,
      completeKioskShowControlsCancellation]
    exact .inl ⟨_, _, rfl⟩

theorem kiosk_frame (call : KioskCall) :
    ∃ operations, (hub.handleKiosk call).2 = { hub with kioskOperations := operations } := by
  rcases hub.kiosk_settles call with ⟨operationId, edit, settles⟩ | ⟨code, message, refused⟩
  · rw [settles]
    exact hub.settleKiosk_frame operationId edit
  · rw [refused]
    exact ⟨hub.kioskOperations, rfl⟩

theorem settlePackage_frame (operationId : String)
    (edit : HubResult (LedgerEdit PackageInstallReleaseOperation)) :
    ∃ operations,
      (hub.settlePackage operationId edit).2 = { hub with packageOperations := operations } := by
  unfold settlePackage
  split <;> exact ⟨_, rfl⟩

theorem package_frame [OperationDigest] (call : PackageCall) :
    ∃ operations archives,
      (hub.handlePackage call).2 =
        { hub with packageOperations := operations, packageOperationArchives := archives } := by
  cases call with
  | expire nowMs => exact ⟨_, hub.packageOperationArchives, rfl⟩
  | archive request nowMs =>
    simp only [handlePackage, archivePackageOperation, Prod.map_snd, id]
    split <;> exact ⟨_, _, rfl⟩
  | _ =>
    simp only [handlePackage, previewPackageInstallRelease, confirmPackageInstallRelease,
      preparePackageInstallReleaseInvocation, offerPackageUpdaterClaim,
      admitAuthenticatedPackageUpdaterAcknowledgement, admitAuthenticatedPackageUpdaterReceipt,
      admitAuthenticatedPackageUpdaterProgress, Prod.map_snd, id]
    obtain ⟨operations, frame⟩ := hub.settlePackage_frame _ _
    exact ⟨operations, hub.packageOperationArchives, frame⟩

theorem awake_frame (call : AwakeCall) :
    ∃ operations, (hub.handleAwake call).2 = { hub with awakeOperations := operations } := by
  cases call <;> exact ⟨_, rfl⟩

theorem wifiAdb_frame [Sha256Hex] (call : WifiAdbCall) :
    ∃ operations, (hub.handleWifiAdb call).2 = { hub with wifiAdbOperations := operations } := by
  cases call <;> exact ⟨_, rfl⟩

theorem settleHotspot_frame (operationId : String)
    (edit : HubResult (LedgerEdit WindowsHotspotOperation)) :
    ∃ operations,
      (hub.settleHotspot operationId edit).2 = { hub with windowsHotspotOperations := operations } := by
  unfold settleHotspot
  split <;> exact ⟨_, rfl⟩

theorem expireHotspot_frame (operationId : String) (nowMs : Int) :
    ∃ operations,
      hub.expireWindowsHotspotOperation operationId nowMs =
        { hub with windowsHotspotOperations := operations } := by
  unfold expireWindowsHotspotOperation
  split <;> exact ⟨_, rfl⟩

theorem recoverHotspot_frame (nowMs : Int) :
    ∃ operations,
      (hub.recoverWindowsHotspot nowMs).2 = { hub with windowsHotspotOperations := operations } := by
  have folded : ∀ (ids : List String) (state : FleetHub),
      ∃ operations, ids.foldl (fun state operationId =>
        state.expireWindowsHotspotOperation operationId nowMs) state =
          { state with windowsHotspotOperations := operations } := by
    intro ids
    induction ids with
    | nil => exact fun state => ⟨state.windowsHotspotOperations, rfl⟩
    | cons id rest ih =>
      intro state
      obtain ⟨expired, first⟩ := state.expireHotspot_frame id nowMs
      obtain ⟨operations, later⟩ := ih (state.expireWindowsHotspotOperation id nowMs)
      refine ⟨operations, ?_⟩
      rw [List.foldl_cons, later, first]
  exact folded _ hub

theorem hotspot_frame (call : HotspotCall) :
    ∃ operations observation,
      (hub.handleHotspot call).2 =
        { hub with
          windowsHotspotOperations := operations
          windowsHotspotObservation := observation } := by
  cases call with
  | confirm operationId previewId nowMs =>
    simp only [handleHotspot, confirmWindowsHotspot, Prod.map_snd, id]
    obtain ⟨expired, frame⟩ := hub.expireHotspot_frame operationId nowMs
    split
    · exact ⟨_, _, rfl⟩
    · repeat' split
      · exact ⟨_, _, rfl⟩
      · exact ⟨_, _, rfl⟩
      · exact ⟨expired, hub.windowsHotspotObservation, frame⟩
      · exact ⟨_, _, rfl⟩
      · exact ⟨_, _, rfl⟩
  | receipt receipt nowMs =>
    simp only [handleHotspot, applyWindowsHotspotReceipt, Prod.map_snd, id]
    split <;> exact ⟨_, _, rfl⟩
  | recover nowMs =>
    obtain ⟨operations, frame⟩ := hub.recoverHotspot_frame nowMs
    exact ⟨operations, hub.windowsHotspotObservation, frame⟩
  | _ =>
    simp only [handleHotspot, previewWindowsHotspot, prepareWindowsHotspotInvocation,
      failWindowsHotspotOperation, Prod.map_snd, id]
    obtain ⟨operations, frame⟩ := hub.settleHotspot_frame _ _
    exact ⟨operations, hub.windowsHotspotObservation, frame⟩

theorem catalog_frame [UnicodeLowercase] (admission : ProductionKioskCatalogAdmission)
    (profileId : String) (receivedAtMs : Int) :
    ∃ resultRevision catalogs identities associations,
      (hub.acceptProfiledKioskCatalog admission profileId receivedAtMs).2 =
        { hub with
          resultRevision := resultRevision
          kioskCatalogs := catalogs
          seenKioskCatalogReplayIdentities := identities
          kioskCatalogAssociations := associations } := by
  unfold acceptProfiledKioskCatalog
  split
  · exact ⟨_, _, _, _, rfl⟩
  · rename_i candidate accepted
    simp only [profiledCatalogEdit, acceptProductionKioskCatalog, acceptKioskCatalogInternal,
      bindProductionAdmission, exceptBind_ok, exceptPure_ok] at accepted
    obtain ⟨_, _, _, _, bound, ⟨_, _, _, _, _, _, _, _, _, _, _, _, _, _, internal, admitted, retained⟩, rfl⟩ :=
      accepted
    obtain ⟨_, _, _, _, _, _, _, _, _, _, _, _, rfl⟩ := admitted
    obtain ⟨_, _, rfl⟩ := retained
    exact ⟨_, _, _, _, rfl⟩

variable [HubEnvironment]

/-- A snapshot that is accepted is taken as it is. -/
theorem restore_snapshot (policy : HubPolicy) (restored : FleetHub)
    (ok : restore policy hub.snapshot = .ok restored) : restored = hub := by
  simp only [restore, exceptBind_ok, errorIf_ok, exceptPure_ok] at ok
  obtain ⟨_, _, _, samePolicy, ok⟩ := ok
  have final : { hub.snapshot.contents with policy := policy } = restored := by tauto
  rw [← final, ← not_not.mp samePolicy]
  rfl

theorem restarted_same (policy : HubPolicy) : (hub.restarted policy).2 = hub := by
  unfold restarted
  split
  · rfl
  · rename_i restored ok
    exact hub.restore_snapshot policy restored ok

end FleetHub

/-- What a call leaves alone, by the kind of call. -/
structure LeavesOthers (hub next : FleetHub) (call : HubCall) : Prop where
  policy : next.policy = hub.policy
  devices : (∀ observation nowMs, call ≠ .observe observation nowMs) → next.devices = hub.devices
  events : (∀ observation nowMs, call ≠ .observe observation nowMs) →
    next.eventSequence = hub.eventSequence ∧ next.events = hub.events
  savedViews : (∀ own, call ≠ .savedView own) →
    next.savedViewRevision = hub.savedViewRevision ∧ next.savedViews = hub.savedViews
  kiosk : (∀ own, call ≠ .kiosk own) → next.kioskOperations = hub.kioskOperations
  packages : (∀ own, call ≠ .package own) →
    next.packageOperations = hub.packageOperations ∧
      next.packageOperationArchives = hub.packageOperationArchives
  awake : (∀ own, call ≠ .awake own) → next.awakeOperations = hub.awakeOperations
  wifiAdb : (∀ own, call ≠ .wifiAdb own) → next.wifiAdbOperations = hub.wifiAdbOperations
  hotspot : (∀ own, call ≠ .hotspot own) →
    next.windowsHotspotOperations = hub.windowsHotspotOperations
  hotspotObservation : (∀ own, call ≠ .hotspot own) →
    next.windowsHotspotObservation = hub.windowsHotspotObservation
  catalogs : (∀ admission profileId receivedAtMs, call ≠ .catalog admission profileId receivedAtMs) →
    next.kioskCatalogs = hub.kioskCatalogs ∧
      next.seenKioskCatalogReplayIdentities = hub.seenKioskCatalogReplayIdentities ∧
      next.kioskCatalogAssociations = hub.kioskCatalogAssociations

theorem LeavesOthers.refl (hub : FleetHub) (call : HubCall) : LeavesOthers hub hub call :=
  ⟨rfl, fun _ => rfl, fun _ => ⟨rfl, rfl⟩, fun _ => ⟨rfl, rfl⟩, fun _ => rfl, fun _ => ⟨rfl, rfl⟩,
    fun _ => rfl, fun _ => rfl, fun _ => rfl, fun _ => rfl, fun _ => ⟨rfl, rfl, rfl⟩⟩

namespace FleetHub

variable (hub : FleetHub) [HubEnvironment]

/-- Every kind of call changes its own ledger only. -/
theorem handle_leaves_others (call : HubCall) : LeavesOthers hub (hub.handle call).1 call := by
  cases call with
  | observe observation nowMs =>
    obtain ⟨_, _, _, _, frame⟩ := hub.observation_frame observation nowMs
    rw [handle_observe, frame]
    exact ⟨rfl, fun other => absurd rfl (other observation nowMs),
      fun other => absurd rfl (other observation nowMs), fun _ => ⟨rfl, rfl⟩, fun _ => rfl,
      fun _ => ⟨rfl, rfl⟩, fun _ => rfl, fun _ => rfl, fun _ => rfl, fun _ => rfl,
      fun _ => ⟨rfl, rfl, rfl⟩⟩
  | savedView call =>
    obtain ⟨_, _, frame⟩ := hub.savedView_frame call
    rw [handle_savedView, frame]
    exact ⟨rfl, fun _ => rfl, fun _ => ⟨rfl, rfl⟩, fun other => absurd rfl (other call), fun _ => rfl,
      fun _ => ⟨rfl, rfl⟩, fun _ => rfl, fun _ => rfl, fun _ => rfl, fun _ => rfl,
      fun _ => ⟨rfl, rfl, rfl⟩⟩
  | kiosk call =>
    obtain ⟨_, frame⟩ := hub.kiosk_frame call
    rw [handle_kiosk, frame]
    exact ⟨rfl, fun _ => rfl, fun _ => ⟨rfl, rfl⟩, fun _ => ⟨rfl, rfl⟩,
      fun other => absurd rfl (other call), fun _ => ⟨rfl, rfl⟩, fun _ => rfl, fun _ => rfl, fun _ => rfl,
      fun _ => rfl, fun _ => ⟨rfl, rfl, rfl⟩⟩
  | package call =>
    obtain ⟨_, _, frame⟩ := hub.package_frame call
    rw [handle_package, frame]
    exact ⟨rfl, fun _ => rfl, fun _ => ⟨rfl, rfl⟩, fun _ => ⟨rfl, rfl⟩, fun _ => rfl,
      fun other => absurd rfl (other call), fun _ => rfl, fun _ => rfl, fun _ => rfl, fun _ => rfl,
      fun _ => ⟨rfl, rfl, rfl⟩⟩
  | awake call =>
    obtain ⟨_, frame⟩ := hub.awake_frame call
    rw [handle_awake, frame]
    exact ⟨rfl, fun _ => rfl, fun _ => ⟨rfl, rfl⟩, fun _ => ⟨rfl, rfl⟩, fun _ => rfl, fun _ => ⟨rfl, rfl⟩,
      fun other => absurd rfl (other call), fun _ => rfl, fun _ => rfl, fun _ => rfl,
      fun _ => ⟨rfl, rfl, rfl⟩⟩
  | wifiAdb call =>
    obtain ⟨_, frame⟩ := hub.wifiAdb_frame call
    rw [handle_wifiAdb, frame]
    exact ⟨rfl, fun _ => rfl, fun _ => ⟨rfl, rfl⟩, fun _ => ⟨rfl, rfl⟩, fun _ => rfl, fun _ => ⟨rfl, rfl⟩,
      fun _ => rfl, fun other => absurd rfl (other call), fun _ => rfl, fun _ => rfl,
      fun _ => ⟨rfl, rfl, rfl⟩⟩
  | hotspot call =>
    obtain ⟨_, _, frame⟩ := hub.hotspot_frame call
    rw [handle_hotspot, frame]
    exact ⟨rfl, fun _ => rfl, fun _ => ⟨rfl, rfl⟩, fun _ => ⟨rfl, rfl⟩, fun _ => rfl, fun _ => ⟨rfl, rfl⟩,
      fun _ => rfl, fun _ => rfl, fun other => absurd rfl (other call),
      fun other => absurd rfl (other call), fun _ => ⟨rfl, rfl, rfl⟩⟩
  | catalog admission profileId receivedAtMs =>
    obtain ⟨_, _, _, _, frame⟩ := hub.catalog_frame admission profileId receivedAtMs
    rw [handle_catalog, frame]
    exact ⟨rfl, fun _ => rfl, fun _ => ⟨rfl, rfl⟩, fun _ => ⟨rfl, rfl⟩, fun _ => rfl, fun _ => ⟨rfl, rfl⟩,
      fun _ => rfl, fun _ => rfl, fun _ => rfl, fun _ => rfl,
      fun other => absurd rfl (other admission profileId receivedAtMs)⟩
  | restart policy =>
    rw [handle_restart, hub.restarted_same]
    exact .refl hub _

theorem handle_policy (call : HubCall) : (hub.handle call).1.policy = hub.policy :=
  (hub.handle_leaves_others call).policy

/-- Only an observation changes the directory. -/
theorem handle_devices (call : HubCall)
    (other : ∀ observation nowMs, call ≠ .observe observation nowMs) :
    (hub.handle call).1.devices = hub.devices :=
  (hub.handle_leaves_others call).devices other

end FleetHub

end RustyFleet

import Mathlib.Logic.Relation
import RustyFleet.Hub.Frames

namespace RustyFleet.HotspotSafety

/-- The single writes the hotspot mutators but the confirmation make, with what each of them checked first. -/
inductive HotspotChange (hub : FleetHub) : FleetHub → Prop
  | previewed (plan : WindowsHotspotPreviewPlan) (operation : WindowsHotspotOperation)
      (created : operation = proposedHotspotOperation plan hub.resultRevision
        (!hub.hasActiveHotspotLease plan.createdAtMs none) hub.windowsHotspotObservation)
      (unused : hub.windowsHotspotOperations[plan.operationId]? = none)
      (room : hub.windowsHotspotOperations.size < maxWindowsHotspotOperations) (valid : Valid operation) :
      HotspotChange hub (hub.storeHotspot plan.operationId operation)
  | dispatched (operationId : String) (operation : WindowsHotspotOperation)
      (invocation : WindowsHotspotProviderRequest) (nowMs : Int)
      (stored : hub.windowsHotspotOperations[operationId]? = some operation)
      (accepted : operation.lifecycle = .accepted) (valid : Valid invocation)
      (bound : invocation.operationId = operation.operationId ∧
        invocation.action = operation.preview.action) :
      HotspotChange hub (hub.storeHotspot operationId (operation.dispatched invocation nowMs))
  | expired (operationId : String) (operation : WindowsHotspotOperation) (nowMs : Int)
      (stored : hub.windowsHotspotOperations[operationId]? = some operation) :
      HotspotChange hub (hub.storeHotspot operationId (operation.expired nowMs))
  | failed (operationId : String) (operation : WindowsHotspotOperation) (failureCode : String) (nowMs : Int)
      (stored : hub.windowsHotspotOperations[operationId]? = some operation) :
      HotspotChange hub (hub.storeHotspot operationId (operation.failed failureCode nowMs))
  | received (receipt : WindowsHotspotProviderReceipt) (operation : WindowsHotspotOperation) (nowMs : Int)
      (checked : hub.hotspotReceiptChecks receipt = .ok operation) :
      HotspotChange hub
        { hub.storeHotspot receipt.operationId (operation.received receipt nowMs) with
          windowsHotspotObservation := hotspotObservedAfter hub.windowsHotspotObservation receipt nowMs }

/-- What a confirmation must find before it accepts an operation. -/
structure Confirms (hub : FleetHub) (operationId previewId : String) (nowMs : Int)
    (operation : WindowsHotspotOperation) : Prop where
  stored : hub.windowsHotspotOperations[operationId]? = some operation
  previewed : operation.preview.previewId = previewId
  proposed : operation.lifecycle = .proposed
  inTime : nowMs ≤ operation.preview.expiresAtMs
  free : hub.hasActiveHotspotLease nowMs (some operationId) = false

/-- What a receipt must find before it settles an operation. -/
structure Settles (hub : FleetHub) (receipt : WindowsHotspotProviderReceipt)
    (operation : WindowsHotspotOperation) (invocation : WindowsHotspotProviderRequest) : Prop where
  valid : Valid receipt
  stored : hub.windowsHotspotOperations[receipt.operationId]? = some operation
  dispatched : operation.lifecycle = .dispatched
  unanswered : operation.receipt = none
  invoked : operation.invocation = some invocation
  bound : receipt.requestId = invocation.requestId ∧ receipt.action = invocation.action
  agrees : receipt.outcome = .verified → hotspotSemanticMatch receipt invocation = true

structure Dispatches (hub : FleetHub) (operation : WindowsHotspotOperation) (nowMs : Int)
    (invocation : WindowsHotspotProviderRequest) : Prop where
  accepted : operation.lifecycle = .accepted
  inTime : nowMs ≤ operation.preview.expiresAtMs
  generation : hub.requestedGeneration operation = .ok invocation.ownershipGeneration
  bound : invocation.operationId = operation.operationId ∧ invocation.action = operation.preview.action
  valid : Valid invocation

variable {hub : FleetHub} {operation next : WindowsHotspotOperation}

theorem windowsHotspotOperation_ok (operationId : String) :
    hub.windowsHotspotOperation operationId = .ok operation ↔
      hub.windowsHotspotOperations[operationId]? = some operation := by
  rw [FleetHub.windowsHotspotOperation, orError_ok]

theorem receiptChecks_ok (receipt : WindowsHotspotProviderReceipt) :
    hub.hotspotReceiptChecks receipt = .ok operation ↔
      ∃ invocation, Settles hub receipt operation invocation := by
  simp only [FleetHub.hotspotReceiptChecks, exceptBind_ok, errorIf_ok, exceptPure_ok, orError_ok,
    windowsHotspotOperation_ok, not_or, not_and, not_not, ne_eq, Option.not_isSome_iff_eq_none]
  constructor
  · rintro ⟨_, valid, existing, stored, _, ⟨dispatched, unanswered⟩, invocation, invoked, _, bound, _,
      semantic, rfl⟩
    exact ⟨invocation, valid, stored, dispatched, unanswered, invoked, bound, semantic⟩
  · rintro ⟨invocation, valid, stored, dispatched, unanswered, invoked, bound, semantic⟩
    exact ⟨(), valid, operation, stored, (), ⟨dispatched, unanswered⟩, invocation, invoked, (), bound, (),
      semantic, rfl⟩

theorem prepareEdit_dispatches (operationId requestId : String) (nowMs : Int)
    (rewritten : hub.hotspotPrepareEdit operationId requestId nowMs = .ok (.rewritten next)) :
    ∃ operation invocation, hub.windowsHotspotOperations[operationId]? = some operation ∧
      Dispatches hub operation nowMs invocation ∧ next = operation.dispatched invocation nowMs := by
  simp only [FleetHub.hotspotPrepareEdit, exceptBind_ok, windowsHotspotOperation_ok] at rewritten
  obtain ⟨operation, stored, settled⟩ := rewritten
  split at settled
  · simp only [exceptPure_ok, reduceCtorEq] at settled
  · simp only [exceptBind_ok, errorIf_ok, exceptPure_ok, LedgerEdit.rewritten.injEq, not_or, not_not, ne_eq, gt_iff_lt,
      Int.not_lt] at settled
    obtain ⟨_, ⟨accepted, inTime⟩, _, _, generation, requested, expiresAtUtc, _, _, valid, rfl⟩ := settled
    exact ⟨operation, _, stored, ⟨accepted, inTime, requested, ⟨rfl, rfl⟩, valid⟩, rfl⟩

theorem previewEdit_creates (plan : WindowsHotspotPreviewPlan)
    (rewritten : hub.hotspotPreviewEdit plan = .ok (.rewritten next)) :
    HotspotChange hub (hub.storeHotspot plan.operationId next) := by
  simp only [FleetHub.hotspotPreviewEdit, exceptBind_ok] at rewritten
  obtain ⟨_, _, settled⟩ := rewritten
  split at settled
  · simp only [exceptBind_ok, exceptPure_ok] at settled
    obtain ⟨_, _, ⟨⟩⟩ := settled
  · rename_i unused
    simp only [exceptBind_ok, errorIf_ok, exceptPure_ok, LedgerEdit.rewritten.injEq, not_not, ge_iff_le, Nat.not_le]
      at settled
    obtain ⟨_, valid, _, room, rfl⟩ := settled
    exact .previewed plan _ rfl unused room valid

theorem failEdit_fails (operationId failureCode : String) (nowMs : Int)
    (rewritten : hub.hotspotFailEdit operationId failureCode nowMs = .ok (.rewritten next)) :
    HotspotChange hub (hub.storeHotspot operationId next) := by
  simp only [FleetHub.hotspotFailEdit, exceptBind_ok, orError_ok, errorIf_ok, exceptPure_ok,
    LedgerEdit.rewritten.injEq] at rewritten
  obtain ⟨operation, stored, _, _, rfl⟩ := rewritten
  exact .failed operationId operation failureCode nowMs stored

def OneChange (hub next : FleetHub) : Prop :=
  next = hub ∨ HotspotChange hub next

theorem settle_change (operationId : String) (edit : HubResult (LedgerEdit WindowsHotspotOperation))
    (changes : ∀ next, edit = .ok (.rewritten next) → HotspotChange hub (hub.storeHotspot operationId next)) :
    OneChange hub (hub.settleHotspot operationId edit).2 := by
  rcases edit with fault | operation | next
  · exact .inl rfl
  · exact .inl rfl
  · exact .inr (changes next rfl)

theorem expire_change (operationId : String) (nowMs : Int) :
    OneChange hub (hub.expireWindowsHotspotOperation operationId nowMs) := by
  unfold FleetHub.expireWindowsHotspotOperation
  split
  · rename_i operation stored
    exact .inr (.expired operationId operation nowMs stored)
  · exact .inl rfl

theorem confirm_change (hub : FleetHub) (operationId previewId : String) (nowMs : Int) :
    OneChange hub (hub.confirmWindowsHotspot operationId previewId nowMs).2 ∨
      ∃ operation, Confirms hub operationId previewId nowMs operation ∧
        (hub.confirmWindowsHotspot operationId previewId nowMs).2 =
          hub.storeHotspot operationId (operation.confirmed nowMs) := by
  unfold FleetHub.confirmWindowsHotspot
  split
  · exact .inl (.inl rfl)
  rename_i operation known
  split
  · exact .inl (.inl rfl)
  rename_i previewed
  split
  · exact .inl (.inl rfl)
  rename_i proposed
  split
  · exact .inl (expire_change operationId nowMs)
  rename_i inTime
  split
  · exact .inl (.inl rfl)
  rename_i free
  exact .inr ⟨operation, ⟨(windowsHotspotOperation_ok operationId).mp known, not_not.mp previewed,
    not_not.mp proposed, Int.not_lt.mp inTime, Bool.not_eq_true _ ▸ free⟩, rfl⟩

theorem Confirms.accepts {operationId previewId : String} {nowMs : Int}
    (confirms : Confirms hub operationId previewId nowMs operation) :
    (hub.confirmWindowsHotspot operationId previewId nowMs).2 =
      hub.storeHotspot operationId (operation.confirmed nowMs) := by
  have known := (windowsHotspotOperation_ok operationId).mpr confirms.stored
  simp only [FleetHub.confirmWindowsHotspot, known, confirms.previewed, confirms.proposed, confirms.free,
    ne_eq, not_true_eq_false, if_false, if_neg (Int.not_lt.mpr confirms.inTime), gt_iff_lt,
    Bool.false_eq_true]

theorem receipt_change (receipt : WindowsHotspotProviderReceipt) (nowMs : Int) :
    OneChange hub (hub.applyWindowsHotspotReceipt receipt nowMs).2 := by
  unfold FleetHub.applyWindowsHotspotReceipt
  split
  · exact .inl rfl
  · rename_i operation checked
    exact .inr (.received receipt operation nowMs checked)

abbrev HotspotChanges : FleetHub → FleetHub → Prop := Relation.ReflTransGen HotspotChange

theorem HotspotChanges.preserve {after : FleetHub} (Inv : FleetHub → Prop)
    (kept : ∀ before next, HotspotChange before next → Inv before → Inv next)
    (changes : HotspotChanges hub after) (start : Inv hub) : Inv after := by
  induction changes with
  | refl => exact start
  | tail _ change ih => exact kept _ _ change ih

theorem OneChange.changes {next : FleetHub} (change : OneChange hub next) : HotspotChanges hub next := by
  rcases change with rfl | changed
  · exact .refl
  · exact .single changed

theorem recover_changes (ids : List String) (nowMs : Int) (state : FleetHub) :
    HotspotChanges state (ids.foldl
      (fun state operationId => state.expireWindowsHotspotOperation operationId nowMs) state) := by
  induction ids generalizing state with
  | nil => exact .refl
  | cons id rest ih => exact (expire_change id nowMs).changes.trans (ih _)

theorem hotspot_changes (hub : FleetHub) (call : HotspotCall) :
    HotspotChanges hub (hub.handleHotspot call).2 ∨
      ∃ operationId previewId nowMs operation, call = .confirm operationId previewId nowMs ∧
        Confirms hub operationId previewId nowMs operation ∧
        (hub.handleHotspot call).2 = hub.storeHotspot operationId (operation.confirmed nowMs) := by
  cases call with
  | preview plan =>
    simp only [FleetHub.handleHotspot, FleetHub.previewWindowsHotspot, Prod.map_snd, id]
    exact .inl (settle_change _ _ fun next => previewEdit_creates plan).changes
  | confirm operationId previewId nowMs =>
    simp only [FleetHub.handleHotspot, Prod.map_snd, id]
    rcases confirm_change hub operationId previewId nowMs with changed | ⟨operation, confirms, accepted⟩
    · exact .inl changed.changes
    · exact .inr ⟨operationId, previewId, nowMs, operation, rfl, confirms, accepted⟩
  | prepare operationId requestId nowMs =>
    simp only [FleetHub.handleHotspot, FleetHub.prepareWindowsHotspotInvocation, Prod.map_snd, id]
    refine .inl (settle_change _ _ fun next rewritten => ?_).changes
    obtain ⟨operation, invocation, stored, dispatches, rfl⟩ :=
      prepareEdit_dispatches operationId requestId nowMs rewritten
    exact .dispatched operationId operation invocation nowMs stored dispatches.accepted dispatches.valid
      dispatches.bound
  | receipt receipt nowMs =>
    simp only [FleetHub.handleHotspot, Prod.map_snd, id]
    exact .inl (receipt_change receipt nowMs).changes
  | fail operationId failureCode nowMs =>
    simp only [FleetHub.handleHotspot, FleetHub.failWindowsHotspotOperation, Prod.map_snd, id]
    exact .inl (settle_change _ _ fun next => failEdit_fails operationId failureCode nowMs).changes
  | recover nowMs =>
    simp only [FleetHub.handleHotspot, FleetHub.recoverWindowsHotspot, Prod.map_snd, id]
    exact .inl (recover_changes (hub.recoverableHotspotIds nowMs) nowMs hub)

end RustyFleet.HotspotSafety

import RustyFleet.Safety.KioskSteps
import RustyFleet.Safety.Revisions
import RustyFleet.Support.Ledger

namespace RustyFleet.KioskSafety

variable {hub : FleetHub} {operation next : KioskShowControlsOperation}

/-- An edit of a Kiosk operation keeps its name and its frozen preview. -/
def Keeps (prior next : KioskShowControlsOperation) : Prop :=
  next.operationId = prior.operationId ∧ next.preview = prior.preview

abbrev KioskWrite (hub : FleetHub) (operationId : String) (next : KioskShowControlsOperation) : Prop :=
  Ledger.Write (·.operationId) maxKioskOperations (·.preview.fleetRevision = hub.resultRevision) Keeps
    hub.kioskOperations operationId next

def KioskLedger (hub : FleetHub) : Prop :=
  Ledger.Sound (·.operationId) maxKioskOperations
    (fun operation => Valid operation ∧ operation.preview.fleetRevision ≤ hub.resultRevision)
    hub.kioskOperations

theorem OperationStep.keeps (step : OperationStep operation next) : Keeps operation next := by
  cases step <;> exact ⟨rfl, rfl⟩

theorem Stores.write {operationId : String} (stores : Stores hub operationId next) :
    KioskWrite hub operationId next := by
  rcases stores with ⟨_, room, plan, preflights, rfl, rfl⟩ | ⟨operation, stored, step⟩
  · exact .created room rfl rfl
  · exact .edited operation stored step.keeps

theorem handleKiosk_ledger (ledger : KioskLedger hub) (call : KioskCall) :
    KioskLedger (hub.handleKiosk call).2 := by
  rcases kiosk_call_cases hub call with same | ⟨operationId, next, stores, admitted, changed⟩
  · rw [same]
    exact ledger
  · have stamped : next.preview.fleetRevision ≤ hub.resultRevision := by
      refine stores.write.holds
        (fun operation => operation.preview.fleetRevision ≤ hub.resultRevision)
        (fun key operation found => (ledger.accepted key operation found).2)
        (fun operation new => Nat.le_of_eq new) (fun prior later kept known => ?_)
      rw [kept.2]
      exact known
    rw [changed]
    exact ledger.write (fun prior later kept => kept.1) stores.write ⟨admitted, stamped⟩

theorem KioskLedger.of_same {other : FleetHub} (ledger : KioskLedger hub)
    (same : other.kioskOperations = hub.kioskOperations)
    (grown : hub.resultRevision ≤ other.resultRevision) : KioskLedger other := by
  rw [KioskLedger, same]
  exact ledger.mono fun operation admitted => ⟨admitted.1, Nat.le_trans admitted.2 grown⟩

theorem targetsViolations_nil (last : Option String) (index : Nat)
    (targets : List KioskShowControlsTargetLedger)
    (valid : operation.targetsViolations last index targets = []) :
    ∀ target ∈ targets, target.validateForOperation operation.operationId operation.maxAttemptsPerTarget
      operation.preview.createdAtMs operation.preview.expiresAtMs = [] := by
  induction targets generalizing last index with
  | nil => intro target member; cases member
  | cons first rest ih =>
    simp only [KioskShowControlsOperation.targetsViolations, List.append_eq_nil_iff, List.map_eq_nil_iff]
      at valid
    obtain ⟨⟨⟨own, _⟩, _⟩, others⟩ := valid
    intro target member
    rcases List.mem_cons.mp member with rfl | later
    · exact own
    · exact ih _ _ others target later

theorem target_valid (valid : Valid operation) : ∀ target ∈ operation.targets,
    target.validateForOperation operation.operationId operation.maxAttemptsPerTarget
      operation.preview.createdAtMs operation.preview.expiresAtMs = [] := by
  simp only [Valid, violations, List.append_eq_nil_iff] at valid
  obtain ⟨⟨⟨_, targets⟩, _⟩, _⟩ := valid
  exact targetsViolations_nil none 0 operation.targets targets

theorem valid_lifecycle {target : KioskShowControlsTargetLedger} {operationId : String} {maxAttempts : Nat}
    {createdAtMs expiresAtMs : Int}
    (valid : target.validateForOperation operationId maxAttempts createdAtMs expiresAtMs = []) :
    (target.preflight.eligible = false → target.lifecycle = .rejected) ∧
      (target.preflight.eligible = true →
        target.lifecycle ∉ [.rejected, .cleanupPending, .cleaned]) := by
  simp only [KioskShowControlsTargetLedger.validateForOperation, List.append_eq_nil_iff, violationIf_nil,
    not_or] at valid
  obtain ⟨⟨_, notPending, notCleaned⟩, own⟩ := valid
  refine ⟨fun excluded => ?_, fun eligible => ?_⟩
  · rw [excluded] at own
    simp only [Bool.false_eq_true, if_false, KioskShowControlsTargetLedger.ineligibleViolations,
      violationIf_nil, not_not] at own
    exact own.1
  · rw [if_pos eligible, List.append_eq_nil_iff] at own
    have live : target.lifecycle ≠ .rejected := by
      intro rejected
      rw [KioskShowControlsTargetLedger.lifecycleViolations, rejected] at own
      cases own.1
    simp only [List.mem_cons, List.not_mem_nil, or_false, not_or]
    exact ⟨live, notPending, notCleaned⟩

section Runs

variable [HubEnvironment]

theorem call_kioskLedger (revised : Revised hub) (ledger : KioskLedger hub) (call : HubCall) :
    KioskLedger (hub.handle call).1 := by
  by_cases own : ∃ kiosk, call = .kiosk kiosk
  · obtain ⟨kiosk, rfl⟩ := own
    rw [FleetHub.handle_kiosk]
    exact handleKiosk_ledger ledger kiosk
  · exact ledger.of_same ((hub.handle_leaves_others call).kiosk fun kiosk same => own ⟨kiosk, same⟩)
      (handle_revision_le revised call)

theorem run_kioskLedger (policy : AssertedPolicy) (calls : List HubCall) :
    KioskLedger (fleetHubMachine.run (.new policy) calls) :=
  (fleetHubMachine.run_invariant (fun _ _ => True) (fun hub => Revised hub ∧ KioskLedger hub)
    (fun _ call _ kept => ⟨call_revised kept.1 call, call_kioskLedger kept.1 kept.2 call⟩) (.new policy)
    calls (fleetHubMachine.admits_true _ _) ⟨revised_new policy, Ledger.sound_empty⟩).2

end Runs

end RustyFleet.KioskSafety

import RustyFleet.Adapter.Sessions
import RustyFleet.Safety.Lineage

namespace RustyFleet.CheckIns

open ManifoldEnvironment FleetManifoldAdapter

/-- What holds when a check-in commits both authorities; the adapter's replay table is already pruned. -/
structure Commits [FleetEnvironment] (adapter : FleetManifoldAdapter) (hub : FleetHub)
    (signed : SignedFleetCheckIn) (nowMs : Int) (checkIn : AuthenticatedCheckIn) (resultRevision : Nat)
    (candidate : FleetHub) (state : ManifoldAcceptedPeerState)
    (termuxProofs : BTreeMap String AdmittedQuestWifiAdbTermuxProof) : Prop where
  unseen : adapter.seenCheckins.contains signed.claims.checkinId = false
  authenticated : adapter.authenticate signed nowMs = .ok checkIn
  observed : ∃ deviceId sourceRevision,
    hub.acceptObservation (adapter.acceptedObservation hub signed nowMs) nowMs =
      (.ok (.accepted resultRevision deviceId sourceRevision), candidate)
  proofs : adapter.admitTermuxProof candidate signed checkIn nowMs resultRevision = .ok termuxProofs
  applied : (reviewAndApplyPeerProposal (adapter.reviewCase checkIn)).2.applied = true
  reviewed : (reviewAndApplyPeerProposal (adapter.reviewCase checkIn)).1.acceptedState = some state
  revision : state.authorityRevision = saturatingSucc adapter.acceptedPeers.authorityRevision

section Review

variable [ManifoldEnvironment] (adapter : FleetManifoldAdapter) (candidate : FleetHub)
  (signed : SignedFleetCheckIn) (checkIn : AuthenticatedCheckIn) (fleetDecision : ObservationDecision)
  (termuxProofs : BTreeMap String AdmittedQuestWifiAdbTermuxProof)

theorem reviewPeer_cases :
    (∃ receipt, receipt.accepted = false ∧
      adapter.reviewPeer candidate signed checkIn fleetDecision termuxProofs = .refused receipt) ∨
    ∃ receipt state, receipt.accepted = true ∧
      adapter.reviewPeer candidate signed checkIn fleetDecision termuxProofs =
        .committed receipt candidate (adapter.commitCheckIn signed state termuxProofs) ∧
      (reviewAndApplyPeerProposal (adapter.reviewCase checkIn)).2.applied = true ∧
      (reviewAndApplyPeerProposal (adapter.reviewCase checkIn)).1.acceptedState = some state ∧
      state.authorityRevision = saturatingSucc adapter.acceptedPeers.authorityRevision := by
  unfold reviewPeer
  rcases reviewAndApplyPeerProposal (adapter.reviewCase checkIn) with ⟨decision, application⟩
  by_cases unapplied : application.applied = false
  · simp only [if_pos unapplied]
    exact .inl ⟨_, rfl, rfl⟩
  · simp only [if_neg unapplied]
    cases accepted : decision.acceptedState with
    | none => exact .inl ⟨_, rfl, rfl⟩
    | some state =>
      by_cases moved : state.authorityRevision ≠ saturatingSucc adapter.acceptedPeers.authorityRevision
      · simp only [if_pos moved]
        exact .inl ⟨_, rfl, rfl⟩
      · simp only [if_neg moved]
        exact .inr ⟨_, state, rfl, rfl, by simpa using unapplied, rfl, not_not.mp moved⟩

end Review

variable [FleetEnvironment] (adapter : FleetManifoldAdapter) (hub : FleetHub)
  (signed : SignedFleetCheckIn) (nowMs : Int)

theorem previewFleet_cases (checkIn : AuthenticatedCheckIn)
    (unseen : adapter.seenCheckins.contains signed.claims.checkinId = false)
    (authenticated : adapter.authenticate signed nowMs = .ok checkIn) :
    (∃ receipt, receipt.accepted = false ∧
      adapter.previewFleet hub signed nowMs checkIn = .ok (.refused receipt)) ∨
    (∃ fault, adapter.previewFleet hub signed nowMs checkIn = .error fault ∧
      (hub.acceptObservation (adapter.acceptedObservation hub signed nowMs) nowMs).1 = .error fault) ∨
    ∃ receipt resultRevision candidate state termuxProofs, receipt.accepted = true ∧
      adapter.previewFleet hub signed nowMs checkIn =
        .ok (.committed receipt candidate (adapter.commitCheckIn signed state termuxProofs)) ∧
      Commits adapter hub signed nowMs checkIn resultRevision candidate state termuxProofs := by
  unfold previewFleet
  rcases observed : hub.acceptObservation (adapter.acceptedObservation hub signed nowMs) nowMs with
    ⟨fault | decision, candidate⟩
  · exact .inr (.inl ⟨fault, rfl, rfl⟩)
  cases decision with
  | rejected => exact .inl ⟨_, rfl, rfl⟩
  | accepted resultRevision deviceId sourceRevision =>
    cases proofs : adapter.admitTermuxProof candidate signed checkIn nowMs resultRevision with
    | error reason =>
      simp only [proofs]
      exact .inl ⟨_, rfl, rfl⟩
    | ok termuxProofs =>
      simp only [proofs]
      rcases reviewPeer_cases adapter candidate signed checkIn
          (.accepted resultRevision deviceId sourceRevision) termuxProofs with
        ⟨receipt, refused, ended⟩ | ⟨receipt, state, accepted, ended, applied, reviewed, revision⟩
      · exact .inl ⟨receipt, refused, congrArg Except.ok ended⟩
      · refine .inr (.inr ⟨receipt, resultRevision, candidate, state, termuxProofs, accepted,
          congrArg Except.ok ended, ?_⟩)
        exact ⟨unseen, authenticated, ⟨deviceId, sourceRevision, observed⟩, proofs, applied, reviewed,
          revision⟩

theorem decideCheckIn_cases :
    (∃ receipt, receipt.accepted = false ∧
      adapter.decideCheckIn hub signed nowMs = .ok (.refused receipt)) ∨
    (∃ fault, adapter.decideCheckIn hub signed nowMs = .error fault ∧
      (hub.acceptObservation (adapter.acceptedObservation hub signed nowMs) nowMs).1 = .error fault) ∨
    ∃ receipt checkIn resultRevision candidate state termuxProofs, receipt.accepted = true ∧
      adapter.decideCheckIn hub signed nowMs =
        .ok (.committed receipt candidate (adapter.commitCheckIn signed state termuxProofs)) ∧
      Commits adapter hub signed nowMs checkIn resultRevision candidate state termuxProofs := by
  unfold decideCheckIn
  by_cases seen : adapter.seenCheckins.contains signed.claims.checkinId
  · rw [if_pos seen]
    exact .inl ⟨_, rfl, rfl⟩
  rw [if_neg seen]
  by_cases full : maxSeenCheckins ≤ adapter.seenCheckins.size
  · rw [if_pos full]
    exact .inl ⟨_, rfl, rfl⟩
  rw [if_neg full]
  cases authenticated : adapter.authenticate signed nowMs with
  | error reason => exact .inl ⟨_, rfl, rfl⟩
  | ok checkIn =>
    rcases previewFleet_cases adapter hub signed nowMs checkIn (Bool.eq_false_iff.mpr seen)
        authenticated with
      refused | panicked | ⟨receipt, resultRevision, candidate, state, termuxProofs, committed⟩
    · exact .inl refused
    · exact .inr (.inl panicked)
    · exact .inr (.inr ⟨receipt, checkIn, resultRevision, candidate, state, termuxProofs, committed⟩)

theorem accept_cases :
    (∃ receipt, receipt.accepted = false ∧
      (adapter.accept hub signed nowMs = (.ok receipt, hub, adapter) ∨
        adapter.accept hub signed nowMs = (.ok receipt, hub, adapter.pruneSeenCheckins nowMs))) ∨
    (∃ fault, adapter.accept hub signed nowMs = (.error fault, hub, adapter.pruneSeenCheckins nowMs) ∧
      (hub.acceptObservation (adapter.acceptedObservation hub signed nowMs) nowMs).1 = .error fault) ∨
    ∃ receipt checkIn resultRevision candidate state termuxProofs, receipt.accepted = true ∧
      adapter.accept hub signed nowMs = (.ok receipt, candidate,
        (adapter.pruneSeenCheckins nowMs).commitCheckIn signed state termuxProofs) ∧
      Valid signed ∧ signed.claims.issuedAtMs ≤ nowMs ∧ nowMs < signed.claims.expiresAtMs ∧
      Commits (adapter.pruneSeenCheckins nowMs) hub signed nowMs checkIn resultRevision candidate state
        termuxProofs := by
  unfold accept
  by_cases invalid : isInvalid signed = true
  · rw [if_pos invalid]
    exact .inl ⟨_, rfl, .inl rfl⟩
  rw [if_neg invalid]
  have valid : Valid signed := (isInvalid_false_iff signed).mp (by simpa using invalid)
  by_cases outside : nowMs < signed.claims.issuedAtMs ∨ signed.claims.expiresAtMs ≤ nowMs
  · rw [if_pos outside]
    exact .inl ⟨_, rfl, .inl rfl⟩
  rw [if_neg outside]
  rcases decideCheckIn_cases (adapter.pruneSeenCheckins nowMs) hub signed nowMs with
    ⟨receipt, refused, decided⟩ | ⟨fault, decided, observed⟩ |
    ⟨receipt, checkIn, resultRevision, candidate, state, termuxProofs, accepted, decided, commits⟩
  · simp only [decided]
    exact .inl ⟨receipt, refused, .inr rfl⟩
  · simp only [decided]
    exact .inr (.inl ⟨fault, rfl, observed⟩)
  · simp only [decided]
    refine .inr (.inr ⟨receipt, checkIn, resultRevision, candidate, state, termuxProofs, accepted, rfl,
      valid, by omega, by omega, commits⟩)

end RustyFleet.CheckIns

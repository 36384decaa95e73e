import RustyFleet.Safety.KioskLoops

namespace RustyFleet.KioskAdapter

open Attempt

section Attempts

variable (script : KioskScript) [OwnerEnvironment] (adapter : FleetKioskAdapter) (pairingKey : String)
  (request : KioskShowControlsRequest)

section Opening

/-- The status and invoke steps succeed: what they need of the script, in their order. -/
structure Opened (statusId invokeId : String) (deadlineAtMs : Int) : Prop where
  valid : request.validate = .ok ()
  keyed : pairingKey.isEmpty = false
  deadline : addMs (script.clock 0) adapter.limits.operationDeadlineMs = .ok deadlineAtMs
  statusIssued : script.requestIds 0 = .ok statusId
  statusFormed : isRequestId statusId = true
  statusForeign : statusId ≠ request.ownerActionRequestId
  statusAnswered : ∃ response, Answered script adapter pairingKey deadlineAtMs 1 0 .get statusTarget [] statusId
    response ∧ readStatus response.body = .ok ()
  invokeIssued : script.requestIds 1 = .ok invokeId
  invokeFormed : isRequestId invokeId = true
  invokeForeign : invokeId ≠ request.ownerActionRequestId
  invokeFresh : invokeId ≠ statusId
  invokeAnswered : ∃ body response, invokeBody request = .ok body ∧
    Answered script adapter pairingKey deadlineAtMs 2 1 .post invokeTarget body invokeId response ∧
    readInvoke request response.body = .ok ()

structure AfterOpening (opening : Opening) (session : KioskSession) : Prop where
  readings : session.readings = 3
  waited : session.waited = 0
  sends : session.sends = 2
  issued : session.issued = 2
  used : opening.usedTransportIds =
    ((∅ : BTreeSet String).insert opening.statusTransportRequestId).insert opening.invokeTransportRequestId
  exchanged : session.exchanges.map (·.transportRequestId) =
    [opening.statusTransportRequestId, opening.invokeTransportRequestId]

theorem sendSigned_sent {endpoint requestTarget transportRequestId : String} {method : HttpMethod}
    {body : Bytes} {deadlineAtMs : Int} {session later : KioskSession} {response : KioskHttpResponse}
    (ran : sendSigned script adapter pairingKey endpoint method requestTarget body transportRequestId
      deadlineAtMs session = (.ok response, later)) :
    ∃ entry, entry.transportRequestId = transportRequestId ∧ later = session.sent entry := by
  rcases sendSigned_cases script adapter pairingKey deadlineAtMs endpoint method requestTarget body
      transportRequestId session with ⟨error, _, unsent⟩ | ⟨entry, outcome, named, _, _, sent⟩
  · rw [unsent] at ran
    cases ran
  · rw [sent] at ran
    exact ⟨entry, named, (congrArg Prod.snd ran).symm⟩

theorem opened_of_run (valid : request.validate = .ok ()) (keyed : pairingKey.isEmpty = false)
    {opening : Opening} {later : KioskSession}
    (ran : openShowControls script adapter pairingKey request .start = (.ok opening, later)) :
    Opened script adapter pairingKey request opening.statusTransportRequestId
        opening.invokeTransportRequestId opening.deadlineAtMs ∧ AfterOpening opening later := by
  unfold openShowControls at ran
  obtain ⟨started, _, clock, ran⟩ := (bind_ran _ _ _ _ _).mp ran
  obtain ⟨rfl, rfl⟩ := (nowMs_runs _ _ _ _).mp clock
  obtain ⟨deadlineAtMs, _, bounded, ran⟩ := (bind_ran _ _ _ _ _).mp ran
  obtain ⟨deadline, rfl⟩ := (lift_ran _ _ _ _).mp bounded
  obtain ⟨⟨statusId, used⟩, _, drawn, ran⟩ := (bind_ran _ _ _ _ _).mp ran
  replace drawn := (nextTransportId_runs _ _ _ _ _ _).mp drawn
  dsimp only at drawn ran
  obtain ⟨statusIssued, statusFormed, statusForeign, _, rfl, rfl⟩ := drawn
  obtain ⟨statusResponse, _, sent, ran⟩ := (bind_ran _ _ _ _ _).mp ran
  have statusAnswered := ((sendSigned_runs _ _ _ _ _ _ _ _ _ _ _ _).mp sent).1
  obtain ⟨first, firstNamed, rfl⟩ := sendSigned_sent script adapter pairingKey sent
  obtain ⟨_, _, read, ran⟩ := (bind_ran _ _ _ _ _).mp ran
  obtain ⟨statusRead, rfl⟩ := (lift_ran _ _ _ _).mp read
  obtain ⟨⟨invokeId, usedAfter⟩, _, drawn, ran⟩ := (bind_ran _ _ _ _ _).mp ran
  replace drawn := (nextTransportId_runs _ _ _ _ _ _).mp drawn
  dsimp only at drawn ran
  obtain ⟨invokeIssued, invokeFormed, invokeForeign, invokeFresh, rfl, rfl⟩ := drawn
  obtain ⟨body, _, built, ran⟩ := (bind_ran _ _ _ _ _).mp ran
  obtain ⟨encoded, rfl⟩ := (lift_ran _ _ _ _).mp built
  obtain ⟨invokeResponse, _, sent, ran⟩ := (bind_ran _ _ _ _ _).mp ran
  have invokeAnswered := ((sendSigned_runs _ _ _ _ _ _ _ _ _ _ _ _).mp sent).1
  obtain ⟨second, secondNamed, rfl⟩ := sendSigned_sent script adapter pairingKey sent
  obtain ⟨_, _, read, ran⟩ := (bind_ran _ _ _ _ _).mp ran
  obtain ⟨invokeRead, rfl⟩ := (lift_ran _ _ _ _).mp read
  obtain ⟨rfl, rfl⟩ := (pure_ran _ _ _ _).mp ran
  have different : invokeId ≠ statusId := by
    rintro rfl
    simp at invokeFresh
  constructor
  · exact ⟨valid, keyed, deadline, statusIssued, statusFormed, statusForeign, ⟨_, statusAnswered, statusRead⟩,
      invokeIssued, invokeFormed, invokeForeign, different, ⟨body, _, encoded, invokeAnswered, invokeRead⟩⟩
  · refine ⟨rfl, rfl, rfl, rfl, rfl, ?_⟩
    show [first, second].map (·.transportRequestId) = _
    rw [List.map_cons, List.map_singleton, firstNamed, secondNamed]

theorem run_of_opened {statusId invokeId : String} {deadlineAtMs : Int}
    (opened : Opened script adapter pairingKey request statusId invokeId deadlineAtMs) :
    ∃ opening, (openShowControls script adapter pairingKey request .start).1 = .ok opening := by
  obtain ⟨statusResponse, statusAnswered, statusRead⟩ := opened.statusAnswered
  obtain ⟨body, invokeResponse, encoded, invokeAnswered, invokeRead⟩ := opened.invokeAnswered
  have fresh : ((∅ : BTreeSet String).insert statusId).contains invokeId = false := by
    rw [Bool.eq_false_iff, Std.ExtTreeSet.contains_insert]
    simpa using opened.invokeFresh.symm
  have drawn := (nextTransportId_runs script request.ownerActionRequestId ∅ ⟨1, 0, 0, 0, []⟩ _
    (statusId, (∅ : BTreeSet String).insert statusId)).mpr
      ⟨opened.statusIssued, opened.statusFormed, opened.statusForeign, by simp, rfl, rfl⟩
  have sent := (sendSigned_runs script adapter pairingKey deadlineAtMs request.endpoint .get statusTarget []
    statusId ⟨1, 0, 0, 1, []⟩ _ statusResponse).mpr ⟨statusAnswered, rfl⟩
  obtain ⟨first, _, after⟩ := sendSigned_sent script adapter pairingKey sent
  rw [after] at sent
  have drawnNext := (nextTransportId_runs script request.ownerActionRequestId _
    (KioskSession.sent ⟨1, 0, 0, 1, []⟩ first) _
    (invokeId, ((∅ : BTreeSet String).insert statusId).insert invokeId)).mpr
      ⟨opened.invokeIssued, opened.invokeFormed, opened.invokeForeign, fresh, rfl, rfl⟩
  have sentNext := (sendSigned_runs script adapter pairingKey deadlineAtMs request.endpoint .post invokeTarget
    body invokeId ⟨2, 0, 1, 2, [first]⟩ _ invokeResponse).mpr ⟨invokeAnswered, rfl⟩
  refine ⟨⟨deadlineAtMs, ((∅ : BTreeSet String).insert statusId).insert invokeId, statusId, invokeId⟩, ?_⟩
  unfold openShowControls
  rw [bind_of_ok (show nowMs script .start = (.ok (script.clock 0), ⟨1, 0, 0, 0, []⟩) from rfl),
    bind_of_ok ((lift_ran _ _ _ _).mpr ⟨opened.deadline, rfl⟩), bind_of_ok drawn]
  dsimp only
  rw [bind_of_ok sent, bind_of_ok ((lift_ran _ _ _ _).mpr ⟨statusRead, rfl⟩), bind_of_ok drawnNext]
  dsimp only
  rw [bind_of_ok ((lift_ran _ _ _ _).mpr ⟨encoded, rfl⟩)]
  refine (congrArg Prod.fst (bind_of_ok sentNext)).trans ?_
  rw [bind_of_ok ((lift_ran _ _ _ _).mpr ⟨invokeRead, rfl⟩), pure_apply]

omit [OwnerEnvironment] in
theorem nextTransportId_fresh (owner : String) {used : BTreeSet String} {session : KioskSession}
    (fresh : Fresh used session) :
    Fresh used (nextTransportId script owner used session).2 := by
  apply fresh.same
  simp only [nextTransportId, bind_apply, nextTransportRequestId, lift, pure_apply]
  rcases script.requestIds session.issued with message | requestId
  · rfl
  · simp only [transported, Except.mapError]
    rcases errorIf (¬ isRequestId requestId = true) AdapterError.invalidTransportRequestId with error | done
    · rfl
    · simp only
      rcases errorIf (requestId = owner ∨ used.contains requestId = true) AdapterError.duplicateTransportRequestId with
        error | done <;> rfl

theorem sendSigned_fresh (endpoint : String) (method : HttpMethod) (requestTarget : String) (body : Bytes)
    (deadlineAtMs : Int) {requestId : String} {used : BTreeSet String} {session : KioskSession}
    (fresh : Fresh used session) (unused : used.contains requestId = false) :
    Fresh (used.insert requestId) (sendSigned script adapter pairingKey endpoint method requestTarget body
      requestId deadlineAtMs session).2 := by
  rcases sendSigned_cases script adapter pairingKey deadlineAtMs endpoint method requestTarget body
      requestId session with ⟨error, _, unsent⟩ | ⟨entry, outcome, named, _, _, sent⟩
  · rw [unsent]
    exact (fresh.widen requestId).same rfl
  · rw [sent, ← named]
    exact fresh.sent (named ▸ unused)

omit [OwnerEnvironment] in
theorem fresh_bind {α β : Type} {first : KioskCall α} {rest : α → KioskCall β} {session : KioskSession}
    (kept : ∃ used, Fresh used (first session).2)
    (goes : ∀ value later, first session = (.ok value, later) → ∃ used, Fresh used (rest value later).2) :
    ∃ used, Fresh used ((first >>= rest) session).2 := by
  rw [bind_apply]
  cases ran : first session with
  | mk outcome later =>
    cases outcome with
    | ok value => exact goes value later ran
    | error error =>
      rw [ran] at kept
      exact kept

theorem openShowControls_fresh :
    ∃ used, Fresh used (openShowControls script adapter pairingKey request .start).2 := by
  have start : Fresh ∅ { KioskSession.start with readings := KioskSession.start.readings + 1 } :=
    fresh_start.same rfl
  unfold openShowControls
  apply fresh_bind ⟨∅, start⟩
  intro started session ran
  obtain ⟨_, rfl⟩ := (nowMs_runs _ _ _ _).mp ran
  apply fresh_bind ⟨∅, start⟩
  intro deadlineAtMs session bounded
  obtain ⟨_, rfl⟩ := (lift_ran _ _ _ _).mp bounded
  have drawn := nextTransportId_fresh script request.ownerActionRequestId start
  apply fresh_bind ⟨∅, drawn⟩
  rintro ⟨statusId, used⟩ session issued
  rw [issued] at drawn
  replace issued := (nextTransportId_runs _ _ _ _ _ _).mp issued
  dsimp only at issued drawn
  obtain ⟨_, _, _, unused, rfl, _⟩ := issued
  have sent := sendSigned_fresh script adapter pairingKey request.endpoint .get statusTarget [] deadlineAtMs
    drawn unused
  apply fresh_bind ⟨_, sent⟩
  intro response session answered
  rw [answered] at sent
  dsimp only at sent ⊢
  refine fresh_bind ⟨_, sent⟩ ?_
  intro _ session read
  obtain ⟨_, rfl⟩ := (lift_ran _ _ _ _).mp read
  have drawnNext := nextTransportId_fresh script request.ownerActionRequestId sent
  apply fresh_bind ⟨_, drawnNext⟩
  rintro ⟨invokeId, used⟩ session issued
  rw [issued] at drawnNext
  replace issued := (nextTransportId_runs _ _ _ _ _ _).mp issued
  dsimp only at issued drawnNext
  obtain ⟨_, _, _, unusedNext, rfl, _⟩ := issued
  apply fresh_bind ⟨_, drawnNext⟩
  intro body session built
  obtain ⟨_, rfl⟩ := (lift_ran _ _ _ _).mp built
  have sentNext := sendSigned_fresh script adapter pairingKey request.endpoint .post invokeTarget body
    deadlineAtMs drawnNext unusedNext
  apply fresh_bind ⟨_, sentNext⟩
  intro response session answered
  rw [answered] at sentNext
  dsimp only at sentNext ⊢
  exact fresh_bind ⟨_, sentNext⟩ fun _ session read =>
    ⟨_, ((lift_ran _ _ _ _).mp read).2 ▸ sentNext⟩

end Opening

section Refinement

def invokeThenPoll : KioskCall KioskShowControlsPollOutcome := do
  let dispatch ← invokeShowControls script adapter pairingKey request
  pollShowControlsResult script adapter pairingKey request dispatch.deadlineAtMs

/-- Both paths give one answer on the script, and neither accepts a response under a used id. -/
structure Refines : Prop where
  answers : (executeShowControls script adapter pairingKey request .start).1.map
      (fun outcome => (outcome.effectiveReceipt, outcome.ownerReceipt)) =
    (invokeThenPoll script adapter pairingKey request .start).1.map
      (fun outcome => (outcome.effectiveReceipt, outcome.ownerReceipt))
  executed : NoReplay (executeShowControls script adapter pairingKey request .start).2.exchanges
  polled : NoReplay (invokeThenPoll script adapter pairingKey request .start).2.exchanges

/-- The deadline is ahead of the reading after the invocation, and not further than the skew allows. -/
def WindowOpen (deadlineAtMs : Int) : Prop :=
  script.clock 3 < deadlineAtMs ∧ deadlineAtMs - script.clock 3 ≤ maximumWindowMs

omit [OwnerEnvironment] in
theorem contract_valid : isInvalid KioskOwnerContractBinding.showControlsV1 = false := by decide

omit [OwnerEnvironment] in
theorem refused_iff (startedAtMs deadlineAtMs : Int) :
    (deadlineAtMs ≤ startedAtMs ∨
      (Checked.fit i64Min i64Max (deadlineAtMs - startedAtMs)).all (· > maximumWindowMs) = true) ↔
      ¬ (startedAtMs < deadlineAtMs ∧ deadlineAtMs - startedAtMs ≤ maximumWindowMs) := by
  have window : maximumWindowMs = 90000 := rfl
  unfold Checked.fit i64Min i64Max
  rw [window]
  split
  · simp only [Option.all_some, decide_eq_true_eq]
    omega
  · simp only [Option.all_none, or_true, true_iff]
    omega

variable {script adapter pairingKey request}

theorem refused_same (refused : ¬ (request.validate = .ok () ∧ pairingKey.isEmpty = false)) :
    ∃ error, executeShowControls script adapter pairingKey request .start = (.error error, .start) ∧
      invokeThenPoll script adapter pairingKey request .start = (.error error, .start) := by
  unfold executeShowControls invokeThenPoll invokeShowControls
  simp only [bind_apply, lift]
  cases valid : request.validate with
  | error error => exact ⟨error, rfl, rfl⟩
  | ok done =>
    cases keyed : pairingKey.isEmpty with
    | true => exact ⟨.invalidRequest, rfl, rfl⟩
    | false => exact absurd ⟨valid, keyed⟩ refused

section Ready

variable (valid : request.validate = .ok ()) (keyed : pairingKey.isEmpty = false)
include valid keyed

theorem unopened_same {error : AdapterError} {later : KioskSession}
    (failed : openShowControls script adapter pairingKey request .start = (.error error, later)) :
    executeShowControls script adapter pairingKey request .start = (.error error, later) ∧
      invokeThenPoll script adapter pairingKey request .start = (.error error, later) := by
  unfold executeShowControls invokeThenPoll invokeShowControls
  simp only [bind_apply, lift, valid, keyed, contract_valid, errorIf, Bool.false_eq_true, if_false, failed,
    and_self]

variable {opening : Opening} {later : KioskSession}
  (opened : openShowControls script adapter pairingKey request .start = (.ok opening, later))
include opened

theorem execute_opened :
    (executeShowControls script adapter pairingKey request .start).1.map
        (fun outcome => (outcome.effectiveReceipt, outcome.ownerReceipt)) =
      (pollResults script adapter pairingKey request opening.deadlineAtMs adapter.limits.maximumPolls 1
        (script.clock later.readings) opening.usedTransportIds
        { later with readings := later.readings + 1 }).1.map
          (fun outcome => (outcome.effectiveReceipt, outcome.ownerReceipt)) ∧
    (executeShowControls script adapter pairingKey request .start).2 =
      (pollResults script adapter pairingKey request opening.deadlineAtMs adapter.limits.maximumPolls 1
        (script.clock later.readings) opening.usedTransportIds
        { later with readings := later.readings + 1 }).2 := by
  unfold executeShowControls
  simp only [bind_apply, lift, valid, keyed, contract_valid, errorIf, Bool.false_eq_true, if_false, opened, nowMs,
    pure_apply]
  rcases pollResults script adapter pairingKey request opening.deadlineAtMs adapter.limits.maximumPolls 1
    (script.clock later.readings) opening.usedTransportIds { later with readings := later.readings + 1 } with
    ⟨error | outcome, last⟩
  · exact ⟨rfl, rfl⟩
  · exact ⟨rfl, rfl⟩

theorem split_opened (reading : later.readings = 3) :
    (WindowOpen script opening.deadlineAtMs →
      invokeThenPoll script adapter pairingKey request .start =
        pollResults script adapter pairingKey request opening.deadlineAtMs adapter.limits.maximumPolls 1
          (script.clock later.readings) ∅ { later with readings := later.readings + 1 }) ∧
    (¬ WindowOpen script opening.deadlineAtMs →
      invokeThenPoll script adapter pairingKey request .start =
        (.error .deadlineExceeded, { later with readings := later.readings + 1 })) := by
  have refused := refused_iff (script.clock later.readings) opening.deadlineAtMs
  rw [show script.clock later.readings = script.clock 3 by rw [reading]] at refused
  unfold invokeThenPoll invokeShowControls pollShowControlsResult WindowOpen
  simp only [bind_apply, lift, valid, keyed, contract_valid, errorIf, Bool.false_eq_true, if_false, opened, nowMs,
    pure_apply, reading, refused]
  constructor
  · intro open_
    simp only [open_, and_self, not_true_eq_false, if_false]
  · intro closed
    simp only [if_pos closed]

end Ready

omit [OwnerEnvironment] in
theorem AfterOpening.fresh {opening : Opening} {session : KioskSession} (after : AfterOpening opening session)
    (different : opening.invokeTransportRequestId ≠ opening.statusTransportRequestId) :
    Fresh opening.usedTransportIds { session with readings := session.readings + 1 } where
  distinct := by
    show (session.exchanges.map (·.transportRequestId)).Nodup
    rw [after.exchanged]
    simpa using different.symm
  recorded := by
    intro entry listed
    have named : entry.transportRequestId ∈ session.exchanges.map (·.transportRequestId) :=
      List.mem_map_of_mem listed
    rw [after.exchanged] at named
    rw [after.used, Std.ExtTreeSet.contains_insert, Std.ExtTreeSet.contains_insert]
    simp only [List.mem_cons, List.not_mem_nil, or_false] at named
    rcases named with named | named <;> simp [named]

omit [OwnerEnvironment] in
theorem AfterOpening.atPoll {opening : Opening} {session : KioskSession}
    (after : AfterOpening opening session) :
    AtPoll 0 { session with readings := session.readings + 1 } :=
  ⟨congrArg (· + 1) after.readings, after.waited, after.sends, after.issued⟩

omit [OwnerEnvironment] in
theorem AfterOpening.ledgers {opening : Opening} {session : KioskSession}
    (after : AfterOpening opening session)
    (status : script.requestIds 0 = .ok opening.statusTransportRequestId)
    (invoke : script.requestIds 1 = .ok opening.invokeTransportRequestId) :
    Ledgers script 0 opening.usedTransportIds ∅ := by
  have listed : ∀ requestId, opening.usedTransportIds.contains requestId = true ↔
      ∃ index < 2, script.requestIds index = .ok requestId := by
    intro requestId
    rw [after.used, Std.ExtTreeSet.contains_insert, Std.ExtTreeSet.contains_insert]
    simp only [Std.compare_eq_iff_eq, beq_iff_eq, Bool.or_eq_true, Std.ExtTreeSet.contains_empty,
      Bool.false_eq_true, or_false]
    constructor
    · rintro (rfl | rfl)
      · exact ⟨1, by decide, invoke⟩
      · exact ⟨0, by decide, status⟩
    · rintro ⟨index, bound, earlier⟩
      have which : index = 0 ∨ index = 1 := by omega
      rcases which with rfl | rfl
      · exact .inr (Except.ok.inj (status.symm.trans earlier))
      · exact .inl (Except.ok.inj (invoke.symm.trans earlier))
  refine ⟨listed, fun requestId => ?_, fun requestId held => ?_⟩
  · rw [listed, Std.ExtTreeSet.contains_empty]
    simp only [Bool.false_eq_true, false_or]
  · rw [Std.ExtTreeSet.contains_empty] at held
    cases held

omit [OwnerEnvironment] in
theorem map_error_iff {α β : Type} (f : α → β) (result : AdapterResult α) (error : AdapterError) :
    result.map f = .error error ↔ result = .error error := by
  cases result <;> simp [Except.map]

omit [OwnerEnvironment] in
theorem AfterOpening.sent {opening : Opening} {session : KioskSession} (after : AfterOpening opening session)
    (ledgers : Ledgers script 0 opening.usedTransportIds ∅) :
    ∀ index < 2, ∀ requestId, script.requestIds index = .ok requestId →
      ∃ entry ∈ session.exchanges, entry.transportRequestId = requestId := by
  intro index small requestId earlier
  have named : requestId ∈ session.exchanges.map (·.transportRequestId) := by
    rw [after.exchanged]
    have held := (ledgers.listed requestId).mpr ⟨index, small, earlier⟩
    rw [after.used, Std.ExtTreeSet.contains_insert, Std.ExtTreeSet.contains_insert] at held
    simp at held
    rcases held with rfl | rfl <;> simp
  obtain ⟨entry, listed, same⟩ := List.mem_map.mp named
  exact ⟨entry, listed, same⟩

section Windows

variable (valid : request.validate = .ok ()) (keyed : pairingKey.isEmpty = false) {opening : Opening}
  {later : KioskSession}
  (ran : openShowControls script adapter pairingKey request .start = (.ok opening, later))
include valid keyed ran

theorem execute_noReplay : NoReplay (executeShowControls script adapter pairingKey request .start).2.exchanges := by
  obtain ⟨opened, after⟩ := opened_of_run script adapter pairingKey request valid keyed ran
  obtain ⟨used, fresh⟩ := pollResults_fresh script adapter pairingKey request opening.deadlineAtMs
    adapter.limits.maximumPolls 1 (script.clock later.readings) (after.fresh opened.invokeFresh)
  rw [(execute_opened valid keyed ran).2]
  exact fresh.noReplay

theorem refines_inside_iff (window : WindowOpen script opening.deadlineAtMs) :
    Refines script adapter pairingKey request ↔ ∀ poll < adapter.limits.maximumPolls,
      (∀ earlier < poll, Unfinished script request opening.deadlineAtMs adapter pairingKey earlier) →
        ¬ IssuedAgain script request opening.deadlineAtMs poll := by
  obtain ⟨opened, after⟩ := opened_of_run script adapter pairingKey request valid keyed ran
  have answers := (execute_opened valid keyed ran).1
  have polled := (split_opened valid keyed ran after.readings).1 window
  have ledgers := after.ledgers opened.statusIssued opened.invokeIssued
  constructor
  · intro refines poll bound before again
    obtain ⟨first, second⟩ := loops_part script request opening.deadlineAtMs adapter pairingKey
      adapter.limits.maximumPolls 1 (script.clock later.readings) after.atPoll ledgers (after.sent ledgers)
      (Nat.zero_le poll) (by omega) (fun earlier _ prior => before earlier prior) again
    have same := refines.answers
    rw [answers, first, polled] at same
    rcases second with differ | replays
    · exact differ ((map_error_iff _ _ _).mp same.symm)
    · have kept := refines.polled
      rw [polled] at kept
      exact replays kept
  · intro apart
    obtain ⟨used, fresh⟩ := pollResults_fresh script adapter pairingKey request opening.deadlineAtMs
      adapter.limits.maximumPolls 1 (script.clock later.readings) (after.fresh opened.invokeFresh)
    have agree := loops_agree script request opening.deadlineAtMs adapter pairingKey
      adapter.limits.maximumPolls 1 (script.clock later.readings) after.atPoll ledgers
      (fun poll _ bound before => apart poll (by omega) fun earlier prior =>
        before earlier (Nat.zero_le _) prior)
    rw [← agree] at polled
    refine ⟨by rw [answers, polled], execute_noReplay valid keyed ran, ?_⟩
    rw [polled]
    exact fresh.noReplay

theorem refines_outside_iff (closed : ¬ WindowOpen script opening.deadlineAtMs) :
    Refines script adapter pairingKey request ↔ ∃ poll < adapter.limits.maximumPolls,
      (∀ earlier < poll, Unfinished script request opening.deadlineAtMs adapter pairingKey earlier) ∧
        PollLate script request opening.deadlineAtMs pairingKey poll := by
  obtain ⟨opened, after⟩ := opened_of_run script adapter pairingKey request valid keyed ran
  have answers := (execute_opened valid keyed ran).1
  have refused := (split_opened valid keyed ran after.readings).2 closed
  have late := loop_late_iff script request opening.deadlineAtMs adapter pairingKey
    adapter.limits.maximumPolls 1 (script.clock later.readings) after.atPoll
    (after.ledgers opened.statusIssued opened.invokeIssued)
  have ranged : (∃ last, 0 ≤ last ∧ last < 0 + adapter.limits.maximumPolls ∧
      (∀ earlier, 0 ≤ earlier → earlier < last →
        Unfinished script request opening.deadlineAtMs adapter pairingKey earlier) ∧
      PollLate script request opening.deadlineAtMs pairingKey last) ↔
      ∃ poll < adapter.limits.maximumPolls,
        (∀ earlier < poll, Unfinished script request opening.deadlineAtMs adapter pairingKey earlier) ∧
          PollLate script request opening.deadlineAtMs pairingKey poll := by
    simp only [Nat.zero_le, true_and, Nat.zero_add, forall_const]
  rw [ranged] at late
  constructor
  · intro refines
    have same := refines.answers
    rw [answers, refused] at same
    exact late.mp ((map_error_iff _ _ _).mp same)
  · intro lateness
    refine ⟨?_, execute_noReplay valid keyed ran, ?_⟩
    · rw [answers, late.mpr lateness, refused]
    · rw [refused]
      exact ((after.fresh opened.invokeFresh).same rfl).noReplay

theorem opened_refines_iff :
    Refines script adapter pairingKey request ↔
      (WindowOpen script opening.deadlineAtMs → ∀ poll < adapter.limits.maximumPolls,
        (∀ earlier < poll, Unfinished script request opening.deadlineAtMs adapter pairingKey earlier) →
          ¬ IssuedAgain script request opening.deadlineAtMs poll) ∧
      (¬ WindowOpen script opening.deadlineAtMs → ∃ poll < adapter.limits.maximumPolls,
        (∀ earlier < poll, Unfinished script request opening.deadlineAtMs adapter pairingKey earlier) ∧
          PollLate script request opening.deadlineAtMs pairingKey poll) := by
  by_cases window : WindowOpen script opening.deadlineAtMs
  · rw [refines_inside_iff valid keyed ran window]
    exact ⟨fun apart => ⟨fun _ => apart, fun closed => absurd window closed⟩, fun parts => parts.1 window⟩
  · rw [refines_outside_iff valid keyed ran window]
    exact ⟨fun late => ⟨fun inWindow => absurd inWindow window, fun _ => late⟩, fun parts => parts.2 window⟩

end Windows

variable (script adapter pairingKey request)

/-- Once opened, the split path agrees with the whole one exactly when its window is open and no poll is
issued the id of the status or invoke request, or its window is closed and the whole path runs late. -/
theorem invoke_then_poll_refines_iff :
    Refines script adapter pairingKey request ↔
      ∀ statusId invokeId deadlineAtMs,
        Opened script adapter pairingKey request statusId invokeId deadlineAtMs →
        (WindowOpen script deadlineAtMs → ∀ poll < adapter.limits.maximumPolls,
          (∀ earlier < poll, Unfinished script request deadlineAtMs adapter pairingKey earlier) →
            ¬ IssuedAgain script request deadlineAtMs poll) ∧
        (¬ WindowOpen script deadlineAtMs → ∃ poll < adapter.limits.maximumPolls,
          (∀ earlier < poll, Unfinished script request deadlineAtMs adapter pairingKey earlier) ∧
            PollLate script request deadlineAtMs pairingKey poll) := by
  by_cases ready : request.validate = .ok () ∧ pairingKey.isEmpty = false
  · obtain ⟨valid, keyed⟩ := ready
    cases ran : openShowControls script adapter pairingKey request .start with
    | mk outcome later =>
      cases outcome with
      | error error =>
        obtain ⟨first, second⟩ := unopened_same valid keyed ran
        obtain ⟨used, fresh⟩ := openShowControls_fresh script adapter pairingKey request
        rw [ran] at fresh
        constructor
        · intro _ statusId invokeId deadlineAtMs opened
          obtain ⟨opening, ok⟩ := run_of_opened script adapter pairingKey request opened
          rw [ran] at ok
          cases ok
        · intro _
          constructor
          · rw [first, second]
            rfl
          · rw [first]
            exact fresh.noReplay
          · rw [second]
            exact fresh.noReplay
      | ok opening =>
        have opened := (opened_of_run script adapter pairingKey request valid keyed ran).1
        rw [opened_refines_iff valid keyed ran]
        constructor
        · intro agreed statusId invokeId deadlineAtMs also
          obtain rfl : deadlineAtMs = opening.deadlineAtMs :=
            Except.ok.inj (also.deadline.symm.trans opened.deadline)
          exact agreed
        · intro agreed
          exact agreed _ _ _ opened
  · obtain ⟨error, first, second⟩ := refused_same ready
    constructor
    · intro _ statusId invokeId deadlineAtMs opened
      exact absurd ⟨opened.valid, opened.keyed⟩ ready
    · intro _
      constructor
      · rw [first, second]
        rfl
      · rw [first]
        exact List.Pairwise.nil
      · rw [second]
        exact List.Pairwise.nil

end Refinement

end Attempts

section Samples

/-- A 32-byte checksum for the digest, and one document of each kind. -/
@[reducible] def sampleOwner : OwnerEnvironment where
  digest bytes := List.replicate 32 (bytes.foldl (· + ·) 0)
  invokeToVec _ _ := some [7]
  statusFromSlice body := if body = [1] then some ⟨kioskDirectOperatorSchema, true⟩ else none
  invokeFromSlice body := if body = [2] then some ⟨"owner-action-1", true, false⟩ else none
  resultFromSlice body :=
    if body = [3] then
      some
        { schema := some kioskCliResultSchema
          requestId := "owner-action-1"
          command := some kioskShowControlsCommand
          accepted := true
          completed := true
          recordedAtMs := some 900
          controlsOpen := some true }
    else none

def signedAnswer (requestId : String) (body : Bytes) : KioskHttpResponse where
  status := 200
  headers := (((∅ : BTreeMap String String).insert headerRequestId requestId).insert headerContentSha256
    (@sha256Hex sampleOwner.toSha256 body)).insert headerSignature
      (@signature sampleOwner.toSha256 "pairing" (canonicalResponse requestId 200
        (@sha256Hex sampleOwner.toSha256 body)))
  body := body
  redirected := false
  receivedAtMs := 1000

/-- The first poll is issued the id of the status request, and the owner's result comes back under it. -/
def replayScript : KioskScript where
  clock _ := 1000
  waits _ := .ok ()
  responses send :=
    match send with
    | 0 => .ok (signedAnswer "status-01" [1])
    | 1 => .ok (signedAnswer "invoke-01" [2])
    | _ => .ok (signedAnswer "status-01" [3])
  requestIds index := if index = 1 then .ok "invoke-01" else .ok "status-01"

def defaultAdapter : FleetKioskAdapter where
  limits :=
    { maximumPolls := 20
      pollIntervalMs := 250
      operationDeadlineMs := 30000
      requestTimeoutMs := 5000
      maximumResponseBytes := maxOwnerJsonBytes }
  valid := ⟨by decide, by decide, by decide, by decide, by decide⟩

def sampleRequest : KioskShowControlsRequest where
  receiptId := "receipt-1"
  operationId := "op-1"
  deviceId := "quest-1"
  identityRevision := 1
  endpoint := "http://192.168.0.7:39873"
  ownerActionRequestId := "owner-action-1"

end Samples

/-- The whole path refuses the id, the split path accepts the receipt that came under it. -/
theorem status_id_replayed : ¬ @Refines replayScript sampleOwner defaultAdapter "pairing" sampleRequest := by
  intro refines
  have same := congrArg Except.isOk (@Refines.answers _ sampleOwner _ _ _ refines)
  exact absurd same (by decide +kernel)

end RustyFleet.KioskAdapter

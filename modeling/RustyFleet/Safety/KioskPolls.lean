import RustyFleet.Safety.KioskCalls

namespace RustyFleet.KioskAdapter

open Attempt

section Replay

def NoReplay (exchanges : List KioskExchange) : Prop :=
  exchanges.Pairwise fun earlier later => later.accepted = true →
    earlier.transportRequestId ≠ later.transportRequestId

structure Fresh (used : BTreeSet String) (session : KioskSession) : Prop where
  distinct : (session.exchanges.map (·.transportRequestId)).Nodup
  recorded : ∀ entry ∈ session.exchanges, used.contains entry.transportRequestId = true

theorem Fresh.noReplay {used : BTreeSet String} {session : KioskSession} (fresh : Fresh used session) :
    NoReplay session.exchanges := by
  have distinct := List.pairwise_map.mp fresh.distinct
  unfold NoReplay
  apply List.Pairwise.imp _ distinct
  intro earlier later differ _
  exact differ

theorem fresh_start : Fresh ∅ .start := ⟨List.nodup_nil, nofun⟩

theorem Fresh.sent {used : BTreeSet String} {session : KioskSession} (fresh : Fresh used session)
    {entry : KioskExchange} (unused : used.contains entry.transportRequestId = false) :
    Fresh (used.insert entry.transportRequestId) (session.sent entry) where
  distinct := by
    show ((session.exchanges ++ [entry]).map (·.transportRequestId)).Nodup
    rw [List.map_append, List.nodup_append]
    refine ⟨fresh.distinct, by simp, ?_⟩
    intro earlier listed last member same
    obtain ⟨other, held, rfl⟩ := List.mem_map.mp listed
    rw [List.map_singleton, List.mem_singleton] at member
    have recorded := fresh.recorded other held
    rw [same, member, unused] at recorded
    cases recorded
  recorded := by
    intro other listed
    rw [Std.ExtTreeSet.contains_insert, Bool.or_eq_true]
    rcases List.mem_append.mp listed with earlier | last
    · exact .inr (fresh.recorded other earlier)
    · rw [List.mem_singleton.mp last]
      exact .inl (by simp)

theorem Fresh.widen {used : BTreeSet String} {session : KioskSession} (fresh : Fresh used session)
    (requestId : String) : Fresh (used.insert requestId) session where
  distinct := fresh.distinct
  recorded := by
    intro entry listed
    rw [Std.ExtTreeSet.contains_insert, Bool.or_eq_true]
    exact .inr (fresh.recorded entry listed)

theorem Fresh.same {used : BTreeSet String} {session later : KioskSession} (fresh : Fresh used session)
    (same : later.exchanges = session.exchanges) : Fresh used later := by
  obtain ⟨distinct, recorded⟩ := fresh
  rw [← same] at distinct recorded
  exact ⟨distinct, recorded⟩

end Replay

section Polls

variable (script : KioskScript) [OwnerEnvironment] (adapter : FleetKioskAdapter) (pairingKey : String)
  (request : KioskShowControlsRequest) (deadlineAtMs : Int)

def drawPoll (notBeforeMs : Int) : KioskCall String := do
  let loopedAtMs ← nowMs script
  lift (errorIf (loopedAtMs > deadlineAtMs) .deadlineExceeded)
  waitUntilMs script notBeforeMs deadlineAtMs
  let wokenAtMs ← nowMs script
  lift (errorIf (wokenAtMs > deadlineAtMs) .deadlineExceeded)
  let requestId ← nextTransportRequestId script
  lift (errorIf (¬ isRequestId requestId) .invalidTransportRequestId)
  lift (errorIf (requestId = request.ownerActionRequestId) .duplicateTransportRequestId)
  return requestId

def answerPoll (requestId : String) : KioskCall PollAnswer := do
  let response ← sendSigned script adapter pairingKey request.endpoint .get
    (showControlsResultTarget request) [] requestId deadlineAtMs
  lift (readResult adapter request requestId response)

theorem pollOnce_eq (notBeforeMs : Int) (used : BTreeSet String) (session : KioskSession) :
    pollOnce script adapter pairingKey request deadlineAtMs notBeforeMs used session =
      match drawPoll script request deadlineAtMs notBeforeMs session with
      | (.error error, later) => (.error error, later)
      | (.ok requestId, later) =>
        if used.contains requestId then (.error .duplicateTransportRequestId, later)
        else
          match answerPoll script adapter pairingKey request deadlineAtMs requestId later with
          | (.error error, last) => (.error error, last)
          | (.ok answer, last) => (.ok (answer, used.insert requestId), last) := by
  unfold pollOnce drawPoll
  simp only [bind_apply, nowMs, lift, waitUntilMs, nextTransportId, nextTransportRequestId]
  by_cases looped : script.clock session.readings > deadlineAtMs
  · simp only [errorIf, if_pos looped]
  simp only [errorIf, if_neg looped]
  cases script.waits session.waited with
  | error message => rfl
  | ok done =>
    simp only [transported, Except.mapError]
    by_cases woken : script.clock (session.readings + 1) > deadlineAtMs
    · simp only [if_pos woken]
    simp only [if_neg woken]
    cases script.requestIds session.issued with
    | error message => rfl
    | ok requestId =>
      simp only
      by_cases formed : ¬ isRequestId requestId = true
      · simp only [if_pos formed]
      simp only [if_neg formed]
      by_cases foreign : requestId = request.ownerActionRequestId
      · simp only [foreign, true_or, if_true]
      by_cases held : used.contains requestId = true
      · simp only [foreign, held, or_true, if_true, if_false, pure_apply]
      simp only [foreign, held, Bool.false_eq_true, or_self, if_false, pure_apply, answerPoll, bind_apply, lift]
      generalize sendSigned script adapter pairingKey request.endpoint .get (showControlsResultTarget request) []
        requestId deadlineAtMs _ = sent
      obtain ⟨outcome, last⟩ := sent
      cases outcome with
      | error error => rfl
      | ok response =>
        simp only
        cases readResult adapter request requestId response <;> rfl

omit [OwnerEnvironment] in
theorem drawPoll_exchanges (notBeforeMs : Int) (session : KioskSession) :
    (drawPoll script request deadlineAtMs notBeforeMs session).2.exchanges = session.exchanges := by
  simp only [drawPoll, bind_apply, nowMs, lift, waitUntilMs, nextTransportRequestId, pure_apply]
  by_cases looped : script.clock session.readings > deadlineAtMs
  · simp only [errorIf, if_pos looped]
  simp only [errorIf, if_neg looped]
  cases script.waits session.waited with
  | error message => rfl
  | ok done =>
    simp only [transported, Except.mapError]
    by_cases woken : script.clock (session.readings + 1) > deadlineAtMs
    · simp only [if_pos woken]
    simp only [if_neg woken]
    cases script.requestIds session.issued with
    | error message => rfl
    | ok requestId =>
      simp only
      by_cases formed : ¬ isRequestId requestId = true
      · simp only [if_pos formed]
      simp only [if_neg formed]
      by_cases foreign : requestId = request.ownerActionRequestId
      · simp only [if_pos foreign]
      · simp only [if_neg foreign]

omit [OwnerEnvironment] in
theorem avoids_addMs {error : AdapterError} (own : OwnError error) (timeMs : Int) (deltaMs : Nat) :
    Avoids error (addMs timeMs deltaMs) := by
  have differ : .invalidLimits ≠ error := by
    rcases own with rfl | rfl <;> decide
  exact avoids_bind (avoids_orError differ _) fun _ => avoids_orError differ _

theorem avoids_readResult {error : AdapterError} (own : OwnError error) (requestId : String)
    (response : KioskHttpResponse) : Avoids error (readResult adapter request requestId response) := by
  have differ : .invalidJson ≠ error ∧ .ownerResultMismatch ≠ error ∧ .ownerRejected ≠ error ∧
      .missingResponseHeader headerSignature ≠ error ∧ .effectiveReceiptInvalid ≠ error := by
    rcases own with rfl | rfl <;> decide
  unfold readResult
  apply avoids_bind (avoids_orError differ.1 _) fun result => ?_
  apply avoids_bind (avoids_errorIf differ.2.1 _) fun _ => ?_
  apply avoids_bind (avoids_errorIf differ.2.2.1 _) fun _ => ?_
  split
  · exact avoids_bind (avoids_addMs own _ _) fun _ => avoids_ok _ _
  · apply avoids_bind (avoids_errorIf differ.2.1 _) fun _ => ?_
    apply avoids_bind (avoids_orError differ.2.1 _) fun _ => ?_
    apply avoids_bind (avoids_requireHeader _ _ differ.2.2.2.1) fun _ => ?_
    exact avoids_bind (avoids_errorIf differ.2.2.2.2 _) fun _ => avoids_ok _ _

theorem answerPoll_cases (requestId : String) (session : KioskSession) :
    (∃ error, error ≠ .duplicateTransportRequestId ∧
      answerPoll script adapter pairingKey request deadlineAtMs requestId session =
        (.error error, { session with readings := session.readings + 1 })) ∨
    ∃ entry outcome, entry.transportRequestId = requestId ∧ Avoids .duplicateTransportRequestId outcome ∧
      (entry.accepted = true ∨ ∃ error, outcome = .error error) ∧
      answerPoll script adapter pairingKey request deadlineAtMs requestId session =
        (outcome, session.sent entry) := by
  unfold answerPoll
  rcases sendSigned_cases script adapter pairingKey deadlineAtMs request.endpoint .get
      (showControlsResultTarget request) [] requestId session with
    ⟨error, differ, unsent⟩ | ⟨entry, outcome, named, flagged, avoids, sent⟩
  · exact .inl ⟨error, differ, bind_of_error unsent⟩
  · right
    cases outcome with
    | error error =>
      exact ⟨entry, .error error, named, fun same => avoids (congrArg Except.error (Except.error.inj same)),
        .inr ⟨error, rfl⟩, bind_of_error sent⟩
    | ok response =>
      exact ⟨entry, readResult adapter request requestId response, named,
        avoids_readResult adapter request (.inr rfl) _ _, .inl flagged, bind_of_ok sent⟩

theorem pollOnce_fresh (notBeforeMs : Int) {used : BTreeSet String} {session : KioskSession}
    (fresh : Fresh used session) :
    match pollOnce script adapter pairingKey request deadlineAtMs notBeforeMs used session with
    | (.ok (_, later), after) => Fresh later after
    | (.error _, after) => ∃ later, Fresh later after := by
  rw [pollOnce_eq]
  have kept := drawPoll_exchanges script request deadlineAtMs notBeforeMs session
  revert kept
  rcases drawPoll script request deadlineAtMs notBeforeMs session with ⟨error | requestId, drawn⟩
  · intro kept
    exact ⟨used, fresh.same kept⟩
  · intro kept
    have start : Fresh used drawn := fresh.same kept
    by_cases held : used.contains requestId = true
    · simp only [if_pos held]
      exact ⟨used, start⟩
    · have unused : used.contains requestId = false := Bool.eq_false_iff.mpr held
      simp only [if_neg held]
      rcases answerPoll_cases script adapter pairingKey request deadlineAtMs requestId drawn with
        ⟨error, _, unsent⟩ | ⟨entry, outcome, named, _, _, sent⟩
      · rw [unsent]
        exact ⟨used, start.same rfl⟩
      · rw [sent]
        have next : Fresh (used.insert requestId) (drawn.sent entry) := by
          rw [← named]
          exact start.sent (named ▸ unused)
        cases outcome with
        | error error => exact ⟨_, next⟩
        | ok answer => exact next

theorem pollResults_fresh (polls pollIndex : Nat) (notBeforeMs : Int) {used : BTreeSet String}
    {session : KioskSession} (fresh : Fresh used session) :
    ∃ later, Fresh later
      (pollResults script adapter pairingKey request deadlineAtMs polls pollIndex notBeforeMs used
        session).2 := by
  induction polls generalizing pollIndex notBeforeMs used session with
  | zero => exact ⟨used, fresh⟩
  | succ polls ih =>
    have step := pollOnce_fresh script adapter pairingKey request deadlineAtMs notBeforeMs fresh
    rw [pollResults, bind_apply]
    revert step
    rcases pollOnce script adapter pairingKey request deadlineAtMs notBeforeMs used session with
      ⟨error | ⟨next | ⟨receipt, evidence⟩, later⟩, after⟩
    · exact id
    · exact fun step => ih _ _ step
    · exact fun step => ⟨later, step⟩

theorem pollOnce_grows (notBeforeMs : Int) (used : BTreeSet String) (session : KioskSession) :
    session.exchanges <+:
      (pollOnce script adapter pairingKey request deadlineAtMs notBeforeMs used session).2.exchanges := by
  rw [pollOnce_eq]
  have kept := drawPoll_exchanges script request deadlineAtMs notBeforeMs session
  revert kept
  rcases drawPoll script request deadlineAtMs notBeforeMs session with ⟨error | requestId, drawn⟩
  · intro kept
    exact ⟨[], (List.append_nil _).trans kept.symm⟩
  · intro kept
    have kept : drawn.exchanges = session.exchanges := kept
    by_cases held : used.contains requestId = true
    · simp only [if_pos held, kept, List.prefix_refl]
    · simp only [if_neg held]
      rcases answerPoll_cases script adapter pairingKey request deadlineAtMs requestId drawn with
        ⟨error, _, unsent⟩ | ⟨entry, outcome, _, _, _, sent⟩
      · rw [unsent]
        simp only [kept, List.prefix_refl]
      · rw [sent, ← kept]
        cases outcome <;> exact List.prefix_append _ _

theorem pollResults_grows (polls pollIndex : Nat) (notBeforeMs : Int) (used : BTreeSet String)
    (session : KioskSession) :
    session.exchanges <+: (pollResults script adapter pairingKey request deadlineAtMs polls pollIndex
      notBeforeMs used session).2.exchanges := by
  induction polls generalizing pollIndex notBeforeMs used session with
  | zero => exact List.prefix_refl _
  | succ polls ih =>
    have step := pollOnce_grows script adapter pairingKey request deadlineAtMs notBeforeMs used session
    rw [pollResults, bind_apply]
    revert step
    rcases pollOnce script adapter pairingKey request deadlineAtMs notBeforeMs used session with
      ⟨error | ⟨next | ⟨receipt, evidence⟩, later⟩, after⟩
    · exact id
    · exact fun step => step.trans (ih _ _ _ _)
    · exact id

end Polls

section Script

variable (script : KioskScript)

/-- The session stands before one of the attempt's polls. -/
structure AtPoll (poll : Nat) (session : KioskSession) : Prop where
  readings : session.readings = 4 + 3 * poll
  waited : session.waited = poll
  sends : session.sends = 2 + poll
  issued : session.issued = 2 + poll

def KioskSession.drawn (session : KioskSession) : KioskSession :=
  { session with
    readings := session.readings + 2
    waited := session.waited + 1
    issued := session.issued + 1 }

variable (request : KioskShowControlsRequest) (deadlineAtMs : Int)

structure PollIssued (poll : Nat) (requestId : String) : Prop where
  looped : script.clock (4 + 3 * poll) ≤ deadlineAtMs
  waited : script.waits poll = .ok ()
  woken : script.clock (5 + 3 * poll) ≤ deadlineAtMs
  issued : script.requestIds (2 + poll) = .ok requestId
  formed : isRequestId requestId = true
  foreign : requestId ≠ request.ownerActionRequestId

theorem drawPoll_runs {poll : Nat} {session : KioskSession} (reached : AtPoll poll session)
    (notBeforeMs : Int) (requestId : String) (later : KioskSession) :
    drawPoll script request deadlineAtMs notBeforeMs session = (.ok requestId, later) ↔
      PollIssued script request deadlineAtMs poll requestId ∧ later = session.drawn := by
  obtain ⟨readings, waited, sends, issued⟩ := reached
  unfold drawPoll
  simp only [bind_ran, nowMs_runs, lift_ran, errorIf_ok, waitUntilMs_runs, nextTransportRequestId_runs, pure_ran,
    gt_iff_lt, Int.not_lt]
  constructor
  · rintro ⟨_, _, ⟨rfl, rfl⟩, _, _, ⟨looped, rfl⟩, _, _, ⟨given, rfl⟩, _, _, ⟨rfl, rfl⟩, _, _, ⟨woken, rfl⟩, _, _,
      ⟨drawn, rfl⟩, _, _, ⟨formed, rfl⟩, _, _, ⟨foreign, rfl⟩, rfl, rfl⟩
    simp only [readings, waited, issued] at looped given woken drawn
    exact ⟨⟨looped, given, (by rwa [show 4 + 3 * poll + 1 = 5 + 3 * poll by omega] at woken), drawn,
      Classical.not_not.mp formed, foreign⟩, rfl⟩
  · rintro ⟨own, rfl⟩
    have woken := own.woken
    rw [show 5 + 3 * poll = session.readings + 1 by omega] at woken
    have looped := own.looped
    rw [← readings] at looped
    have given := own.waited
    rw [← waited] at given
    have drawn := own.issued
    rw [← issued] at drawn
    exact ⟨_, _, ⟨rfl, rfl⟩, (), _, ⟨looped, rfl⟩, (), _, ⟨given, rfl⟩, _, _, ⟨rfl, rfl⟩, (), _, ⟨woken, rfl⟩, _, _,
      ⟨drawn, rfl⟩, (), _, ⟨Classical.not_not.mpr own.formed, rfl⟩, (), _, ⟨own.foreign, rfl⟩, rfl, rfl⟩

variable [OwnerEnvironment] (adapter : FleetKioskAdapter) (pairingKey : String)

def Pends (poll : Nat) (requestId : String) (next : Int) : Prop :=
  ∃ response, Answered script adapter pairingKey deadlineAtMs (6 + 3 * poll) (2 + poll) .get
      (showControlsResultTarget request) [] requestId response ∧
    readResult adapter request requestId response = .ok (.pending next)

/-- The poll is issued an id no request of the attempt has used, and leaves the attempt unfinished. -/
def Unfinished (poll : Nat) : Prop :=
  ∃ requestId next, PollIssued script request deadlineAtMs poll requestId ∧
    (∀ index < 2 + poll, script.requestIds index ≠ .ok requestId) ∧
    Pends script request deadlineAtMs adapter pairingKey poll requestId next

omit [OwnerEnvironment] in
/-- The poll is issued the id of the attempt's status or invoke request. -/
def IssuedAgain (poll : Nat) : Prop :=
  ∃ requestId, PollIssued script request deadlineAtMs poll requestId ∧
    ∃ index < 2, script.requestIds index = .ok requestId

theorem answerPoll_pends {poll : Nat} {session : KioskSession} (reached : AtPoll poll session)
    (requestId : String) (next : Int) :
    (answerPoll script adapter pairingKey request deadlineAtMs requestId session.drawn).1 =
        .ok (.pending next) ↔ Pends script request deadlineAtMs adapter pairingKey poll requestId next := by
  have reading : session.drawn.readings = 6 + 3 * poll := by
    show session.readings + 2 = _
    rw [reached.readings]
    omega
  have send : session.drawn.sends = 2 + poll := reached.sends
  unfold answerPoll Pends
  rw [← reading, ← send]
  constructor
  · intro pending
    have ran := (bind_ran _ _ session.drawn _ _).mp (Prod.ext pending rfl)
    obtain ⟨response, mid, sent, read⟩ := ran
    exact ⟨response, ((sendSigned_runs _ _ _ _ _ _ _ _ _ _ _ _).mp sent).1, ((lift_ran _ _ _ _).mp read).1⟩
  · rintro ⟨response, answered, read⟩
    have sent := (sendSigned_runs script adapter pairingKey deadlineAtMs request.endpoint .get
      (showControlsResultTarget request) [] requestId session.drawn _ response).mpr ⟨answered, rfl⟩
    rw [bind_of_ok sent]
    exact read

omit [OwnerEnvironment] in
theorem AtPoll.next {poll : Nat} {session : KioskSession} (reached : AtPoll poll session)
    (entry : KioskExchange) : AtPoll (poll + 1) (session.drawn.sent entry) := by
  obtain ⟨readings, waited, sends, issued⟩ := reached
  constructor
  · show session.readings + 2 + 1 = _
    omega
  · show session.waited + 1 = _
    omega
  · show session.sends + 1 = _
    omega
  · show session.issued + 1 = _
    omega

/-- The used ids before a poll: those of the whole attempt, and those of its polls alone. -/
structure Ledgers (poll : Nat) (whole polls : BTreeSet String) : Prop where
  listed : ∀ requestId, whole.contains requestId = true ↔
    ∃ index < 2 + poll, script.requestIds index = .ok requestId
  divided : ∀ requestId, whole.contains requestId = true ↔
    polls.contains requestId = true ∨ ∃ index < 2, script.requestIds index = .ok requestId
  apart : ∀ requestId, polls.contains requestId = true →
    ∀ index < 2, script.requestIds index ≠ .ok requestId

omit [OwnerEnvironment] in
theorem Ledgers.next {poll : Nat} {whole polls : BTreeSet String} (ledgers : Ledgers script poll whole polls)
    {requestId : String} (issued : script.requestIds (2 + poll) = .ok requestId)
    (unused : whole.contains requestId = false) :
    Ledgers script (poll + 1) (whole.insert requestId) (polls.insert requestId) where
  listed := by
    intro other
    rw [Std.ExtTreeSet.contains_insert, Bool.or_eq_true, ledgers.listed]
    constructor
    · rintro (same | ⟨index, bound, earlier⟩)
      · obtain rfl : requestId = other := by simpa using same
        exact ⟨2 + poll, by omega, issued⟩
      · exact ⟨index, by omega, earlier⟩
    · rintro ⟨index, bound, earlier⟩
      by_cases last : index = 2 + poll
      · left
        obtain rfl : requestId = other := Except.ok.inj (issued.symm.trans (last ▸ earlier))
        simp
      · exact .inr ⟨index, by omega, earlier⟩
  divided := by
    intro other
    rw [Std.ExtTreeSet.contains_insert, Std.ExtTreeSet.contains_insert, Bool.or_eq_true, Bool.or_eq_true,
      ledgers.divided, or_assoc]
  apart := by
    intro other
    rw [Std.ExtTreeSet.contains_insert, Bool.or_eq_true]
    rintro (same | held) index bound
    · obtain rfl : requestId = other := by simpa using same
      intro earlier
      have held := (ledgers.listed requestId).mpr ⟨index, by omega, earlier⟩
      rw [unused] at held
      cases held
    · exact ledgers.apart other held index bound

end Script

end RustyFleet.KioskAdapter

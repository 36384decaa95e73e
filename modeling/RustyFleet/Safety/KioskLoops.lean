import RustyFleet.Safety.KioskPolls

namespace RustyFleet.KioskAdapter

open Attempt

variable (script : KioskScript) (request : KioskShowControlsRequest) (deadlineAtMs : Int)
  [OwnerEnvironment] (adapter : FleetKioskAdapter) (pairingKey : String)

section Turns

variable {poll : Nat} {session : KioskSession} {whole polls : BTreeSet String}

theorem pollOnce_drawn (reached : AtPoll poll session) (notBeforeMs : Int) (used : BTreeSet String)
    {requestId : String} (issued : PollIssued script request deadlineAtMs poll requestId) :
    pollOnce script adapter pairingKey request deadlineAtMs notBeforeMs used session =
      if used.contains requestId then (.error .duplicateTransportRequestId, session.drawn)
      else
        match answerPoll script adapter pairingKey request deadlineAtMs requestId session.drawn with
        | (.error error, last) => (.error error, last)
        | (.ok answer, last) => (.ok (answer, used.insert requestId), last) := by
  have drawn := (drawPoll_runs script request deadlineAtMs reached notBeforeMs requestId _).mpr ⟨issued, rfl⟩
  have polled := pollOnce_eq script adapter pairingKey request deadlineAtMs notBeforeMs used session
  rw [drawn] at polled
  exact polled

theorem pollOnce_undrawn (reached : AtPoll poll session) (notBeforeMs : Int)
    (none : ∀ requestId, ¬ PollIssued script request deadlineAtMs poll requestId) :
    ∃ error later, drawPoll script request deadlineAtMs notBeforeMs session = (.error error, later) ∧
      ∀ used, pollOnce script adapter pairingKey request deadlineAtMs notBeforeMs used session =
        (.error error, later) := by
  cases drawn : drawPoll script request deadlineAtMs notBeforeMs session with
  | mk outcome later =>
    cases outcome with
    | ok requestId =>
      have issued := ((drawPoll_runs script request deadlineAtMs reached notBeforeMs requestId _).mp drawn).1
      exact absurd issued (none requestId)
    | error error =>
      refine ⟨error, later, rfl, fun used => ?_⟩
      rw [pollOnce_eq, drawn]

theorem pollOnce_unfinished (reached : AtPoll poll session) (ledgers : Ledgers script poll whole polls)
    (unfinished : Unfinished script request deadlineAtMs adapter pairingKey poll) (notBeforeMs : Int) :
    ∃ requestId next later, AtPoll (poll + 1) later ∧ session.exchanges <+: later.exchanges ∧
      Ledgers script (poll + 1) (whole.insert requestId) (polls.insert requestId) ∧
      pollOnce script adapter pairingKey request deadlineAtMs notBeforeMs whole session =
        (.ok (.pending next, whole.insert requestId), later) ∧
      pollOnce script adapter pairingKey request deadlineAtMs notBeforeMs polls session =
        (.ok (.pending next, polls.insert requestId), later) := by
  obtain ⟨requestId, next, issued, unused, pends⟩ := unfinished
  have free : whole.contains requestId = false := by
    rw [Bool.eq_false_iff]
    intro held
    obtain ⟨index, bound, earlier⟩ := (ledgers.listed requestId).mp held
    exact unused index bound earlier
  have freePolls : polls.contains requestId = false := by
    rw [Bool.eq_false_iff] at free ⊢
    exact fun held => free ((ledgers.divided requestId).mpr (.inl held))
  have pending := (answerPoll_pends script request deadlineAtMs adapter pairingKey reached requestId next).mpr
    pends
  rcases answerPoll_cases script adapter pairingKey request deadlineAtMs requestId session.drawn with
    ⟨error, _, unsent⟩ | ⟨entry, outcome, _, _, _, sent⟩
  · rw [unsent] at pending
    cases pending
  · have answered : outcome = .ok (.pending next) := by
      rw [sent] at pending
      exact pending
    subst answered
    refine ⟨requestId, next, session.drawn.sent entry, reached.next entry, List.prefix_append _ _,
      ledgers.next script issued.issued free, ?_, ?_⟩
    · rw [pollOnce_drawn script request deadlineAtMs adapter pairingKey reached notBeforeMs whole issued, free,
        sent]
      rfl
    · rw [pollOnce_drawn script request deadlineAtMs adapter pairingKey reached notBeforeMs polls issued,
        freePolls, sent]
      rfl

end Turns

section Loops

omit [OwnerEnvironment] in
theorem replayed {exchanges later : List KioskExchange} {first entry : KioskExchange}
    (listed : first ∈ exchanges) (same : first.transportRequestId = entry.transportRequestId)
    (accepted : entry.accepted = true) (grown : exchanges ++ [entry] <+: later) : ¬ NoReplay later := by
  intro replayFree
  have within := List.Pairwise.sublist grown.sublist replayFree
  have differ := (List.pairwise_append.mp within).2.2 first listed entry (List.mem_singleton.mpr rfl) accepted
  exact differ same

theorem loops_agree (polls pollIndex : Nat) (notBeforeMs : Int) {poll : Nat} {session : KioskSession}
    {whole own : BTreeSet String} (reached : AtPoll poll session) (ledgers : Ledgers script poll whole own)
    (fresh : ∀ later, poll ≤ later → later < poll + polls →
      (∀ earlier, poll ≤ earlier → earlier < later →
        Unfinished script request deadlineAtMs adapter pairingKey earlier) →
      ¬ IssuedAgain script request deadlineAtMs later) :
    pollResults script adapter pairingKey request deadlineAtMs polls pollIndex notBeforeMs whole session =
      pollResults script adapter pairingKey request deadlineAtMs polls pollIndex notBeforeMs own session := by
  induction polls generalizing pollIndex notBeforeMs poll session whole own with
  | zero => rfl
  | succ polls ih =>
    rw [pollResults, pollResults, bind_apply, bind_apply]
    by_cases unfinished : Unfinished script request deadlineAtMs adapter pairingKey poll
    · obtain ⟨requestId, next, later, reachedNext, _, ledgersNext, first, second⟩ :=
        pollOnce_unfinished script request deadlineAtMs adapter pairingKey reached ledgers unfinished notBeforeMs
      rw [first, second]
      apply ih _ _ reachedNext ledgersNext
      intro last least most between
      apply fresh last (by omega) (by omega)
      intro earlier from_ before
      by_cases same : earlier = poll
      · rw [same]
        exact unfinished
      · exact between earlier (by omega) before
    · by_cases drawn : ∃ requestId, PollIssued script request deadlineAtMs poll requestId
      · obtain ⟨requestId, issued⟩ := drawn
        have notAgain : ¬ ∃ index < 2, script.requestIds index = .ok requestId := by
          intro again
          exact fresh poll (Nat.le_refl _) (by omega) (fun _ least before => absurd before (by omega))
            ⟨requestId, issued, again⟩
        have same : whole.contains requestId = own.contains requestId := by
          rw [Bool.eq_iff_iff, ledgers.divided]
          exact ⟨fun held => held.resolve_right notAgain, .inl⟩
        rw [pollOnce_drawn script request deadlineAtMs adapter pairingKey reached notBeforeMs whole issued,
          pollOnce_drawn script request deadlineAtMs adapter pairingKey reached notBeforeMs own issued, same]
        by_cases held : own.contains requestId = true
        · rw [if_pos held, if_pos held]
        · rw [if_neg held, if_neg held]
          cases answered : answerPoll script adapter pairingKey request deadlineAtMs requestId session.drawn with
          | mk outcome last =>
            cases outcome with
            | error error => rfl
            | ok answer =>
              cases answer with
              | effective receipt evidence => rfl
              | pending next =>
                have pends := (answerPoll_pends script request deadlineAtMs adapter pairingKey reached requestId
                  next).mp (congrArg Prod.fst answered)
                refine absurd ⟨requestId, next, issued, fun index bound earlier => ?_, pends⟩ unfinished
                rw [Bool.not_eq_true, ← same, Bool.eq_false_iff] at held
                exact held ((ledgers.listed requestId).mpr ⟨index, bound, earlier⟩)
      · obtain ⟨error, later, _, failed⟩ := pollOnce_undrawn script request deadlineAtMs adapter pairingKey
          reached notBeforeMs (fun requestId issued => drawn ⟨requestId, issued⟩)
        rw [failed whole, failed own]

theorem loops_part (polls pollIndex : Nat) (notBeforeMs : Int) {poll : Nat} {session : KioskSession}
    {whole own : BTreeSet String} (reached : AtPoll poll session) (ledgers : Ledgers script poll whole own)
    (sent : ∀ index < 2, ∀ requestId, script.requestIds index = .ok requestId →
      ∃ entry ∈ session.exchanges, entry.transportRequestId = requestId)
    {again : Nat} (least : poll ≤ again) (most : again < poll + polls)
    (before : ∀ earlier, poll ≤ earlier → earlier < again →
      Unfinished script request deadlineAtMs adapter pairingKey earlier)
    (reissued : IssuedAgain script request deadlineAtMs again) :
    (pollResults script adapter pairingKey request deadlineAtMs polls pollIndex notBeforeMs whole session).1 =
        .error .duplicateTransportRequestId ∧
      ((pollResults script adapter pairingKey request deadlineAtMs polls pollIndex notBeforeMs own session).1 ≠
          .error .duplicateTransportRequestId ∨
        ¬ NoReplay (pollResults script adapter pairingKey request deadlineAtMs polls pollIndex notBeforeMs own
          session).2.exchanges) := by
  induction polls generalizing pollIndex notBeforeMs poll session whole own with
  | zero => exact absurd most (by omega)
  | succ polls ih =>
    rw [pollResults, pollResults, bind_apply, bind_apply]
    by_cases here : again = poll
    · subst here
      obtain ⟨requestId, issued, index, bound, earlier⟩ := reissued
      have held : whole.contains requestId = true :=
        (ledgers.divided requestId).mpr (.inr ⟨index, bound, earlier⟩)
      have free : own.contains requestId = false := by
        rw [Bool.eq_false_iff]
        exact fun listed => ledgers.apart requestId listed index bound earlier
      rw [pollOnce_drawn script request deadlineAtMs adapter pairingKey reached notBeforeMs whole issued,
        pollOnce_drawn script request deadlineAtMs adapter pairingKey reached notBeforeMs own issued, held,
        free]
      refine ⟨rfl, ?_⟩
      simp only [Bool.false_eq_true, if_false]
      rcases answerPoll_cases script adapter pairingKey request deadlineAtMs requestId session.drawn with
        ⟨error, differ, unsent⟩ | ⟨entry, outcome, named, avoids, accepted, answered⟩
      · left
        rw [unsent]
        exact fun same => differ (Except.error.inj same)
      · rw [answered]
        rcases accepted with accepted | ⟨error, failed⟩
        · right
          obtain ⟨first, listed, firstNamed⟩ := sent index bound requestId earlier
          have same : first.transportRequestId = entry.transportRequestId := firstNamed.trans named.symm
          apply replayed listed same accepted
          cases outcome with
          | error error => exact List.prefix_refl _
          | ok answer =>
            cases answer with
            | effective receipt evidence => exact List.prefix_refl _
            | pending next =>
              exact pollResults_grows script adapter pairingKey request deadlineAtMs polls (pollIndex + 1) next
                (own.insert requestId) (session.drawn.sent entry)
        · left
          subst failed
          exact fun same => avoids (congrArg Except.error (Except.error.inj same))
    · have unfinished := before poll (Nat.le_refl _) (by omega)
      obtain ⟨requestId, next, later, reachedNext, grown, ledgersNext, first, second⟩ :=
        pollOnce_unfinished script request deadlineAtMs adapter pairingKey reached ledgers unfinished notBeforeMs
      rw [first, second]
      apply ih _ _ reachedNext ledgersNext
      · intro index bound requestId earlier
        obtain ⟨entry, listed, named⟩ := sent index bound requestId earlier
        exact ⟨entry, grown.subset listed, named⟩
      · omega
      · omega
      · exact fun earlier from_ prior => before earlier (by omega) prior

/-- A poll finds the deadline passed: before or after its wait, when it is sent, or when it is answered. -/
inductive PollLate (poll : Nat) : Prop
  | looped (late : script.clock (4 + 3 * poll) > deadlineAtMs)
  | woken (onTime : script.clock (4 + 3 * poll) ≤ deadlineAtMs) (waited : script.waits poll = .ok ())
      (late : script.clock (5 + 3 * poll) > deadlineAtMs)
  | sent (requestId : String) (issued : PollIssued script request deadlineAtMs poll requestId)
      (unused : ∀ index < 2 + poll, script.requestIds index ≠ .ok requestId)
      (late : script.clock (6 + 3 * poll) > deadlineAtMs)
  | received (requestId signature : String) (response : KioskHttpResponse)
      (issued : PollIssued script request deadlineAtMs poll requestId)
      (unused : ∀ index < 2 + poll, script.requestIds index ≠ .ok requestId)
      (onTime : script.clock (6 + 3 * poll) ≤ deadlineAtMs)
      (signed : signRequest pairingKey HttpMethod.get.asStr (showControlsResultTarget request) requestId
        (script.clock (6 + 3 * poll) / 1000) (sha256Hex []) = .ok signature)
      (answered : script.responses (2 + poll) = .ok response) (late : ArrivesLate deadlineAtMs response)

omit [OwnerEnvironment] in
theorem drawPoll_late_iff {poll : Nat} {session : KioskSession} (reached : AtPoll poll session)
    (notBeforeMs : Int) :
    (drawPoll script request deadlineAtMs notBeforeMs session).1 = .error .deadlineExceeded ↔
      script.clock (4 + 3 * poll) > deadlineAtMs ∨
        script.clock (4 + 3 * poll) ≤ deadlineAtMs ∧ script.waits poll = .ok () ∧
          script.clock (5 + 3 * poll) > deadlineAtMs := by
  have second : 4 + 3 * poll + 1 = 5 + 3 * poll := by omega
  simp only [drawPoll, bind_apply, nowMs, lift, waitUntilMs, nextTransportRequestId, pure_apply, reached.readings,
    reached.waited, second]
  by_cases looped : script.clock (4 + 3 * poll) > deadlineAtMs
  · simp only [errorIf, if_pos looped]
    exact ⟨fun _ => .inl looped, fun _ => trivial⟩
  have onTime : script.clock (4 + 3 * poll) ≤ deadlineAtMs := Int.not_lt.mp looped
  rw [or_iff_right looped, and_iff_right onTime]
  simp only [errorIf, if_neg looped]
  cases script.waits poll with
  | error message => exact ⟨by rintro ⟨⟩, by rintro ⟨⟨⟩, _⟩⟩
  | ok done =>
    rw [and_iff_right rfl]
    simp only [transported, Except.mapError]
    by_cases woken : script.clock (5 + 3 * poll) > deadlineAtMs
    · simp only [if_pos woken]
      exact ⟨fun _ => woken, fun _ => trivial⟩
    simp only [if_neg woken]
    rw [iff_false_right woken]
    cases script.requestIds session.issued with
    | error message => rintro ⟨⟩
    | ok requestId =>
      simp only
      by_cases formed : ¬ isRequestId requestId = true
      · simp only [if_pos formed]
        rintro ⟨⟩
      simp only [if_neg formed]
      by_cases foreign : requestId = request.ownerActionRequestId
      · simp only [if_pos foreign]
        rintro ⟨⟩
      · simp only [if_neg foreign]
        rintro ⟨⟩

theorem answerPoll_late_iff {poll : Nat} {session : KioskSession} (reached : AtPoll poll session)
    (requestId : String) :
    (answerPoll script adapter pairingKey request deadlineAtMs requestId session.drawn).1 =
        .error .deadlineExceeded ↔
      script.clock (6 + 3 * poll) > deadlineAtMs ∨
        script.clock (6 + 3 * poll) ≤ deadlineAtMs ∧ ∃ signature response,
          signRequest pairingKey HttpMethod.get.asStr (showControlsResultTarget request) requestId
            (script.clock (6 + 3 * poll) / 1000) (sha256Hex []) = .ok signature ∧
          script.responses (2 + poll) = .ok response ∧ ArrivesLate deadlineAtMs response := by
  have reading : session.drawn.readings = 6 + 3 * poll := by
    show session.readings + 2 = _
    rw [reached.readings]
    omega
  have send : session.drawn.sends = 2 + poll := reached.sends
  simp only [answerPoll, sendSigned, bind_apply, nowMs, lift, reading]
  by_cases late : script.clock (6 + 3 * poll) > deadlineAtMs
  · simp only [errorIf, if_pos late]
    exact ⟨fun _ => .inl late, fun _ => trivial⟩
  have onTime : script.clock (6 + 3 * poll) ≤ deadlineAtMs := Int.not_lt.mp late
  rw [or_iff_right late, and_iff_right onTime]
  simp only [errorIf, if_neg late]
  cases signed : signRequest pairingKey HttpMethod.get.asStr (showControlsResultTarget request) requestId
      (script.clock (6 + 3 * poll) / 1000) (sha256Hex []) with
  | error error =>
    have avoids := avoids_signRequest pairingKey (.inl rfl) HttpMethod.get.asStr
      (showControlsResultTarget request) requestId (script.clock (6 + 3 * poll) / 1000) (sha256Hex [])
    rw [signed] at avoids
    constructor
    · intro failed
      have same : error = .deadlineExceeded := Except.error.inj failed
      exact absurd (congrArg Except.error same) avoids
    · rintro ⟨_, _, absent, _⟩
      cases absent
  | ok signature =>
    simp only [exchange, send]
    cases answered : script.responses (2 + poll) with
    | error message =>
      constructor
      · rintro ⟨⟩
      · rintro ⟨_, _, _, absent, _⟩
        cases absent
    | ok response =>
      have known : (∃ given arrived, (Except.ok signature : AdapterResult String) = .ok given ∧
          (Except.ok response : Except String KioskHttpResponse) = .ok arrived ∧
          ArrivesLate deadlineAtMs arrived) ↔ ArrivesLate deadlineAtMs response := by
        constructor
        · rintro ⟨_, _, _, same, arrives⟩
          cases same
          exact arrives
        · intro arrives
          exact ⟨signature, response, rfl, rfl, arrives⟩
      rw [known, ← accept_late_iff adapter pairingKey deadlineAtMs requestId response]
      have read := avoids_readResult adapter request (.inl rfl) requestId response
      cases accepted : acceptResponse adapter pairingKey requestId deadlineAtMs response with
      | error error =>
        simp only [transported, Except.mapError, bind, Except.bind, accepted, Except.error.injEq]
      | ok done =>
        simp only [transported, Except.mapError, bind, Except.bind, accepted, pure, Except.pure]
        constructor
        · intro failed
          exact absurd failed read
        · rintro ⟨⟩

section Lateness

variable {poll : Nat} {session : KioskSession} {whole own : BTreeSet String}

theorem pollOnce_late_iff (reached : AtPoll poll session) (ledgers : Ledgers script poll whole own)
    (notBeforeMs : Int) :
    (pollOnce script adapter pairingKey request deadlineAtMs notBeforeMs whole session).1 =
        .error .deadlineExceeded ↔ PollLate script request deadlineAtMs pairingKey poll := by
  have drawnLate := drawPoll_late_iff script request deadlineAtMs reached notBeforeMs
  by_cases drawn : ∃ requestId, PollIssued script request deadlineAtMs poll requestId
  · obtain ⟨requestId, issued⟩ := drawn
    have sameId : ∀ {other}, PollIssued script request deadlineAtMs poll other → other = requestId :=
      fun also => Except.ok.inj (also.issued.symm.trans issued.issued)
    have answeredLate := answerPoll_late_iff script request deadlineAtMs adapter pairingKey reached requestId
    have early : ¬ script.clock (4 + 3 * poll) > deadlineAtMs := Int.not_lt.mpr issued.looped
    have awake : ¬ script.clock (5 + 3 * poll) > deadlineAtMs := Int.not_lt.mpr issued.woken
    rw [pollOnce_drawn script request deadlineAtMs adapter pairingKey reached notBeforeMs whole issued]
    by_cases held : whole.contains requestId = true
    · rw [if_pos held]
      constructor
      · exact nofun
      · have used := (ledgers.listed requestId).mp held
        obtain ⟨index, bound, earlier⟩ := used
        intro late
        cases late with
        | looped late => exact absurd late early
        | woken _ _ late => exact absurd late awake
        | sent other also unused _ => exact absurd (sameId also ▸ earlier) (unused index bound)
        | received other _ _ also unused => exact absurd (sameId also ▸ earlier) (unused index bound)
    · rw [if_neg held]
      have unused : ∀ index < 2 + poll, script.requestIds index ≠ .ok requestId :=
        fun index bound earlier => held ((ledgers.listed requestId).mpr ⟨index, bound, earlier⟩)
      have answered : (match answerPoll script adapter pairingKey request deadlineAtMs requestId session.drawn with
          | (.error error, last) => ((.error error : AdapterResult (PollAnswer × BTreeSet String)), last)
          | (.ok answer, last) => (.ok (answer, whole.insert requestId), last)).1 = .error .deadlineExceeded ↔
          (answerPoll script adapter pairingKey request deadlineAtMs requestId session.drawn).1 =
            .error .deadlineExceeded := by
        rcases answerPoll script adapter pairingKey request deadlineAtMs requestId session.drawn with
          ⟨error | answer, last⟩
        · simp only [Except.error.injEq]
        · exact ⟨nofun, nofun⟩
      rw [answered, answeredLate]
      constructor
      · rintro (late | ⟨onTime, signature, response, signed, given, late⟩)
        · exact .sent requestId issued unused late
        · exact .received requestId signature response issued unused onTime signed given late
      · intro late
        cases late with
        | looped late => exact absurd late early
        | woken _ _ late => exact absurd late awake
        | sent other also _ late => exact .inl late
        | received other signature response also _ onTime signed given late =>
          rw [sameId also] at signed
          exact .inr ⟨onTime, signature, response, signed, given, late⟩
  · have undrawn := fun requestId issued => drawn ⟨requestId, issued⟩
    obtain ⟨error, later, failed, turns⟩ := pollOnce_undrawn script request deadlineAtMs adapter pairingKey
      reached notBeforeMs undrawn
    rw [failed] at drawnLate
    rw [turns whole, Except.error.injEq, ← Except.error.injEq (α := String), drawnLate]
    constructor
    · rintro (late | ⟨onTime, waited, late⟩)
      · exact .looped late
      · exact .woken onTime waited late
    · intro late
      cases late with
      | looped late => exact .inl late
      | woken onTime waited late => exact .inr ⟨onTime, waited, late⟩
      | sent other issued => exact absurd issued (undrawn other)
      | received other _ _ issued => exact absurd issued (undrawn other)

theorem unfinished_of_pending (reached : AtPoll poll session) (ledgers : Ledgers script poll whole own)
    {notBeforeMs next : Int} {used : BTreeSet String} {later : KioskSession}
    (pending : pollOnce script adapter pairingKey request deadlineAtMs notBeforeMs whole session =
      (.ok (.pending next, used), later)) :
    Unfinished script request deadlineAtMs adapter pairingKey poll := by
  by_cases drawn : ∃ requestId, PollIssued script request deadlineAtMs poll requestId
  · obtain ⟨requestId, issued⟩ := drawn
    rw [pollOnce_drawn script request deadlineAtMs adapter pairingKey reached notBeforeMs whole issued] at pending
    by_cases held : whole.contains requestId = true
    · rw [if_pos held] at pending
      cases pending
    · rw [if_neg held] at pending
      refine ⟨requestId, next, issued, fun index bound earlier => ?_, ?_⟩
      · exact held ((ledgers.listed requestId).mpr ⟨index, bound, earlier⟩)
      · apply (answerPoll_pends script request deadlineAtMs adapter pairingKey reached requestId next).mp
        revert pending
        rcases answerPoll script adapter pairingKey request deadlineAtMs requestId session.drawn with
          ⟨error | answer, last⟩
        · exact nofun
        · intro pending
          simp only [Prod.mk.injEq, Except.ok.injEq] at pending
          rw [pending.1.1]
  · obtain ⟨error, last, _, turns⟩ := pollOnce_undrawn script request deadlineAtMs adapter pairingKey
      reached notBeforeMs (fun requestId issued => drawn ⟨requestId, issued⟩)
    rw [turns whole] at pending
    cases pending

theorem loop_late_iff (polls pollIndex : Nat) (notBeforeMs : Int) (reached : AtPoll poll session)
    (ledgers : Ledgers script poll whole own) :
    (pollResults script adapter pairingKey request deadlineAtMs polls pollIndex notBeforeMs whole session).1 =
        .error .deadlineExceeded ↔
      ∃ last, poll ≤ last ∧ last < poll + polls ∧
        (∀ earlier, poll ≤ earlier → earlier < last →
          Unfinished script request deadlineAtMs adapter pairingKey earlier) ∧
        PollLate script request deadlineAtMs pairingKey last := by
  induction polls generalizing pollIndex notBeforeMs poll session whole own with
  | zero =>
    constructor
    · rintro ⟨⟩
    · rintro ⟨last, least, most, _⟩
      omega
  | succ polls ih =>
    have lateHere := pollOnce_late_iff script request deadlineAtMs adapter pairingKey reached ledgers notBeforeMs
    rw [pollResults, bind_apply]
    by_cases unfinished : Unfinished script request deadlineAtMs adapter pairingKey poll
    · obtain ⟨requestId, next, later, reachedNext, _, ledgersNext, first, _⟩ :=
        pollOnce_unfinished script request deadlineAtMs adapter pairingKey reached ledgers unfinished notBeforeMs
      rw [first] at lateHere
      rw [first]
      have notHere : ¬ PollLate script request deadlineAtMs pairingKey poll := by
        intro late
        cases lateHere.mpr late
      have later := ih (pollIndex + 1) next reachedNext ledgersNext
      refine later.trans ⟨?_, ?_⟩
      · rintro ⟨last, least, most, before, late⟩
        refine ⟨last, by omega, by omega, fun earlier from_ prior => ?_, late⟩
        by_cases same : earlier = poll
        · rw [same]
          exact unfinished
        · exact before earlier (by omega) prior
      · rintro ⟨last, least, most, before, late⟩
        have beyond : last ≠ poll := fun same => notHere (same ▸ late)
        exact ⟨last, by omega, by omega, fun earlier from_ prior => before earlier (by omega) prior, late⟩
    · have ends : (∃ last, poll ≤ last ∧ last < poll + (polls + 1) ∧
          (∀ earlier, poll ≤ earlier → earlier < last →
            Unfinished script request deadlineAtMs adapter pairingKey earlier) ∧
          PollLate script request deadlineAtMs pairingKey last) ↔
          PollLate script request deadlineAtMs pairingKey poll := by
        constructor
        · rintro ⟨last, least, most, before, late⟩
          by_cases same : last = poll
          · exact same ▸ late
          · exact absurd (before poll (Nat.le_refl _) (by omega)) unfinished
        · intro late
          exact ⟨poll, Nat.le_refl _, by omega, fun _ least before => absurd before (by omega), late⟩
      rw [ends, ← lateHere]
      cases turn : pollOnce script adapter pairingKey request deadlineAtMs notBeforeMs whole session with
      | mk outcome last =>
        rcases outcome with error | ⟨next | ⟨receipt, evidence⟩, used⟩
        · simp only [Except.error.injEq]
        · exact absurd (unfinished_of_pending script request deadlineAtMs adapter pairingKey reached ledgers turn)
            unfinished
        · exact ⟨by rintro ⟨⟩, by rintro ⟨⟩⟩

end Lateness

end Loops

end RustyFleet.KioskAdapter

import RustyFleet.Adapter.KioskShowControls
import RustyFleet.Safety.KioskSignatures

namespace RustyFleet.KioskAdapter

open Attempt

section Calls

variable {α β : Type}

def Avoids (error : AdapterError) (result : AdapterResult α) : Prop := result ≠ .error error

theorem avoids_bind {error : AdapterError} {first : AdapterResult α} {rest : α → AdapterResult β}
    (start : Avoids error first) (next : ∀ value, Avoids error (rest value)) : Avoids error (first >>= rest) := by
  intro failed
  cases first with
  | ok value => exact next value failed
  | error other => exact start (congrArg Except.error (Except.error.inj failed))

theorem avoids_ok (error : AdapterError) (value : α) : Avoids error (.ok value : AdapterResult α) := nofun

theorem avoids_error {error other : AdapterError} (differ : other ≠ error) :
    Avoids error (.error other : AdapterResult α) :=
  fun same => differ (Except.error.inj same)

theorem avoids_errorIf {error other : AdapterError} (differ : other ≠ error) (wrong : Prop)
    [Decidable wrong] : Avoids error (errorIf wrong other) := by
  unfold errorIf
  split
  · exact avoids_error differ
  · exact avoids_ok error ()

theorem avoids_orError {error other : AdapterError} (differ : other ≠ error) (value : Option α) :
    Avoids error (orError value other) := by
  cases value with
  | some value => exact avoids_ok error value
  | none => exact avoids_error differ

theorem avoids_requireHeader {error : AdapterError} (headers : BTreeMap String String) (expected : String)
    (differ : .missingResponseHeader expected ≠ error) : Avoids error (requireHeader headers expected) := by
  unfold requireHeader
  split
  · exact avoids_ok error _
  · exact avoids_error differ

theorem avoids_transported {error : AdapterError} (given : Except String α)
    (differ : ∀ message, .transport message ≠ error) : Avoids error (transported given) := by
  cases given with
  | ok value => exact avoids_ok error value
  | error message => exact avoids_error (differ message)

end Calls

section Steps

variable (script : KioskScript)

theorem nowMs_runs (session later : KioskSession) (value : Int) :
    nowMs script session = (.ok value, later) ↔
      value = script.clock session.readings ∧ later = { session with readings := session.readings + 1 } := by
  unfold nowMs
  rw [Prod.mk.injEq, Except.ok.injEq, eq_comm, eq_comm (b := later)]

theorem waitUntilMs_runs (notBeforeMs deadlineAtMs : Int) (session later : KioskSession) (done : Unit) :
    waitUntilMs script notBeforeMs deadlineAtMs session = (.ok done, later) ↔
      script.waits session.waited = .ok () ∧ later = { session with waited := session.waited + 1 } := by
  unfold waitUntilMs
  rw [Prod.mk.injEq, mapError_ok, eq_comm (b := later)]

theorem nextTransportRequestId_runs (session later : KioskSession) (requestId : String) :
    nextTransportRequestId script session = (.ok requestId, later) ↔
      script.requestIds session.issued = .ok requestId ∧ later = { session with issued := session.issued + 1 } := by
  unfold nextTransportRequestId
  rw [Prod.mk.injEq, mapError_ok, eq_comm (b := later)]

theorem nextTransportId_runs (owner : String) (used : BTreeSet String) (session later : KioskSession)
    (issued : String × BTreeSet String) :
    nextTransportId script owner used session = (.ok issued, later) ↔
      script.requestIds session.issued = .ok issued.1 ∧ isRequestId issued.1 = true ∧ issued.1 ≠ owner ∧
        used.contains issued.1 = false ∧ issued.2 = used.insert issued.1 ∧
        later = { session with issued := session.issued + 1 } := by
  obtain ⟨requestId, usedAfter⟩ := issued
  unfold nextTransportId
  simp only [bind_ran, nextTransportRequestId_runs, lift_ran, pure_ran, errorIf_ok, Prod.mk.injEq, not_or,
    Bool.not_eq_true, Bool.not_eq_false]
  constructor
  · rintro ⟨_, _, ⟨issued, rfl⟩, _, _, ⟨formed, rfl⟩, _, _, ⟨fresh, rfl⟩, ⟨rfl, rfl⟩, rfl⟩
    exact ⟨issued, formed, fresh.1, fresh.2, rfl, rfl⟩
  · rintro ⟨issued, formed, foreign, fresh, rfl, rfl⟩
    exact ⟨requestId, _, ⟨issued, rfl⟩, (), _, ⟨formed, rfl⟩, (), _, ⟨⟨foreign, fresh⟩, rfl⟩, ⟨rfl, rfl⟩, rfl⟩

variable [OwnerEnvironment] (adapter : FleetKioskAdapter) (pairingKey : String) (deadlineAtMs : Int)

/-- A signed request goes out at a clock reading not past the deadline, and its response is accepted. -/
structure Answered (reading send : Nat) (method : HttpMethod) (requestTarget : String) (body : Bytes)
    (transportRequestId : String) (response : KioskHttpResponse) : Prop where
  onTime : script.clock reading ≤ deadlineAtMs
  signed : ∃ signature, signRequest pairingKey method.asStr requestTarget transportRequestId
    (script.clock reading / 1000) (sha256Hex body) = .ok signature
  received : script.responses send = .ok response
  accepted : acceptResponse adapter pairingKey transportRequestId deadlineAtMs response = .ok ()

def KioskSession.sent (session : KioskSession) (entry : KioskExchange) : KioskSession :=
  { session with
    readings := session.readings + 1
    sends := session.sends + 1
    exchanges := session.exchanges ++ [entry] }

def OwnError (error : AdapterError) : Prop :=
  error = .deadlineExceeded ∨ error = .duplicateTransportRequestId

theorem avoids_signRequest {error : AdapterError} (own : OwnError error) (method target requestId : String)
    (timestamp : Int) (sha : String) :
    Avoids error (signRequest pairingKey method target requestId timestamp sha) := by
  unfold signRequest
  split
  · rcases own with rfl | rfl <;> exact avoids_error nofun
  · exact avoids_ok error _

theorem avoids_verify {error : AdapterError} (own : OwnError error) (requestId : String)
    (response : KioskHttpResponse) : Avoids error (verifySignedResponse pairingKey requestId response) := by
  have missing : ∀ expected, .missingResponseHeader expected ≠ error := by
    rcases own with rfl | rfl <;> exact fun _ => nofun
  have mismatched : .responseRequestIdMismatch ≠ error ∧ .responseDigestMismatch ≠ error ∧
      .responseSignatureMismatch ≠ error ∧ .invalidRequest ≠ error := by
    rcases own with rfl | rfl <;> decide
  have signing : ∀ sha, Avoids error (signResponse pairingKey requestId response.status sha) := by
    intro sha
    unfold signResponse
    split
    · exact avoids_error mismatched.2.2.2
    · exact avoids_ok error _
  apply avoids_bind (avoids_requireHeader _ _ (missing _)) fun _ => ?_
  apply avoids_bind (avoids_requireHeader _ _ (missing _)) fun _ => ?_
  apply avoids_bind (avoids_requireHeader _ _ (missing _)) fun _ => ?_
  apply avoids_bind (avoids_errorIf mismatched.1 _) fun _ => ?_
  apply avoids_bind (avoids_errorIf mismatched.2.1 _) fun _ => ?_
  apply avoids_bind (signing _) fun _ => ?_
  exact avoids_errorIf mismatched.2.2.1 _

theorem avoids_accept (transportRequestId : String) (response : KioskHttpResponse) :
    Avoids .duplicateTransportRequestId
      (acceptResponse adapter pairingKey transportRequestId deadlineAtMs response) := by
  apply avoids_bind (avoids_errorIf (by nofun) _) fun _ => ?_
  apply avoids_bind (avoids_errorIf (by nofun) _) fun _ => ?_
  apply avoids_bind (avoids_errorIf (by nofun) _) fun _ => ?_
  apply avoids_bind (avoids_verify pairingKey (.inr rfl) _ _) fun _ => ?_
  exact avoids_errorIf (by nofun) _

def ArrivesLate (response : KioskHttpResponse) : Prop :=
  ¬ (response.redirected ∨ (300 ≤ response.status ∧ response.status < 400)) ∧
    response.receivedAtMs > deadlineAtMs

theorem accept_late_iff (transportRequestId : String) (response : KioskHttpResponse) :
    acceptResponse adapter pairingKey transportRequestId deadlineAtMs response = .error .deadlineExceeded ↔
      ArrivesLate deadlineAtMs response := by
  have later : Avoids .deadlineExceeded (do
      errorIf (response.body.length > adapter.limits.maximumResponseBytes) .responseTooLarge
      verifySignedResponse pairingKey transportRequestId response
      errorIf (response.status ≠ 200) (.unexpectedHttpStatus response.status)) := by
    apply avoids_bind (avoids_errorIf (by rintro ⟨⟩) _) fun _ => ?_
    apply avoids_bind (avoids_verify pairingKey (.inl rfl) _ _) fun _ => ?_
    exact avoids_errorIf (by rintro ⟨⟩) _
  unfold acceptResponse ArrivesLate
  by_cases redirected : (response.redirected = true ∨ (300 ≤ response.status ∧ response.status < 400))
  · rw [errorIf, if_pos redirected]
    constructor
    · rintro ⟨⟩
    · intro late
      exact absurd redirected late.1
  · rw [errorIf, if_neg redirected]
    by_cases late : response.receivedAtMs > deadlineAtMs
    · rw [errorIf, if_pos late]
      exact ⟨fun _ => ⟨redirected, late⟩, fun _ => rfl⟩
    · rw [errorIf, if_neg late]
      constructor
      · intro failed
        exact absurd failed later
      · intro arrived
        exact absurd arrived.2 late

variable (endpoint : String) (method : HttpMethod) (requestTarget : String) (body : Bytes)
  (transportRequestId : String)

theorem sendSigned_cases (session : KioskSession) :
    (∃ error, error ≠ .duplicateTransportRequestId ∧
      sendSigned script adapter pairingKey endpoint method requestTarget body transportRequestId deadlineAtMs
        session = (.error error, { session with readings := session.readings + 1 })) ∨
    ∃ entry outcome, entry.transportRequestId = transportRequestId ∧ entry.accepted = outcome.isOk ∧
      Avoids .duplicateTransportRequestId outcome ∧
      sendSigned script adapter pairingKey endpoint method requestTarget body transportRequestId deadlineAtMs
        session = (outcome, session.sent entry) := by
  unfold sendSigned
  by_cases late : script.clock session.readings > deadlineAtMs
  · left
    refine ⟨.deadlineExceeded, by rintro ⟨⟩, ?_⟩
    simp only [bind_apply, nowMs, lift, errorIf, if_pos late]
  · cases signed : signRequest pairingKey method.asStr requestTarget transportRequestId
        (script.clock session.readings / 1000) (sha256Hex body) with
    | error error =>
      left
      refine ⟨error, fun same => ?_, ?_⟩
      · exact avoids_signRequest pairingKey (.inr rfl) _ _ _ _ _ (signed.trans (congrArg Except.error same))
      · simp only [bind_apply, nowMs, lift, errorIf, if_neg late, signed]
    | ok signature =>
      right
      simp only [bind_apply, nowMs, lift, errorIf, if_neg late, signed, exchange]
      refine ⟨_, _, rfl, rfl, ?_, rfl⟩
      apply avoids_bind (avoids_transported _ (by rintro message ⟨⟩)) fun response => ?_
      apply avoids_bind (avoids_accept _ _ _ _ _) fun _ => ?_
      exact avoids_ok _ _

theorem sendSigned_runs (session later : KioskSession) (response : KioskHttpResponse) :
    sendSigned script adapter pairingKey endpoint method requestTarget body transportRequestId deadlineAtMs
        session = (.ok response, later) ↔
      Answered script adapter pairingKey deadlineAtMs session.readings session.sends method requestTarget body
        transportRequestId response ∧
      later = (sendSigned script adapter pairingKey endpoint method requestTarget body transportRequestId
        deadlineAtMs session).2 := by
  constructor
  · intro ran
    refine ⟨?_, (congrArg Prod.snd ran).symm⟩
    unfold sendSigned at ran
    simp only [bind_ran, nowMs_runs, lift_ran, errorIf_ok, Int.not_lt, gt_iff_lt] at ran
    obtain ⟨_, _, ⟨rfl, rfl⟩, _, _, ⟨onTime, rfl⟩, signature, _, ⟨signed, rfl⟩, answered⟩ := ran
    have outcome := congrArg Prod.fst answered
    simp only [exchange, exceptBind_ok, mapError_ok] at outcome
    obtain ⟨given, received, _, accepted, same⟩ := outcome
    obtain rfl : given = response := Except.ok.inj same
    exact ⟨onTime, ⟨signature, signed⟩, received, accepted⟩
  · rintro ⟨answered, rfl⟩
    obtain ⟨signature, signed⟩ := answered.signed
    have onTime : ¬ script.clock session.readings > deadlineAtMs := Int.not_lt.mpr answered.onTime
    have outcome : (sendSigned script adapter pairingKey endpoint method requestTarget body transportRequestId
        deadlineAtMs session).1 = .ok response := by
      simp only [sendSigned, bind_apply, nowMs, lift, errorIf, if_neg onTime, signed, exchange,
        answered.received, transported]
      show (acceptResponse adapter pairingKey transportRequestId deadlineAtMs response >>= _) = _
      rw [answered.accepted]
      rfl
    exact Prod.ext outcome rfl

end Steps

end RustyFleet.KioskAdapter

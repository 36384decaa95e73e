import RustyFleet.Adapter.QuestAwake

namespace RustyFleet

namespace QuestAwakeAdapter

section Steps

variable {α β : Type} {first : AdapterResult α} {next : α → AdapterResult β}

theorem answerBind_panics : (first >>= next) = .error .panicked ↔
    first = .error .panicked ∨ ∃ value, first = .ok value ∧ next value = .error .panicked := by
  cases first with
  | error fault =>
    constructor
    · intro stopped
      exact .inl (congrArg Except.error (Except.error.inj stopped))
    · rintro (stopped | ⟨value, returned, -⟩)
      · exact congrArg Except.error (Except.error.inj stopped)
      · cases returned
  | ok value =>
    constructor
    · exact fun stopped => .inr ⟨value, rfl, stopped⟩
    · rintro (stopped | ⟨_, ⟨⟩, stopped⟩)
      · cases stopped
      · exact stopped

theorem refuseIf_survives {condition : Prop} [Decidable condition] {code message : String} :
    refuseIf condition code message ≠ .error .panicked := by
  unfold refuseIf errorIf
  split <;> simp

theorem orRefuse_survives {code text : String} {value : Except String α} :
    orRefuse code text value ≠ .error .panicked := by
  cases value <;> simp [orRefuse, Except.mapError]

end Steps

section Cuts

def utf8Length (text : List Char) : Nat := (text.map Char.utf8Size).sum

def CutsWhole (value : String) (maximum : Nat) : Prop :=
  utf8Length value.toList ≤ maximum ∨ ∃ front back, value.toList = front ++ back ∧ utf8Length front = maximum

theorem bytePrefix_some (text : List Char) (bytes : Nat) :
    (∃ kept, bytePrefix text bytes = some kept) ↔
      utf8Length text ≤ bytes ∨ ∃ front back, text = front ++ back ∧ utf8Length front = bytes := by
  induction text generalizing bytes with
  | nil =>
    refine iff_of_true ?_ (.inl (Nat.zero_le _))
    cases bytes <;> exact ⟨[], rfl⟩
  | cons c rest ih =>
    have positive := c.utf8Size_pos
    have length : ∀ tail, utf8Length (c :: tail) = c.utf8Size + utf8Length tail := fun _ => rfl
    cases bytes with
    | zero => exact iff_of_true ⟨[], rfl⟩ (.inr ⟨[], c :: rest, rfl, rfl⟩)
    | succ bytes =>
      rw [bytePrefix, length]
      by_cases fits : c.utf8Size ≤ bytes + 1
      · rw [if_pos fits]
        have inner : (∃ kept, (bytePrefix rest (bytes + 1 - c.utf8Size)).map (c :: ·) = some kept) ↔
            ∃ kept, bytePrefix rest (bytes + 1 - c.utf8Size) = some kept := by
          simp only [Option.map_eq_some_iff]
          constructor
          · rintro ⟨_, kept, found, -⟩
            exact ⟨kept, found⟩
          · rintro ⟨kept, found⟩
            exact ⟨_, kept, found, rfl⟩
        rw [inner, ih]
        constructor
        · rintro (short | ⟨front, back, split, counted⟩)
          · exact .inl (by omega)
          · exact .inr ⟨c :: front, back, by rw [split]; rfl, by rw [length]; omega⟩
        · rintro (short | ⟨front, back, split, counted⟩)
          · exact .inl (by omega)
          · cases front with
            | nil => cases counted
            | cons first front =>
              obtain ⟨rfl, tails⟩ := List.cons.inj split
              rw [length] at counted
              exact .inr ⟨front, back, tails, by omega⟩
      · rw [if_neg fits]
        apply iff_of_false
        · rintro ⟨kept, none⟩
          cases none
        · rintro (short | ⟨front, back, split, counted⟩)
          · omega
          · cases front with
            | nil => cases counted
            | cons first front =>
              obtain ⟨rfl, -⟩ := List.cons.inj split
              rw [length] at counted
              omega

theorem bound_returns (value : String) (maximum : Nat) :
    (∃ kept, bound value maximum = .ok kept) ↔ CutsWhole value maximum := by
  unfold CutsWhole
  rw [← bytePrefix_some]
  unfold bound
  cases bytePrefix value.toList maximum <;> simp

theorem bound_panics (value : String) (maximum : Nat) :
    bound value maximum = .error .panicked ↔ ¬ CutsWhole value maximum := by
  rw [← bound_returns]
  unfold bound
  cases bytePrefix value.toList maximum <;> simp

theorem bound_then_panics {α : Type} {value : String} {maximum : Nat} {next : String → AdapterResult α}
    {whole : Prop} (later : ∀ kept, next kept = .error .panicked ↔ ¬ whole) :
    (bound value maximum >>= next) = .error .panicked ↔ ¬ (CutsWhole value maximum ∧ whole) := by
  rw [answerBind_panics, bound_panics]
  by_cases cut : CutsWhole value maximum
  · obtain ⟨kept, returned⟩ := (bound_returns value maximum).mpr cut
    rw [or_iff_right (not_not.mpr cut), and_iff_right cut]
    constructor
    · rintro ⟨other, -, stopped⟩
      exact (later other).mp stopped
    · exact fun broken => ⟨kept, returned, (later kept).mpr broken⟩
  · exact iff_of_true (.inl cut) fun both => cut both.1

theorem bound_then_unrefused {α : Type} {value : String} {maximum : Nat} {next : String → AdapterResult α}
    {error : QuestAwakeAdapterError} (later : ∀ kept, next kept ≠ .error (.refused error)) :
    (bound value maximum >>= next) ≠ .error (.refused error) := by
  cases outcome : bound value maximum with
  | ok kept => exact later kept
  | error fault =>
    unfold bound at outcome
    cases found : bytePrefix value.toList maximum with
    | none =>
      rw [found] at outcome
      cases outcome
      nofun
    | some kept =>
      rw [found] at outcome
      cases outcome

end Cuts

section Survival

variable [AwakeEnvironment] (invocation : QuestAwakeOwnerInvocation)

/-- The window that repeats the Windows watchdog stays in the `i64` range. -/
def ClockSurvives (serial : String) : Prop :=
  questAwakeFamily.invocationViolations invocation = [] → serialInvalid serial = false →
    invocation.action = .startWindowsWatchdog → ∀ current, AwakeEnvironment.clockMs = .ok current →
      (current : Int) ≤ i64Max → (current : Int) + 60000 ≤ i64Max

structure ReceiptSurvives (provider : ProviderReceipt) : Prop where
  wakefulness : CutsWhole provider.powerReadback.wakefulness 128
  displayState : CutsWhole provider.powerReadback.displayState 128
  proximityState : CutsWhole provider.powerReadback.proximityState 128
  generation : CutsWhole provider.deviceWatchdog.generation 256
  lastAction : CutsWhole provider.deviceWatchdog.lastAction 256
  lastError : CutsWhole provider.deviceWatchdog.lastError 512
  poll : provider.deviceWatchdog.reportedActive = true → provider.deviceWatchdog.fresh = true →
    bound provider.deviceWatchdog.generation 256 = .ok provider.watchdogGeneration →
    provider.deviceWatchdog.intervalMilliseconds = provider.requestedWatchdogIntervalMilliseconds →
    0 < provider.deviceWatchdog.lastPollUnixMilliseconds →
      provider.observedAtUnixMilliseconds + 30000 ≤ i64Max

structure Usable (response : ProviderResponse) (provider : ProviderReceipt) : Prop where
  contract : response.contractVersion = questAwakeProviderContract
  receipt : response.receipt = some provider
  bound : ¬ bindingMismatch invocation provider
  status : response.status = "verified" ∨ response.status = "pending"
  boot : bootIdentityInvalid provider.deviceWatchdog.bootId = false

/-- An answer that decodes to a usable response has its texts and times in order. -/
def AnswerSurvives (serial : String) : Prop :=
  ∀ output response provider, requestProvider invocation serial = .ok output →
    AwakeEnvironment.decodeResponse output = .ok response → Usable invocation response provider →
      ReceiptSurvives provider

omit [AwakeEnvironment] in
theorem providerReceipt_ok {response : ProviderResponse} {provider : ProviderReceipt} :
    providerReceipt invocation response = .ok provider ↔ Usable invocation response provider := by
  have receipts : ∀ other, receiptOf response = .ok other ↔ response.receipt = some other := by
    intro other
    unfold receiptOf refuse
    cases response.receipt <;> simp
  unfold providerReceipt
  simp only [exceptBind_ok, errorIf_ok, not_not, receipts]
  constructor
  · rintro ⟨-, version, _, found, -, bound, -, status, -, boot, ⟨⟩⟩
    exact ⟨version, found, bound, status, Bool.eq_false_iff.mpr boot⟩
  · rintro ⟨version, found, bound, status, boot⟩
    exact ⟨(), version, provider, found, (), bound, (), status, (), Bool.eq_false_iff.mp boot, rfl⟩

theorem requestWindow_panics : requestWindow invocation = .error .panicked ↔
    invocation.action = .startWindowsWatchdog ∧ ∃ current : Nat, AwakeEnvironment.clockMs = .ok current ∧
      (current : Int) ≤ i64Max ∧ i64Max < (current : Int) + 60000 := by
  unfold requestWindow
  by_cases repeats : invocation.action = .startWindowsWatchdog
  · rw [if_pos repeats, answerBind_panics, or_iff_right orRefuse_survives, and_iff_right repeats]
    apply exists_congr
    intro current
    rw [mapError_ok]
    apply and_congr_right
    intro _
    by_cases late : (current : Int) > i64Max
    · rw [if_pos late]
      apply iff_of_false
      · unfold refuse
        simp
      · omega
    · rw [if_neg late]
      by_cases overflows : (current : Int) + 60000 > i64Max
      · rw [if_pos overflows]
        exact iff_of_true rfl (by omega)
      · rw [if_neg overflows]
        apply iff_of_false
        · nofun
        · omega
  · rw [if_neg repeats]
    apply iff_of_false
    · nofun
    · exact fun both => repeats both.1

theorem exchange_survives (serial : String) (window : Int × Int) :
    exchange invocation serial window ≠ .error .panicked := by
  have transported : ∀ answer : Except QuestAwakeAdapterError (List UInt8),
      answer.mapError AdapterFault.refused ≠ .error .panicked := by
    intro answer
    cases answer <;> simp [Except.mapError]
  have staged : uniqueStageId invocation.requestId ≠ .error .panicked := by
    unfold uniqueStageId
    rw [Ne, answerBind_panics, or_iff_right orRefuse_survives]
    rintro ⟨nonce, -, stopped⟩
    cases stopped
  unfold exchange
  rw [Ne, answerBind_panics, or_iff_right orRefuse_survives]
  rintro ⟨requestJson, -, stopped⟩
  rw [answerBind_panics, or_iff_right staged] at stopped
  obtain ⟨stageId, -, stopped⟩ := stopped
  rw [answerBind_panics, or_iff_right (transported _)] at stopped
  obtain ⟨output, -, stopped⟩ := stopped
  rw [answerBind_panics, or_iff_right refuseIf_survives] at stopped
  obtain ⟨-, -, stopped⟩ := stopped
  cases stopped

theorem requestProvider_panics (serial : String) :
    requestProvider invocation serial = .error .panicked ↔ ¬ ClockSurvives invocation serial := by
  have windowed : (requestWindow invocation >>= exchange invocation serial) = .error .panicked ↔
      requestWindow invocation = .error .panicked := by
    rw [answerBind_panics]
    apply or_iff_left
    rintro ⟨window, -, stopped⟩
    exact exchange_survives invocation serial window stopped
  unfold requestProvider ClockSurvives
  dsimp only
  rw [answerBind_panics, or_iff_right refuseIf_survives]
  simp only [errorIf_ok, not_not]
  constructor
  · rintro ⟨-, valid, stopped⟩ survives
    rw [answerBind_panics, or_iff_right refuseIf_survives] at stopped
    obtain ⟨_, serialValid, stopped⟩ := stopped
    rw [errorIf_ok, Bool.not_eq_true] at serialValid
    obtain ⟨repeats, current, read, represented, overflows⟩ :=
      (requestWindow_panics invocation).mp (windowed.mp stopped)
    have fits := survives valid serialValid repeats current read represented
    omega
  · intro stops
    simp only [Classical.not_imp, not_forall] at stops
    obtain ⟨valid, serialValid, repeats, current, read, represented, overflows⟩ := stops
    refine ⟨(), valid, ?_⟩
    rw [answerBind_panics, or_iff_right refuseIf_survives]
    refine ⟨(), (errorIf_ok _ _ _).mpr (Bool.eq_false_iff.mp serialValid), ?_⟩
    exact windowed.mpr ((requestWindow_panics invocation).mpr
      ⟨repeats, current, read, represented, Int.not_le.mp overflows⟩)

theorem ownerReceipt_panics (provider : ProviderReceipt) (windowsWatchdogEffective : Bool) :
    ownerReceipt invocation provider windowsWatchdogEffective = .error .panicked ↔
      ¬ (CutsWhole provider.powerReadback.wakefulness 128 ∧ CutsWhole provider.powerReadback.displayState 128 ∧
        CutsWhole provider.powerReadback.proximityState 128 ∧
        CutsWhole provider.deviceWatchdog.generation 256 ∧ CutsWhole provider.deviceWatchdog.lastAction 256 ∧
        CutsWhole provider.deviceWatchdog.lastError 512) := by
  unfold ownerReceipt
  dsimp only
  apply bound_then_panics
  intro wakefulness
  apply bound_then_panics
  intro displayState
  apply bound_then_panics
  intro proximityState
  apply bound_then_panics
  intro generation
  apply bound_then_panics
  intro lastAction
  rw [← and_true (CutsWhole provider.deviceWatchdog.lastError 512)]
  apply bound_then_panics
  intro lastError
  exact iff_of_false (by nofun) (not_not.mpr trivial)

theorem ownerReceipt_unrefused (provider : ProviderReceipt) (windowsWatchdogEffective : Bool)
    (error : QuestAwakeAdapterError) :
    ownerReceipt invocation provider windowsWatchdogEffective ≠ .error (.refused error) := by
  unfold ownerReceipt
  dsimp only
  apply bound_then_unrefused
  intro wakefulness
  apply bound_then_unrefused
  intro displayState
  apply bound_then_unrefused
  intro proximityState
  apply bound_then_unrefused
  intro generation
  apply bound_then_unrefused
  intro lastAction
  apply bound_then_unrefused
  intro lastError
  nofun

structure Assembled (provider : ProviderReceipt) (receipt : QuestAwakeOwnerReceipt) : Prop where
  requestId : receipt.requestId = provider.requestId
  operationId : receipt.operationId = provider.operationId
  previewId : receipt.previewId = provider.previewId
  deviceId : receipt.deviceId = provider.deviceId
  identityRevision : receipt.identityRevision = provider.identityRevision
  action : receipt.action = invocation.action
  watchdogGeneration : receipt.watchdogGeneration = provider.watchdogGeneration
  duration : receipt.requestedDurationMs = provider.requestedDurationMilliseconds
  interval : receipt.requestedWatchdogIntervalMs = provider.requestedWatchdogIntervalMilliseconds
  effective : receipt.effective = receipt.derivedEffective
  reportedActive : receipt.deviceWatchdog.reportedActive = provider.deviceWatchdog.reportedActive
  fresh : receipt.deviceWatchdog.fresh = provider.deviceWatchdog.fresh
  generation : bound provider.deviceWatchdog.generation 256 = .ok receipt.deviceWatchdog.generation
  watchdogInterval : receipt.deviceWatchdog.intervalMs = provider.deviceWatchdog.intervalMilliseconds
  lastPoll : receipt.deviceWatchdog.lastPollMs = provider.deviceWatchdog.lastPollUnixMilliseconds
  observed : receipt.observedAtMs = provider.observedAtUnixMilliseconds

theorem ownerReceipt_assembled {provider : ProviderReceipt} {windowsWatchdogEffective : Bool}
    {receipt : QuestAwakeOwnerReceipt}
    (assembled : ownerReceipt invocation provider windowsWatchdogEffective = .ok receipt) :
    Assembled invocation provider receipt := by
  unfold ownerReceipt at assembled
  dsimp only at assembled
  rw [exceptBind_ok] at assembled
  obtain ⟨wakefulness, -, assembled⟩ := assembled
  rw [exceptBind_ok] at assembled
  obtain ⟨displayState, -, assembled⟩ := assembled
  rw [exceptBind_ok] at assembled
  obtain ⟨proximityState, -, assembled⟩ := assembled
  rw [exceptBind_ok] at assembled
  obtain ⟨generation, generationBound, assembled⟩ := assembled
  rw [exceptBind_ok] at assembled
  obtain ⟨lastAction, -, assembled⟩ := assembled
  rw [exceptBind_ok] at assembled
  obtain ⟨lastError, -, assembled⟩ := assembled
  obtain rfl := Except.ok.inj assembled
  exact ⟨rfl, rfl, rfl, rfl, rfl, rfl, rfl, rfl, rfl, rfl, rfl, rfl, generationBound, rfl, rfl, rfl⟩

omit [AwakeEnvironment] in
theorem overflows_iff {provider : ProviderReceipt} {receipt : QuestAwakeOwnerReceipt}
    (assembled : Assembled invocation provider receipt) :
    receipt.validationOverflows = true ↔
      provider.deviceWatchdog.reportedActive = true ∧ provider.deviceWatchdog.fresh = true ∧
        bound provider.deviceWatchdog.generation 256 = .ok provider.watchdogGeneration ∧
        provider.deviceWatchdog.intervalMilliseconds = provider.requestedWatchdogIntervalMilliseconds ∧
        0 < provider.deviceWatchdog.lastPollUnixMilliseconds ∧
        i64Max < provider.observedAtUnixMilliseconds + 30000 := by
  unfold QuestAwakeOwnerReceipt.validationOverflows QuestAwakeOwnerReceipt.watchdogIdentified
  rw [assembled.reportedActive, assembled.fresh, assembled.watchdogInterval, assembled.interval, assembled.lastPoll,
    assembled.observed, assembled.watchdogGeneration, assembled.generation]
  simp only [Bool.and_eq_true, decide_eq_true_eq, beq_iff_eq, Except.ok.injEq, and_assoc, gt_iff_lt]

theorem concludeReceipt_panics (response : ProviderResponse) (provider : ProviderReceipt)
    (windowsWatchdogEffective : Bool) :
    concludeReceipt invocation response provider windowsWatchdogEffective = .error .panicked ↔
      ¬ ReceiptSurvives provider := by
  have last : ∀ receipt, ¬ (do
      refuseIf (provider.effective ≠ receipt.effective) "provider_effect_mismatch"
        "Quest awake provider effect summary contradicts the independent readbacks"
      refuseIf ((response.status == "verified") ≠ receipt.effective) "provider_optimistic_success"
        "Quest awake provider status contradicts the required independent readbacks"
      return receipt : AdapterResult QuestAwakeOwnerReceipt) = .error .panicked := by
    intro receipt
    rw [answerBind_panics, or_iff_right refuseIf_survives]
    rintro ⟨-, -, stopped⟩
    rw [answerBind_panics, or_iff_right refuseIf_survives] at stopped
    obtain ⟨-, -, stopped⟩ := stopped
    cases stopped
  have validated : ∀ receipt, validateReceipt receipt = .error .panicked ↔
      receipt.validationOverflows = true := by
    intro receipt
    unfold validateReceipt
    by_cases overflows : receipt.validationOverflows = true
    · rw [if_pos overflows]
      exact iff_of_true rfl overflows
    · rw [if_neg overflows]
      exact iff_of_false refuseIf_survives overflows
  unfold concludeReceipt
  rw [answerBind_panics, ownerReceipt_panics]
  constructor
  · rintro (cut | ⟨receipt, assembled, stopped⟩) survives
    · exact cut ⟨survives.wakefulness, survives.displayState, survives.proximityState, survives.generation,
        survives.lastAction, survives.lastError⟩
    · rw [answerBind_panics, validated] at stopped
      rcases stopped with overflows | ⟨-, -, stopped⟩
      · obtain ⟨active, fresh, generation, interval, poll, overflow⟩ :=
          (overflows_iff invocation (ownerReceipt_assembled invocation assembled)).mp overflows
        have fits := survives.poll active fresh generation interval poll
        omega
      · exact last receipt stopped
  · intro broken
    by_cases cuts : CutsWhole provider.powerReadback.wakefulness 128 ∧
        CutsWhole provider.powerReadback.displayState 128 ∧ CutsWhole provider.powerReadback.proximityState 128 ∧
        CutsWhole provider.deviceWatchdog.generation 256 ∧ CutsWhole provider.deviceWatchdog.lastAction 256 ∧
        CutsWhole provider.deviceWatchdog.lastError 512
    · have returned : ∃ receipt, ownerReceipt invocation provider windowsWatchdogEffective = .ok receipt := by
        cases outcome : ownerReceipt invocation provider windowsWatchdogEffective with
        | ok receipt => exact ⟨receipt, rfl⟩
        | error fault =>
          cases fault with
          | refused error => exact absurd outcome (ownerReceipt_unrefused invocation _ _ error)
          | panicked => exact absurd cuts ((ownerReceipt_panics invocation _ _).mp outcome)
      obtain ⟨receipt, assembled⟩ := returned
      refine .inr ⟨receipt, assembled, ?_⟩
      rw [answerBind_panics, validated]
      refine .inl ((overflows_iff invocation (ownerReceipt_assembled invocation assembled)).mpr ?_)
      by_contra fits
      apply broken
      obtain ⟨wakefulness, displayState, proximityState, generation, lastAction, lastError⟩ := cuts
      refine ⟨wakefulness, displayState, proximityState, generation, lastAction, lastError, ?_⟩
      intro active fresh sameGeneration interval poll
      by_contra overflow
      exact fits ⟨active, fresh, sameGeneration, interval, poll, Int.not_le.mp overflow⟩
    · exact .inl cuts

end Survival

section Answers

variable [AwakeEnvironment] (invocation : QuestAwakeOwnerInvocation)

/-- A receipt that is valid, bound to the invocation, and as effective as the provider's summary and status say. -/
structure ReceiptSound (serial : String) (receipt : QuestAwakeOwnerReceipt) : Prop where
  valid : Valid receipt
  requestId : receipt.requestId = invocation.requestId
  operationId : receipt.operationId = invocation.operationId
  previewId : receipt.previewId = invocation.previewId
  deviceId : receipt.deviceId = invocation.deviceId
  identityRevision : receipt.identityRevision = invocation.identityRevision
  action : receipt.action = invocation.action
  watchdogGeneration : receipt.watchdogGeneration = invocation.watchdogGeneration
  duration : receipt.requestedDurationMs = invocation.policy.durationMs
  interval : receipt.requestedWatchdogIntervalMs = invocation.policy.watchdogIntervalMs
  derived : receipt.effective = receipt.derivedEffective
  reported : ∃ output response provider, requestProvider invocation serial = .ok output ∧
    AwakeEnvironment.decodeResponse output = .ok response ∧ response.receipt = some provider ∧
    receipt.effective = provider.effective ∧ (response.status = "verified" ↔ receipt.effective = true)

theorem invoke_ok {serial : String} {windowsWatchdogEffective : Bool} {receipt : QuestAwakeOwnerReceipt}
    (returned : invoke invocation serial windowsWatchdogEffective = .ok receipt) :
    ReceiptSound invocation serial receipt := by
  unfold invoke at returned
  rw [exceptBind_ok] at returned
  obtain ⟨output, answered, returned⟩ := returned
  rw [exceptBind_ok] at returned
  obtain ⟨response, decoded, returned⟩ := returned
  rw [mapError_ok] at decoded
  rw [exceptBind_ok] at returned
  obtain ⟨provider, provided, returned⟩ := returned
  obtain ⟨-, found, bindings, -, -⟩ := (providerReceipt_ok invocation).mp provided
  unfold concludeReceipt at returned
  rw [exceptBind_ok] at returned
  obtain ⟨built, assembled, returned⟩ := returned
  rw [exceptBind_ok] at returned
  obtain ⟨_, validated, returned⟩ := returned
  rw [exceptBind_ok] at returned
  obtain ⟨_, summary, returned⟩ := returned
  rw [exceptBind_ok] at returned
  obtain ⟨_, status, returned⟩ := returned
  obtain rfl := Except.ok.inj returned
  rw [errorIf_ok, Ne, not_not] at summary status
  have taken := ownerReceipt_assembled invocation assembled
  have valid : Valid built := by
    unfold validateReceipt at validated
    split at validated
    · cases validated
    · rw [errorIf_ok, Ne, not_not] at validated
      exact validated
  unfold bindingMismatch at bindings
  simp only [not_or, Ne, not_not] at bindings
  obtain ⟨-, -, requestId, operationId, previewId, deviceId, identityRevision, -, generation, duration, interval⟩ :=
    bindings
  exact ⟨valid, taken.requestId.trans requestId, taken.operationId.trans operationId,
    taken.previewId.trans previewId, taken.deviceId.trans deviceId,
    taken.identityRevision.trans identityRevision, taken.action, taken.watchdogGeneration.trans generation,
    taken.duration.trans duration, taken.interval.trans interval, taken.effective,
    output, response, provider, answered, decoded, found, summary.symm, by rw [← status, beq_iff_eq]⟩

theorem invoke_panics (serial : String) (windowsWatchdogEffective : Bool) :
    invoke invocation serial windowsWatchdogEffective = .error .panicked ↔
      ¬ (ClockSurvives invocation serial ∧ AnswerSurvives invocation serial) := by
  have provided : ∀ response, providerReceipt invocation response ≠ .error .panicked := by
    intro response
    have found : receiptOf response ≠ .error .panicked := by
      unfold receiptOf refuse
      cases response.receipt <;> simp
    unfold providerReceipt
    rw [Ne, answerBind_panics, or_iff_right refuseIf_survives]
    rintro ⟨-, -, stopped⟩
    rw [answerBind_panics, or_iff_right found] at stopped
    obtain ⟨provider, -, stopped⟩ := stopped
    rw [answerBind_panics, or_iff_right refuseIf_survives] at stopped
    obtain ⟨-, -, stopped⟩ := stopped
    rw [answerBind_panics, or_iff_right refuseIf_survives] at stopped
    obtain ⟨-, -, stopped⟩ := stopped
    rw [answerBind_panics, or_iff_right refuseIf_survives] at stopped
    obtain ⟨-, -, stopped⟩ := stopped
    cases stopped
  unfold invoke
  rw [answerBind_panics, requestProvider_panics]
  constructor
  · rintro (clock | ⟨output, answered, stopped⟩) survives
    · exact clock survives.1
    · rw [answerBind_panics, or_iff_right orRefuse_survives] at stopped
      obtain ⟨response, decoded, stopped⟩ := stopped
      rw [mapError_ok] at decoded
      rw [answerBind_panics, or_iff_right (provided response)] at stopped
      obtain ⟨provider, receipt, stopped⟩ := stopped
      exact (concludeReceipt_panics invocation response provider windowsWatchdogEffective).mp stopped
        (survives.2 output response provider answered decoded ((providerReceipt_ok invocation).mp receipt))
  · intro broken
    by_cases clock : ClockSurvives invocation serial
    · have answer := fun survives => broken ⟨clock, survives⟩
      unfold AnswerSurvives at answer
      simp only [imp_false, not_forall] at answer
      obtain ⟨output, response, provider, answered, decoded, receipt, unsound⟩ := answer
      refine .inr ⟨output, answered, ?_⟩
      rw [answerBind_panics, or_iff_right orRefuse_survives]
      refine ⟨response, (mapError_ok _ _ _).mpr decoded, ?_⟩
      rw [answerBind_panics, or_iff_right (provided response)]
      exact ⟨provider, (providerReceipt_ok invocation).mpr receipt,
        (concludeReceipt_panics invocation response provider windowsWatchdogEffective).mpr unsound⟩
    · exact .inl clock

/-- The adapter returns, and what it returns is sound, exactly where the clock and the answer are in order. -/
theorem awake_answers_iff (serial : String) (windowsWatchdogEffective : Bool) :
    (invoke invocation serial windowsWatchdogEffective ≠ .error .panicked ∧
        ∀ receipt, invoke invocation serial windowsWatchdogEffective = .ok receipt →
          ReceiptSound invocation serial receipt) ↔
      ClockSurvives invocation serial ∧ AnswerSurvives invocation serial := by
  rw [Ne, invoke_panics, not_not]
  exact and_iff_left fun receipt returned => invoke_ok invocation returned

end Answers

section Sample

def sampleInvocation : QuestAwakeOwnerInvocation where
  schema := "rusty.fleet.quest_awake_owner_invocation.v1"
  requestId := "request-1"
  operationId := "operation-1"
  previewId := "preview-1"
  deviceId := "quest-1"
  identityRevision := 1
  action := .applyBounded
  policy := ⟨60000, 1000⟩
  watchdogGeneration := "generation-1"
  issuedAtMs := 1000
  expiresAtMs := 61000

def sampleWakefulness : String := String.ofList (List.replicate 127 'A' ++ ['é'])

def sampleProvider : ProviderReceipt where
  schema := questAwakeReceiptSchema
  contractVersion := questAwakeProviderContract
  requestId := "request-1"
  operationId := "operation-1"
  previewId := "preview-1"
  deviceId := "quest-1"
  identityRevision := 1
  action := "applyBounded"
  watchdogGeneration := "generation-1"
  requestedDurationMilliseconds := 60000
  requestedWatchdogIntervalMilliseconds := 1000
  stayOnEffective := true
  proximityHoldEffective := false
  wakeEffective := false
  deviceWatchdogEffective := false
  settingsRestored := false
  effective := false
  settingsLeftUnchanged := false
  outcome := "pending"
  repairCount := 0
  powerReadback := ⟨sampleWakefulness, "ON", true, none, "CLOSE", none, none, 2000⟩
  deviceWatchdog := ⟨false, false, "", "boot-0001", 1000, 0, 0, 0, 0, "", ""⟩
  evidenceSha256 := emptySha256
  observedAtUnixMilliseconds := 2000

def sampleResponse : ProviderResponse where
  contractVersion := questAwakeProviderContract
  status := "pending"
  receipt := some sampleProvider
  error := none
  message := none

def jsonObject (fields : List (String × String)) : String :=
  "\x7b" ++ String.intercalate "," (fields.map fun field => "\"" ++ field.1 ++ "\":" ++ field.2) ++ "\x7d"

def jsonText (value : String) : String := "\"" ++ value ++ "\""

/-- The answer as the provider writes it. -/
def sampleAnswer : String :=
  jsonObject [("contractVersion", jsonText questAwakeProviderContract), ("status", jsonText "pending"),
    ("receipt", jsonObject [("schema", jsonText questAwakeReceiptSchema),
      ("contractVersion", jsonText questAwakeProviderContract), ("requestId", jsonText "request-1"),
      ("operationId", jsonText "operation-1"), ("previewId", jsonText "preview-1"),
      ("deviceId", jsonText "quest-1"), ("identityRevision", "1"), ("action", jsonText "applyBounded"),
      ("watchdogGeneration", jsonText "generation-1"), ("requestedDurationMilliseconds", "60000"),
      ("requestedWatchdogIntervalMilliseconds", "1000"), ("stayOnEffective", "true"),
      ("proximityHoldEffective", "false"), ("wakeEffective", "false"), ("deviceWatchdogEffective", "false"),
      ("settingsRestored", "false"), ("effective", "false"), ("settingsLeftUnchanged", "false"),
      ("outcome", jsonText "pending"), ("repairCount", "0"),
      ("powerReadback", jsonObject [("wakefulness", jsonText sampleWakefulness), ("displayState", jsonText "ON"),
        ("stayOn", "true"), ("autoSleepDisabled", "null"), ("proximityState", jsonText "CLOSE"),
        ("proximityHoldDurationMilliseconds", "null"), ("proximityHoldRemainingMilliseconds", "null"),
        ("capturedAtUnixMilliseconds", "2000")]),
      ("deviceWatchdog", jsonObject [("reportedActive", "false"), ("fresh", "false"), ("generation", jsonText ""),
        ("bootId", jsonText "boot-0001"), ("intervalMilliseconds", "1000"), ("lastPollUnixMilliseconds", "0"),
        ("proximityRepairCount", "0"), ("stayOnRepairCount", "0"), ("wakeRepairCount", "0"),
        ("lastAction", jsonText ""), ("lastError", jsonText "")]),
      ("evidenceSha256", jsonText emptySha256), ("observedAtUnixMilliseconds", "2000")]),
    ("error", "null"), ("message", "null")]

/-- A provider that gives the sample answer. -/
abbrev sampleAwakeEnvironment : AwakeEnvironment where
  clockMs := .ok 1000
  clockNanos := .ok 1000000000
  processId := 1
  stageSequence := 0
  sha256Hex _ := emptySha256
  encodeRequest _ := .ok []
  decodeResponse _ := .ok sampleResponse
  transport _ _ := .ok sampleAnswer.toUTF8.toList

/-- A valid invocation and a short answer; the worker panics instead of returning. -/
theorem cut_character_panics : questAwakeFamily.invocationViolations sampleInvocation = [] ∧
    serialInvalid "1WMHH000000000" = false ∧ sampleAnswer.utf8ByteSize ≤ maxProviderOutputBytes ∧
    @invoke sampleInvocation sampleAwakeEnvironment "1WMHH000000000" false = .error .panicked := by
  decide +kernel

end Sample

end QuestAwakeAdapter

end RustyFleet

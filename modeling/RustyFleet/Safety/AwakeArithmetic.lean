import RustyFleet.Safety.OwnerDiscipline

namespace RustyFleet

def i64Range (value : Int) : Prop := i64Min ≤ value ∧ value ≤ i64Max

instance (value : Int) : Decidable (i64Range value) := inferInstanceAs (Decidable (_ ∧ _))

/-- The sums and differences a computation evaluates stay in the `i64` range. -/
def ResultsFit (results : List Int) : Prop := ∀ value ∈ results, i64Range value

instance (results : List Int) : Decidable (ResultsFit results) := inferInstanceAs (Decidable (∀ _ ∈ _, _))

theorem ResultsFit.append {left right : List Int} (first : ResultsFit left) (second : ResultsFit right) :
    ResultsFit (left ++ right) := by
  intro value member
  rcases List.mem_append.mp member with member | member
  · exact first value member
  · exact second value member

theorem resultsFit_flatMap {α : Type} {items : List α} {results : α → List Int}
    (fits : ∀ item ∈ items, ResultsFit (results item)) : ResultsFit (items.flatMap results) := by
  intro value member
  obtain ⟨item, known, listed⟩ := List.mem_flatMap.mp member
  exact fits item known value listed

namespace QuestAwakeOwnerReceipt

variable (receipt : QuestAwakeOwnerReceipt)

/-- The timestamps are `i64` values. -/
structure Stamped : Prop where
  observed : i64Range receipt.observedAtMs
  captured : i64Range receipt.power.capturedAtMs
  polled : i64Range receipt.deviceWatchdog.lastPollMs

def ageArithmetic : List Int :=
  if 0 ≤ receipt.observedAtMs ∧ 0 ≤ receipt.power.capturedAtMs ∧
      receipt.power.capturedAtMs ≤ receipt.observedAtMs then
    [receipt.observedAtMs - receipt.power.capturedAtMs]
  else []

def pollArithmetic : List Int :=
  if receipt.watchdogIdentified = true then
    (receipt.observedAtMs + 30000) ::
      if receipt.observedAtMs + 30000 ≤ i64Max ∧
          receipt.deviceWatchdog.lastPollMs ≤ receipt.observedAtMs + 30000 then
        [receipt.observedAtMs - receipt.deviceWatchdog.lastPollMs]
      else []
  else []

/-- The status arm of `derived_effective` subtracts behind two comparisons; the other arms compute nothing. -/
def derivedArithmetic : List Int :=
  if receipt.action = .status ∧ 0 ≤ receipt.power.capturedAtMs ∧
      receipt.power.capturedAtMs ≤ receipt.observedAtMs then
    [receipt.observedAtMs - receipt.power.capturedAtMs]
  else []

def validateArithmetic : List Int :=
  receipt.ageArithmetic ++ receipt.pollArithmetic ++
    if receipt.validationOverflows = true then [] else receipt.derivedArithmetic

end QuestAwakeOwnerReceipt

def targetArithmetic (operation : QuestAwakeOperation) (target : questAwakeHub.Target) : List Int :=
  if operation.preview.targets.any (·.deviceId == target.deviceId) then
    target.receipt.toList.flatMap fun receipt =>
      receipt.validateArithmetic ++
        if target.lifecycle = .applied ∧ receipt.effective = true then receipt.validateArithmetic else []
  else []

/-- What `apply_quest_awake_receipt` computes: the receipt's own validation, the deadline of a valid receipt, and the
validation of the operation it is written to. -/
def FleetHub.applyArithmetic (hub : FleetHub) (receipt : QuestAwakeOwnerReceipt) (nowMs : Int) : List Int :=
  receipt.validateArithmetic ++
    (if receipt.validationOverflows = false ∧ Valid receipt then [nowMs + 30000] else []) ++
      match questAwakeHub.receiptEdit hub.awakeOperations receipt nowMs with
      | .ok (.rewritten next) => next.targets.flatMap (targetArithmetic next)
      | _ => []

namespace OwnerSafety

section Receipts

variable {Action Policy Generation Binding Receipt Evidence : Type}
  {owner : OwnerHub Action Policy Generation Binding Receipt Evidence} {P : Receipt → Prop}

def ReceiptsHold (owner : OwnerHub Action Policy Generation Binding Receipt Evidence) (P : Receipt → Prop)
    (operations : owner.Stored) : Prop :=
  ∀ (operationId : String) operation, operations[operationId]? = some operation →
    ∀ target ∈ operation.targets, ∀ receipt, target.receipt = some receipt → P receipt

theorem rewritten_receipts {targets : List owner.Target} {deviceId : String}
    {rewrite : owner.Target → owner.Target} {target : owner.Target}
    (found : targets.find? (·.deviceId == deviceId) = some target)
    (before : ∀ prior ∈ targets, ∀ receipt, prior.receipt = some receipt → P receipt)
    (written : ∀ receipt, (rewrite target).receipt = some receipt → P receipt) :
    ∀ next ∈ Support.modifyFirst (·.deviceId == deviceId) rewrite targets, ∀ receipt,
      next.receipt = some receipt → P receipt := by
  intro next member receipt received
  rcases Support.mem_modifyFirst _ rewrite targets target next found member with kept | rfl
  · exact before next kept receipt received
  · exact written receipt received

variable [DecidableEq Action] [DecidableEq Policy] [DecidableEq Binding] [ValidateContract Receipt]
  {hub : FleetHub} {operations : owner.Stored}

theorem callEdit_receipts (before : ReceiptsHold owner P operations)
    (admitted : ∀ receipt nowMs operation target invocation,
      ReceiptChecks owner operations receipt nowMs operation target invocation → P receipt)
    (call : OwnerCall Action Policy Generation Receipt) {next : owner.Operation}
    (ok : owner.callEdit hub operations call = .ok (.rewritten next)) :
    ∀ target ∈ next.targets, ∀ receipt, target.receipt = some receipt → P receipt := by
  cases call with
  | preview plan =>
    obtain ⟨_, _, _, preflights, rfl⟩ := previewEdit_rewritten ok
    intro target member receipt received
    obtain ⟨preflight, _, rfl⟩ := List.mem_map.mp member
    cases received
  | confirm operationId previewId nowMs =>
    obtain ⟨operation, checks, rfl⟩ := confirmEdit_iff.mp ok
    intro target member receipt received
    obtain ⟨prior, known, rfl⟩ := List.mem_map.mp member
    have same : prior.receipt = some receipt := by
      split at received <;> exact received
    exact before _ operation checks.stored prior known receipt same
  | prepare operationId deviceId requestId expected nowMs =>
    obtain ⟨operation, target, generation, checks, rfl⟩ := prepareEdit_iff.mp ok
    have held := before _ operation checks.stored
    exact rewritten_receipts checks.found held (held target (List.mem_of_find?_eq_some checks.found))
  | dispatched operationId deviceId nowMs =>
    obtain ⟨operation, target, checks, rfl⟩ := dispatchedEdit_iff.mp ok
    have held := before _ operation checks.stored
    exact rewritten_receipts checks.found held (held target (List.mem_of_find?_eq_some checks.found))
  | receipt given nowMs =>
    obtain ⟨operation, target, invocation, checks, rfl⟩ := receiptEdit_iff.mp ok
    apply rewritten_receipts checks.found (before _ operation checks.stored)
    intro receipt received
    cases received
    exact admitted given nowMs operation target invocation checks
  | fail operationId deviceId code nowMs =>
    obtain ⟨operation, target, checks, rfl⟩ := failEdit_iff.mp ok
    have held := before _ operation checks.stored
    exact rewritten_receipts checks.found held (held target (List.mem_of_find?_eq_some checks.found))

theorem handleCall_receipts (before : ReceiptsHold owner P operations)
    (admitted : ∀ receipt nowMs operation target invocation,
      ReceiptChecks owner operations receipt nowMs operation target invocation → P receipt)
    (call : OwnerCall Action Policy Generation Receipt) :
    ReceiptsHold owner P (owner.handleCall hub operations call).2 := by
  rcases settle_cases operations (owner.callOperation call) (owner.callEdit hub operations call) with
    same | ⟨next, edit, settled⟩
  · rw [OwnerHub.handleCall, same]
    exact before
  · rw [OwnerHub.handleCall, settled]
    exact BTreeMap.insert_forall _ _ next (fun _ operation => ∀ target ∈ operation.targets, ∀ receipt,
      target.receipt = some receipt → P receipt) before (callEdit_receipts before admitted call edit)

end Receipts

section Arithmetic

variable {receipt : QuestAwakeOwnerReceipt}

theorem ageArithmetic_fits (observed : receipt.observedAtMs ≤ i64Max) : ResultsFit receipt.ageArithmetic := by
  unfold QuestAwakeOwnerReceipt.ageArithmetic
  split
  · intro value member
    rw [List.mem_singleton.mp member]
    unfold i64Range i64Min
    omega
  · exact fun value member => absurd member List.not_mem_nil

theorem derivedArithmetic_fits (observed : receipt.observedAtMs ≤ i64Max) : ResultsFit receipt.derivedArithmetic := by
  unfold QuestAwakeOwnerReceipt.derivedArithmetic
  split
  · intro value member
    rw [List.mem_singleton.mp member]
    unfold i64Range i64Min
    omega
  · exact fun value member => absurd member List.not_mem_nil

theorem pollArithmetic_fits_iff (below : i64Min ≤ receipt.observedAtMs) :
    ResultsFit receipt.pollArithmetic ↔
      ¬ (receipt.watchdogIdentified = true ∧ i64Max - 30000 < receipt.observedAtMs) := by
  unfold QuestAwakeOwnerReceipt.pollArithmetic
  by_cases identified : receipt.watchdogIdentified = true
  · rw [if_pos identified]
    constructor
    · rintro fits ⟨_, late⟩
      have sum := (fits _ List.mem_cons_self).2
      omega
    · intro early
      have bounded : receipt.observedAtMs ≤ i64Max - 30000 := by
        by_contra late
        exact early ⟨identified, by omega⟩
      have polled : 0 < receipt.deviceWatchdog.lastPollMs := by
        simp only [QuestAwakeOwnerReceipt.watchdogIdentified, Bool.and_eq_true, decide_eq_true_eq] at identified
        exact identified.2
      intro value member
      rcases List.mem_cons.mp member with rfl | later
      · unfold i64Range
        omega
      · split at later
        · rename_i reached
          rw [List.mem_singleton.mp later]
          unfold i64Range i64Max i64Min at *
          omega
        · cases later
  · rw [if_neg identified]
    constructor
    · exact fun _ both => identified both.1
    · exact fun _ value member => absurd member List.not_mem_nil

theorem validationOverflows_iff : receipt.validationOverflows = true ↔
    receipt.watchdogIdentified = true ∧ i64Max - 30000 < receipt.observedAtMs := by
  rw [QuestAwakeOwnerReceipt.validationOverflows, Bool.and_eq_true, decide_eq_true_eq]
  constructor
  · exact fun ⟨identified, late⟩ => ⟨identified, by omega⟩
  · exact fun ⟨identified, late⟩ => ⟨identified, by omega⟩

theorem validateArithmetic_fits_iff (stamped : i64Range receipt.observedAtMs) :
    ResultsFit receipt.validateArithmetic ↔
      ¬ (receipt.watchdogIdentified = true ∧ i64Max - 30000 < receipt.observedAtMs) := by
  rw [← pollArithmetic_fits_iff stamped.1]
  constructor
  · intro fits value member
    exact fits value (List.mem_append_left _ (List.mem_append_right _ member))
  · intro poll
    refine ((ageArithmetic_fits stamped.2).append poll).append ?_
    split
    · exact fun value member => absurd member List.not_mem_nil
    · exact derivedArithmetic_fits stamped.2

theorem admitted_fits {operations : questAwakeHub.Stored} {nowMs : Int} {operation : questAwakeHub.Operation}
    {target : questAwakeHub.Target}
    {invocation : OwnerInvocation QuestAwakeAction QuestAwakePolicy String}
    (checks : ReceiptChecks questAwakeHub operations receipt nowMs operation target invocation) :
    ResultsFit receipt.validateArithmetic := by
  have valid : (_ ++ _ : List ContractViolation) = [] := checks.valid
  simp only [List.append_eq_nil_iff, violationIf_nil, not_not] at valid
  have readback : receipt.readbackValid := valid.1.1.2
  have clock := checks.clock
  have observed : receipt.observedAtMs ≤ nowMs + 30000 := checks.observed
  have stamped : i64Range receipt.observedAtMs := by
    have nonnegative := readback.1
    unfold i64Range i64Min
    omega
  rw [validateArithmetic_fits_iff stamped, ← validationOverflows_iff, Bool.not_eq_true]
  exact checks.computed

end Arithmetic

section Runs

variable [HubEnvironment] {hub : FleetHub}

def AwakeComputed (hub : FleetHub) : Prop :=
  ReceiptsHold questAwakeHub (fun receipt => ResultsFit receipt.validateArithmetic) hub.awakeOperations

theorem call_computed (computed : AwakeComputed hub) (call : HubCall) : AwakeComputed (hub.handle call).1 := by
  by_cases own : ∃ awakeCall, call = .awake awakeCall
  · obtain ⟨awakeCall, rfl⟩ := own
    rw [FleetHub.handle_awake, FleetHub.handleAwake_owner]
    exact handleCall_receipts computed (fun _ _ _ _ _ checks => admitted_fits checks) awakeCall.owner
  · unfold AwakeComputed
    rw [(hub.handle_leaves_others call).awake fun awakeCall same => own ⟨awakeCall, same⟩]
    exact computed

theorem run_computed (policy : AssertedPolicy) (calls : List HubCall) :
    AwakeComputed (fleetHubMachine.run (.new policy) calls) := by
  apply fleetHubMachine.run_invariant (fun _ _ => True) AwakeComputed (fun _ call _ => (call_computed · call))
    (.new policy) calls (fleetHubMachine.admits_true _ calls)
  intro operationId operation stored
  simp [FleetHub.new] at stored

omit [HubEnvironment] in
theorem applyArithmetic_fits (computed : AwakeComputed hub) {receipt : QuestAwakeOwnerReceipt} {nowMs : Int}
    (validated : ResultsFit receipt.validateArithmetic) (started : 0 ≤ nowMs) (clock : nowMs ≤ 2 ^ 53) :
    ResultsFit (hub.applyArithmetic receipt nowMs) := by
  refine (validated.append ?_).append ?_
  · split
    · intro value member
      rw [List.mem_singleton.mp member]
      unfold i64Range i64Min i64Max
      omega
    · exact fun value member => absurd member List.not_mem_nil
  · split
    · rename_i next edit
      have called : questAwakeHub.callEdit hub hub.awakeOperations (.receipt receipt nowMs) =
          .ok (.rewritten next) := edit
      have held := callEdit_receipts computed (fun _ _ _ _ _ checks => admitted_fits checks) _ called
      apply resultsFit_flatMap
      intro target member
      unfold targetArithmetic
      split
      · apply resultsFit_flatMap
        intro stored received
        have fits := held target member stored (Option.mem_toList.mp received)
        refine fits.append ?_
        split
        · exact fits
        · exact fun value member => absurd member List.not_mem_nil
      · exact fun value member => absurd member List.not_mem_nil
    · exact fun value member => absurd member List.not_mem_nil

/-- No sum or difference of a receipt's validation, its derived effect or its application leaves the `i64` range
exactly when no identified watchdog is read back less than thirty seconds before the end of that range. -/
theorem receipt_arithmetic_fits_iff (policy : AssertedPolicy) (calls : List HubCall)
    (receipt : QuestAwakeOwnerReceipt) (stamped : receipt.Stamped) (nowMs : Int) (started : 0 ≤ nowMs)
    (clock : nowMs ≤ 2 ^ 53) :
    (ResultsFit receipt.validateArithmetic ∧ ResultsFit receipt.derivedArithmetic ∧
      ResultsFit ((fleetHubMachine.run (.new policy) calls).applyArithmetic receipt nowMs)) ↔
      ¬ (receipt.watchdogIdentified = true ∧ i64Max - 30000 < receipt.observedAtMs) := by
  rw [← validateArithmetic_fits_iff stamped.observed]
  constructor
  · exact fun fits => fits.1
  · intro validated
    exact ⟨validated, derivedArithmetic_fits stamped.observed.2,
      applyArithmetic_fits (run_computed policy calls) validated started clock⟩

end Runs

/-- A readback of headset `d1` whose device watchdog is the expected one. -/
def polledReceipt (observedAtMs : Int) : QuestAwakeOwnerReceipt :=
  { watchdogReceipt "op-1" "request-1" observedAtMs with
    deviceWatchdog :=
      { reportedActive := true
        fresh := true
        generation := "generation-1"
        bootIdSha256 := String.ofList (List.replicate 64 'a')
        intervalMs := 1000
        lastPollMs := 1000
        proximityRepairCount := 0
        stayOnRepairCount := 0
        wakeRepairCount := 0
        lastAction := ""
        lastError := "" } }

theorem polled_receipt_fits :
    ResultsFit (polledReceipt 1002).validateArithmetic ∧ ResultsFit (polledReceipt 1002).derivedArithmetic ∧
      ResultsFit ((sampleHubMachine.run (.new PackageSafety.samplePolicy) watchdogRun).applyArithmetic
        (polledReceipt 1002) 1002) := by
  have stamped : (polledReceipt 1002).Stamped := ⟨by decide, by decide, by decide⟩
  exact (@receipt_arithmetic_fits_iff PackageSafety.sampleEnvironment PackageSafety.samplePolicy watchdogRun
    (polledReceipt 1002) stamped 1002 (by decide) (by decide)).mpr (by decide)

/-- A provider that stamps its readback with the last `i64` value makes the validation overflow. -/
theorem last_stamp_overflows : (polledReceipt i64Max).Stamped ∧
    ¬ ResultsFit (polledReceipt i64Max).validateArithmetic :=
  ⟨⟨by decide, by decide, by decide⟩, by decide⟩

end OwnerSafety

end RustyFleet

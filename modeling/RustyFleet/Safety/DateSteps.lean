import RustyFleet.Safety.ReceiptDates

namespace RustyFleet.WifiSafety

section Edited

variable [FleetEnvironment] {fleet : Fleet} {applied : List AppliedReceipt} {call : WifiAdbCall}
  {operationId : String} {operation next : QuestWifiAdbOperation}

theorem recorded_action (edited : Edited fleet.hub call operationId operation next) {event : AppliedReceipt}
    (fresh : event ∈ appliedBy fleet.hub call) : event.receipt.operationId = operationId ∧
      event.receipt.action = operation.preview.action := by
  obtain ⟨named, target, member, _, stored, _⟩ := edited.recorded event fresh
  have sound := (edited.sound.targets target member).received event.receipt stored
  exact ⟨named, sound.2.2.2.2.2.trans (congrArg _ edited.preview)⟩

theorem fresh_made (edited : Edited fleet.hub call operationId operation next) {event : AppliedReceipt}
    (fresh : event ∈ appliedBy fleet.hub call) : call = .receipt event.receipt event.nowMs := by
  cases call with
  | receipt receipt nowMs =>
    rw [edited.records receipt nowMs rfl, List.mem_singleton] at fresh
    rw [fresh]
  | _ => cases fresh

theorem fresh_target (allowed : KeepsDates (fleet, applied) (.hub (.wifiAdb call)))
    (edited : Edited fleet.hub call operationId operation next) {event : AppliedReceipt}
    (fresh : event ∈ appliedBy fleet.hub call) :
    ∃ prior ∈ operation.targets, ∃ target ∈ next.targets, target.deviceId = event.receipt.deviceId ∧
      prior.deviceId = event.receipt.deviceId ∧ prior.identityRevision = event.receipt.identityRevision ∧
      target.identityRevision = event.receipt.identityRevision ∧ target.receipt = some event.receipt ∧
      target.updatedAtMs = event.nowMs ∧
      ReceiptKeepsDates fleet applied event.receipt event.nowMs operation prior := by
  have made := fresh_made edited fresh
  obtain ⟨named, target, member, device, stored, dated⟩ := edited.recorded event fresh
  obtain ⟨prior, known, change⟩ := Support.forall₂_right edited.targets target member
  have identity := ((edited.sound.targets target member).received event.receipt stored).2.2.2.2.1
  have priorDevice := change.device.symm.trans device
  subst made
  have keeps := allowed operation (by rw [named]; exact edited.stored) prior known priorDevice
  exact ⟨prior, known, target, member, device, priorDevice, change.identity.symm.trans identity.symm,
    identity.symm, stored, dated, keeps⟩

theorem fresh_disable (allowed : KeepsDates (fleet, applied) (.hub (.wifiAdb call)))
    (edited : Edited fleet.hub call operationId operation next) {event : AppliedReceipt}
    (fresh : event ∈ appliedBy fleet.hub call) {deviceId : String} {identityRevision : Nat}
    (disables : Disables event deviceId identityRevision) :
    operation.preview.action = .disableWirelessAdb ∧ NotBefore fleet deviceId identityRevision event.nowMs := by
  obtain ⟨prior, _, _, _, _, device, identity, _, _, _, keeps⟩ := fresh_target allowed edited fresh
  have action := (recorded_action edited fresh).2.symm.trans disables.1
  have clock := keeps.clock (.inr action)
  rw [device, identity, disables.2.2.1, disables.2.2.2] at clock
  exact ⟨action, clock⟩

theorem traced_edited
    (allowed : KeepsDates (fleet, applied) (.hub (.wifiAdb call)))
    (edited : Edited fleet.hub call operationId operation next) {event : AppliedReceipt}
    {known : QuestWifiAdbOperation} {prior : QuestWifiAdbTarget}
    (earlier : EventTraced fleet.hub event known prior) (here : event.receipt.operationId = operationId) :
    ∃ target ∈ next.targets, target.deviceId = event.receipt.deviceId ∧
      target.identityRevision = event.receipt.identityRevision ∧ target.receipt.isSome = true ∧
      (isDated operation.preview.action → event.nowMs ≤ target.updatedAtMs) ∧
      (event.receipt.action = .disableWirelessAdb → event.receipt.effectApplied = true →
        effectiveModernTls target.receipt) ∧ operation.preview.action = event.receipt.action := by
  have stored := earlier.stored
  rw [here, edited.stored] at stored
  obtain rfl := Option.some.inj stored
  obtain ⟨target, member, change⟩ := Support.forall₂_left edited.targets prior earlier.member
  have device := change.device.trans earlier.device
  have identity := change.identity.trans earlier.identity
  refine ⟨target, member, device, identity, ?_⟩
  cases change.receipt with
  | kept => exact ⟨earlier.received, earlier.dated, earlier.effective, earlier.action⟩
  | unreceived _ before after =>
    have received := earlier.received
    rw [before] at received
    cases received
  | received _ newReceipt nowMs made addressed named stored dated =>
    subst made
    have keeps := allowed operation (by rw [addressed]; exact edited.stored) prior earlier.member named.symm
    refine ⟨by rw [stored]; rfl, ?_, ?_, earlier.action⟩
    · intro isDated
      have older := earlier.dated isDated
      have clock := (keeps.clock isDated).receipts operationId operation edited.stored isDated prior
        earlier.member rfl rfl earlier.received
      rw [dated]
      exact le_trans older clock
    · intro action effective
      have disable := earlier.action.trans action
      obtain ⟨held, holds, took, _⟩ := earlier.effective action effective
      have retained := keeps.retained disable ⟨held, holds, took⟩
      exact ⟨newReceipt, stored, retained, keeps.route disable retained⟩
  | failed _ code nowMs made same dated =>
    subst made
    rw [same]
    refine ⟨earlier.received, ?_, earlier.effective, earlier.action⟩
    intro isDated
    have older := earlier.dated isDated
    obtain ⟨held, holds⟩ := Option.isSome_iff_exists.mp earlier.received
    have keeps := allowed operation edited.stored prior earlier.member rfl held holds
    have clock := (keeps.clock isDated).receipts operationId operation edited.stored isDated prior
      earlier.member rfl rfl earlier.received
    rw [dated]
    exact le_trans older clock

theorem request_disables_nothing (allowed : KeepsDates (fleet, applied) (.hub (.wifiAdb call)))
    (edited : Edited fleet.hub call operationId operation next)
    (requests : operation.preview.action = .requestWirelessAdb) {event : AppliedReceipt}
    (fresh : event ∈ appliedBy fleet.hub call) (deviceId : String) (identityRevision : Nat) :
    ¬ Disables event deviceId identityRevision := by
  intro disables
  have action := (fresh_disable allowed edited fresh disables).1
  rw [requests] at action
  cases action

theorem own_disabled (kept : DatesKept fleet applied)
    (allowed : KeepsDates (fleet, applied) (.hub (.wifiAdb call)))
    (edited : Edited fleet.hub call operationId operation next)
    (requests : operation.preview.action = .requestWirelessAdb) {target : QuestWifiAdbTarget}
    (member : target ∈ next.targets) {receipt : QuestWifiAdbOwnerReceipt}
    (received : target.receipt = some receipt) {first : Int}
    (dated : firstApplied (applied ++ appliedBy fleet.hub call) receipt = some first) {event : AppliedReceipt}
    (inLog : event ∈ applied ++ appliedBy fleet.hub call)
    (disables : Disables event receipt.deviceId receipt.identityRevision) (later : first ≤ event.nowMs) :
    (event ∈ applied ∧ target ∈ operation.targets ∧ firstApplied applied receipt = some first) ∨
      (target.updatedAtMs = first ∧ NotBefore fleet target.deviceId target.identityRevision first) := by
  obtain ⟨prior, earlier, _, _, change⟩ := request_change kept allowed edited requests member received
  rcases List.mem_append.mp inLog with old | fresh
  · cases change with
    | kept same =>
      subst same
      have recorded := kept.recorded _ _ edited.stored target earlier receipt received
      rw [firstApplied_append recorded] at dated
      exact .inl ⟨old, earlier, dated⟩
    | undisturbed known clear =>
      rw [firstApplied_append known] at dated
      exact absurd (clear first dated event old disables) (not_lt.mpr later)
    | fresh nowMs unknown recorded stamped clock =>
      rw [recorded, firstApplied_new unknown] at dated
      obtain rfl := Option.some.inj dated
      exact .inr ⟨stamped, clock⟩
  · exact absurd disables (request_disables_nothing allowed edited requests fresh _ _)

theorem other_disabled (kept : DatesKept fleet applied)
    (allowed : KeepsDates (fleet, applied) (.hub (.wifiAdb call)))
    (edited : Edited fleet.hub call operationId operation next) {otherId : String}
    {known : QuestWifiAdbOperation} (found : fleet.hub.wifiAdbOperations[otherId]? = some known)
    {target : QuestWifiAdbTarget} (member : target ∈ known.targets) {receipt : QuestWifiAdbOwnerReceipt}
    (received : target.receipt = some receipt) {first : Int}
    (dated : firstApplied (applied ++ appliedBy fleet.hub call) receipt = some first) {event : AppliedReceipt}
    (inLog : event ∈ applied ++ appliedBy fleet.hub call)
    (disables : Disables event receipt.deviceId receipt.identityRevision) :
    firstApplied applied receipt = some first ∧
      (event ∈ applied ∨ NotBefore fleet target.deviceId target.identityRevision event.nowMs) := by
  rw [firstApplied_append (kept.recorded otherId known found target member receipt received)] at dated
  refine ⟨dated, ?_⟩
  rcases List.mem_append.mp inLog with old | fresh
  · exact .inl old
  · have clock := (fresh_disable allowed edited fresh disables).2
    have sound := ((kept.ledger otherId known found).targets target member).received receipt received
    rw [sound.2.2.2.1, sound.2.2.2.2.1] at clock
    exact .inr clock

section Ledger

variable {hub : FleetHub}

omit [FleetEnvironment] in
theorem edited_here (ledger : hub.wifiAdbOperations = fleet.hub.wifiAdbOperations.insert operationId next) :
    hub.wifiAdbOperations[operationId]? = some next := by
  rw [ledger, BTreeMap.lookup_insert_self]

omit [FleetEnvironment] in
theorem edited_elsewhere
    (ledger : hub.wifiAdbOperations = fleet.hub.wifiAdbOperations.insert operationId next) {otherId : String}
    (other : otherId ≠ operationId) :
    hub.wifiAdbOperations[otherId]? = fleet.hub.wifiAdbOperations[otherId]? := by
  rw [ledger, BTreeMap.lookup_insert_of_ne _ _ other]

theorem earlier_traced (allowed : KeepsDates (fleet, applied) (.hub (.wifiAdb call)))
    (edited : Edited fleet.hub call operationId operation next)
    (ledger : hub.wifiAdbOperations = fleet.hub.wifiAdbOperations.insert operationId next)
    {event : AppliedReceipt} {known : QuestWifiAdbOperation} {prior : QuestWifiAdbTarget}
    (trace : EventTraced fleet.hub event known prior) :
    ∃ later target, EventTraced hub event later target := by
  by_cases same : event.receipt.operationId = operationId
  · obtain ⟨target, inNext, device, identity, received, dated, effective, action⟩ :=
      traced_edited allowed edited trace same
    refine ⟨next, target, ?_, inNext, ?_, device, identity, received, ?_, effective⟩
    · rw [same]
      exact edited_here ledger
    · rw [edited.preview]
      exact action
    · rw [edited.preview]
      exact dated
  · refine ⟨known, prior, ?_, trace.member, trace.action, trace.device, trace.identity, trace.received,
      trace.dated, trace.effective⟩
    rw [edited_elsewhere ledger same]
    exact trace.stored

theorem fresh_traced (allowed : KeepsDates (fleet, applied) (.hub (.wifiAdb call)))
    (edited : Edited fleet.hub call operationId operation next)
    (ledger : hub.wifiAdbOperations = fleet.hub.wifiAdbOperations.insert operationId next)
    {event : AppliedReceipt} (fresh : event ∈ appliedBy fleet.hub call) :
    ∃ later target, EventTraced hub event later target := by
  obtain ⟨prior, _, target, inNext, device, _, _, identity, stored, dated, keeps⟩ :=
    fresh_target allowed edited fresh
  obtain ⟨named, action⟩ := recorded_action edited fresh
  refine ⟨next, target, ?_, inNext, ?_, device, identity, by rw [stored]; rfl, ?_, ?_⟩
  · rw [named]
    exact edited_here ledger
  · rw [edited.preview]
    exact action.symm
  · intro _
    rw [dated]
  · intro disable effective
    exact ⟨event.receipt, stored, effective, keeps.route (action.symm.trans disable) effective⟩

theorem own_recorded (kept : DatesKept fleet applied)
    (edited : Edited fleet.hub call operationId operation next) {target : QuestWifiAdbTarget}
    (member : target ∈ next.targets) {receipt : QuestWifiAdbOwnerReceipt}
    (received : target.receipt = some receipt) :
    ∃ event ∈ applied ++ appliedBy fleet.hub call, event.receipt = receipt := by
  obtain ⟨prior, earlier, change⟩ := Support.forall₂_right edited.targets target member
  have known : prior.receipt = some receipt →
      ∃ event ∈ applied ++ appliedBy fleet.hub call, event.receipt = receipt := by
    intro held
    obtain ⟨event, recorded, same⟩ := kept.recorded _ _ edited.stored prior earlier receipt held
    exact ⟨event, List.mem_append_left _ recorded, same⟩
  cases change.receipt with
  | kept => exact known received
  | unreceived _ _ after =>
    rw [after] at received
    cases received
  | received _ newReceipt nowMs made addressed named stored dated =>
    rw [stored] at received
    cases received
    refine ⟨⟨receipt, nowMs⟩, List.mem_append_right _ ?_, rfl⟩
    rw [edited.records receipt nowMs made]
    exact List.mem_singleton_self _
  | failed _ code nowMs made same dated => exact known (same.symm.trans received)

theorem edited_recorded (kept : DatesKept fleet applied)
    (edited : Edited fleet.hub call operationId operation next)
    (ledger : hub.wifiAdbOperations = fleet.hub.wifiAdbOperations.insert operationId next) {otherId : String}
    {known : QuestWifiAdbOperation} (found : hub.wifiAdbOperations[otherId]? = some known)
    {target : QuestWifiAdbTarget} (member : target ∈ known.targets) {receipt : QuestWifiAdbOwnerReceipt}
    (received : target.receipt = some receipt) :
    ∃ event ∈ applied ++ appliedBy fleet.hub call, event.receipt = receipt := by
  by_cases same : otherId = operationId
  · subst same
    rw [edited_here ledger] at found
    obtain rfl := Option.some.inj found
    exact own_recorded kept edited member received
  · rw [edited_elsewhere ledger same] at found
    obtain ⟨event, recorded, same⟩ := kept.recorded otherId known found target member receipt received
    exact ⟨event, List.mem_append_left _ recorded, same⟩

theorem edited_requested (kept : DatesKept fleet applied)
    (allowed : KeepsDates (fleet, applied) (.hub (.wifiAdb call)))
    (edited : Edited fleet.hub call operationId operation next)
    (ledger : hub.wifiAdbOperations = fleet.hub.wifiAdbOperations.insert operationId next) {otherId : String}
    {known : QuestWifiAdbOperation} (found : hub.wifiAdbOperations[otherId]? = some known)
    (requests : known.preview.action = .requestWirelessAdb) {target : QuestWifiAdbTarget}
    (member : target ∈ known.targets) {receipt : QuestWifiAdbOwnerReceipt}
    (received : target.receipt = some receipt) {first : Int}
    (dated : firstApplied (applied ++ appliedBy fleet.hub call) receipt = some first) {event : AppliedReceipt}
    (inLog : event ∈ applied ++ appliedBy fleet.hub call)
    (disables : Disables event receipt.deviceId receipt.identityRevision) (later : first ≤ event.nowMs) :
    target.updatedAtMs ≤ event.nowMs := by
  by_cases same : otherId = operationId
  · subst same
    rw [edited_here ledger] at found
    obtain rfl := Option.some.inj found
    rw [edited.preview] at requests
    rcases own_disabled kept allowed edited requests member received dated inLog disables later with
      ⟨old, earlier, known⟩ | ⟨stamped, _⟩
    · exact kept.requested _ _ edited.stored requests target earlier receipt received first known event old
        disables later
    · rw [stamped]
      exact later
  · rw [edited_elsewhere ledger same] at found
    obtain ⟨recorded, old | clock⟩ :=
      other_disabled kept allowed edited found member received dated inLog disables
    · exact kept.requested otherId known found requests target member receipt received first recorded event old
        disables later
    · exact clock.receipts otherId known found (.inl requests) target member rfl rfl (by rw [received]; rfl)

theorem edited_bound
    (edited : Edited fleet.hub call operationId operation next)
    (ledger : hub.wifiAdbOperations = fleet.hub.wifiAdbOperations.insert operationId next) {boundId : String}
    {known : QuestWifiAdbOperation} (found : fleet.hub.wifiAdbOperations[boundId]? = some known)
    (requests : known.preview.action = .requestWirelessAdb) :
    ∃ later, hub.wifiAdbOperations[boundId]? = some later ∧ later.preview.action = .requestWirelessAdb := by
  by_cases same : boundId = operationId
  · subst same
    rw [edited.stored] at found
    obtain rfl := Option.some.inj found
    exact ⟨next, edited_here ledger, edited.preview ▸ requests⟩
  · exact ⟨known, (edited_elsewhere ledger same).trans found, requests⟩

theorem edited_proven (kept : DatesKept fleet applied)
    (allowed : KeepsDates (fleet, applied) (.hub (.wifiAdb call)))
    (edited : Edited fleet.hub call operationId operation next)
    (ledger : hub.wifiAdbOperations = fleet.hub.wifiAdbOperations.insert operationId next)
    {proofId : String} {admitted : AdmittedQuestWifiAdbTermuxProof}
    (stored : fleet.adapter.termuxProofs[proofId]? = some admitted)
    {admission : AdmittedQuestWifiAdbTermuxAdmission}
    (holds : admission ∈ admitted.admission) {known : QuestWifiAdbOperation}
    (found : hub.wifiAdbOperations[admission.boundOperationId]? = some known) {target : QuestWifiAdbTarget}
    (member : target ∈ known.targets) (device : target.deviceId = admitted.proof.deviceId)
    (identity : target.identityRevision = admitted.proof.identityRevision)
    (binds : FleetManifoldAdapter.admissionBindsReceipt admission.boundOperationId target admission)
    {receipt : QuestWifiAdbOwnerReceipt} (received : target.receipt = some receipt) {first : Int}
    (dated : firstApplied (applied ++ appliedBy fleet.hub call) receipt = some first) {event : AppliedReceipt}
    (inLog : event ∈ applied ++ appliedBy fleet.hub call)
    (disables : Disables event receipt.deviceId receipt.identityRevision) (later : first ≤ event.nowMs) :
    admitted.acceptedAtMs ≤ event.nowMs := by
  obtain ⟨bound, boundStored, requests⟩ := kept.bound proofId admitted stored admission holds
  by_cases same : admission.boundOperationId = operationId
  · rw [same, edited_here ledger] at found
    obtain rfl := Option.some.inj found
    rw [same, edited.stored] at boundStored
    obtain rfl := Option.some.inj boundStored
    rcases own_disabled kept allowed edited requests member received dated inLog disables later with
      ⟨old, earlier, recorded⟩ | ⟨_, clock⟩
    · exact kept.proven proofId admitted stored admission holds operation (by rw [same]; exact edited.stored)
        target earlier device identity binds receipt received first recorded event old disables later
    · exact le_trans (clock.proofs proofId admitted stored device.symm identity.symm) later
  · rw [edited_elsewhere ledger same] at found
    obtain ⟨recorded, old | clock⟩ :=
      other_disabled kept allowed edited found member received dated inLog disables
    · exact kept.proven proofId admitted stored admission holds known found target member device identity
        binds receipt received first recorded event old disables later
    · exact clock.proofs proofId admitted stored device.symm identity.symm

theorem edited_keeps_dates (kept : DatesKept fleet applied)
    (allowed : KeepsDates (fleet, applied) (.hub (.wifiAdb call)))
    (edited : Edited fleet.hub call operationId operation next)
    (ledger : hub.wifiAdbOperations = fleet.hub.wifiAdbOperations.insert operationId next)
    (sound : LedgerSound hub) :
    DatesKept ⟨hub, fleet.adapter⟩ (applied ++ appliedBy fleet.hub call) where
  ledger := sound
  traced := by
    intro event member
    rcases List.mem_append.mp member with earlier | fresh
    · obtain ⟨known, prior, trace⟩ := kept.traced event earlier
      exact earlier_traced allowed edited ledger trace
    · exact fresh_traced allowed edited ledger fresh
  recorded _ _ found _ member _ received := edited_recorded kept edited ledger found member received
  requested _ _ found requests _ member _ received _ dated _ inLog disables later :=
    edited_requested kept allowed edited ledger found requests member received dated inLog disables later
  keyed := kept.keyed
  bound := by
    intro proofId admitted stored admission holds
    obtain ⟨known, found, requests⟩ := kept.bound proofId admitted stored admission holds
    exact edited_bound edited ledger found requests
  proven _ _ stored _ holds _ found _ member device identity binds _ received _ dated _ inLog disables later :=
    edited_proven kept allowed edited ledger stored holds found member device identity binds received dated
      inLog disables later

end Ledger

end Edited

section Calls

variable [FleetEnvironment] {fleet : Fleet} {applied : List AppliedReceipt}

theorem created_held {hub : FleetHub} {call : WifiAdbCall} {operationId : String}
    {next : QuestWifiAdbOperation} (created : Created fleet.hub call operationId next)
    (ledger : hub.wifiAdbOperations = fleet.hub.wifiAdbOperations.insert operationId next) {otherId : String}
    {known : QuestWifiAdbOperation} (found : fleet.hub.wifiAdbOperations[otherId]? = some known) :
    hub.wifiAdbOperations[otherId]? = some known := by
  have other : otherId ≠ operationId := by
    rintro rfl
    rw [created.absent] at found
    cases found
  rw [ledger, BTreeMap.lookup_insert_of_ne _ _ other, found]

theorem created_earlier {hub : FleetHub} {call : WifiAdbCall} {operationId : String}
    {next : QuestWifiAdbOperation} (created : Created fleet.hub call operationId next)
    (ledger : hub.wifiAdbOperations = fleet.hub.wifiAdbOperations.insert operationId next) {otherId : String}
    {known : QuestWifiAdbOperation} (found : hub.wifiAdbOperations[otherId]? = some known)
    {target : QuestWifiAdbTarget} (member : target ∈ known.targets) {receipt : QuestWifiAdbOwnerReceipt}
    (received : target.receipt = some receipt) : fleet.hub.wifiAdbOperations[otherId]? = some known := by
  rw [ledger] at found
  by_cases same : otherId = operationId
  · subst same
    rw [BTreeMap.lookup_insert_self] at found
    obtain rfl := Option.some.inj found
    rw [created.unreceived target member] at received
    cases received
  · rw [BTreeMap.lookup_insert_of_ne _ _ same] at found
    exact found

theorem created_keeps_dates {call : WifiAdbCall} {operationId : String} {next : QuestWifiAdbOperation}
    (kept : DatesKept fleet applied) (created : Created fleet.hub call operationId next) {hub : FleetHub}
    (ledger : hub.wifiAdbOperations = fleet.hub.wifiAdbOperations.insert operationId next)
    (sound : LedgerSound hub) : DatesKept ⟨hub, fleet.adapter⟩ applied where
  ledger := sound
  traced := by
    intro event member
    obtain ⟨known, target, trace⟩ := kept.traced event member
    exact ⟨known, target, created_held created ledger trace.stored, trace.member, trace.action, trace.device,
      trace.identity, trace.received, trace.dated, trace.effective⟩
  recorded otherId known found target member receipt received :=
    kept.recorded otherId known (created_earlier created ledger found member received) target member receipt
      received
  requested otherId known found requests target member receipt received :=
    kept.requested otherId known (created_earlier created ledger found member received) requests target member
      receipt received
  keyed := kept.keyed
  bound := by
    intro proofId admitted stored admission holds
    obtain ⟨known, found, requests⟩ := kept.bound proofId admitted stored admission holds
    exact ⟨known, created_held created ledger found, requests⟩
  proven := by
    intro proofId admitted stored admission holds known found
    obtain ⟨bound, boundStored, _⟩ := kept.bound proofId admitted stored admission holds
    rw [created_held created ledger boundStored] at found
    obtain rfl := Option.some.inj found
    exact kept.proven proofId admitted stored admission holds bound boundStored

omit [FleetEnvironment] in
theorem fewer_proofs_keep_dates (kept : DatesKept fleet applied) {hub : FleetHub}
    {adapter : FleetManifoldAdapter} (ledger : hub.wifiAdbOperations = fleet.hub.wifiAdbOperations)
    (proofs : ∀ (proofId : String) admitted, adapter.termuxProofs[proofId]? = some admitted →
      fleet.adapter.termuxProofs[proofId]? = some admitted) : DatesKept ⟨hub, adapter⟩ applied where
  ledger := by
    rw [LedgerSound, ledger]
    exact kept.ledger
  traced := by
    intro event member
    obtain ⟨known, target, trace⟩ := kept.traced event member
    refine ⟨known, target, ?_, trace.member, trace.action, trace.device, trace.identity,
      trace.received, trace.dated, trace.effective⟩
    rw [ledger]
    exact trace.stored
  recorded := by
    rw [ledger]
    exact kept.recorded
  requested := by
    rw [ledger]
    exact kept.requested
  keyed proofId admitted stored := kept.keyed proofId admitted (proofs proofId admitted stored)
  bound := by
    rw [ledger]
    exact fun proofId admitted stored => kept.bound proofId admitted (proofs proofId admitted stored)
  proven := by
    rw [ledger]
    exact fun proofId admitted stored => kept.proven proofId admitted (proofs proofId admitted stored)

theorem wifiAdb_keeps_dates (kept : DatesKept fleet applied) (call : WifiAdbCall)
    (allowed : KeepsDates (fleet, applied) (.hub (.wifiAdb call))) :
    DatesKept ⟨(fleet.hub.handleWifiAdb call).2, fleet.adapter⟩ (applied ++ appliedBy fleet.hub call) := by
  have step := wifiAdb_step kept.ledger call
  have sound : LedgerSound (fleet.hub.handleWifiAdb call).2 := step.sound kept.ledger
  generalize ledger : (fleet.hub.handleWifiAdb call).2.wifiAdbOperations = operations at step
  cases step with
  | same unrecorded =>
    rw [unrecorded, List.append_nil]
    exact fewer_proofs_keep_dates kept ledger fun _ _ stored => stored
  | created operationId next created =>
    rw [created.unrecorded, List.append_nil]
    exact created_keeps_dates kept created ledger sound
  | edited operationId operation next edited => exact edited_keeps_dates kept allowed edited ledger sound

end Calls

end RustyFleet.WifiSafety

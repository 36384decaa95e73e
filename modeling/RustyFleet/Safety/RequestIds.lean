import RustyFleet.Safety.SessionRestore
import RustyFleet.Support.HexText
import RustyFleet.Support.Terminated

namespace RustyFleet.RequestIds

open ManifoldEnvironment AuthorityEnvironment FleetManifoldAdapter

inductive CommandFamily
  | kiosk | package | awake | wifiAdb | hotspot
deriving DecidableEq, Repr

structure OwnerActionTriple where
  operationId : String
  subjectId : String
  ownerActionRequestId : String
deriving DecidableEq

namespace OwnerActionTriple

def words (triple : OwnerActionTriple) : List String :=
  [triple.operationId, triple.subjectId, triple.ownerActionRequestId]

def NulFree (triple : OwnerActionTriple) : Prop := ∀ word ∈ triple.words, Char.ofNat 0 ∉ word.toList

instance (triple : OwnerActionTriple) : Decidable triple.NulFree :=
  inferInstanceAs (Decidable (∀ word ∈ triple.words, _))

end OwnerActionTriple

namespace CommandFamily

def domain : CommandFamily → String
  | .kiosk => "rusty.fleet.kiosk.manifold-request.v1"
  | .package => "rusty.fleet.packages.manifold-request.v1"
  | .awake => "rusty.fleet.quest-awake.manifold-request.v1"
  | .wifiAdb => "rusty.fleet.quest-wifi-adb.manifold-request.v1"
  | .hotspot => "rusty.fleet.windows-hotspot.manifold-request.v1"

def stem : CommandFamily → String
  | .kiosk => "request.fleet.kiosk."
  | .package => "request.fleet.packages."
  | .awake => "request.fleet.quest-awake."
  | .wifiAdb => "request.fleet.quest-wifi-adb."
  | .hotspot => "request.fleet.windows-hotspot."

variable [ManifoldEnvironment]

def requestId : CommandFamily → OwnerActionTriple → String
  | .kiosk, triple =>
    kioskManifoldRequestId triple.operationId triple.subjectId triple.ownerActionRequestId
  | .package, triple =>
    packageManifoldRequestId triple.operationId triple.subjectId triple.ownerActionRequestId
  | .awake, triple =>
    questAwakeManifoldRequestId triple.operationId triple.subjectId triple.ownerActionRequestId
  | .wifiAdb, triple =>
    questWifiAdbManifoldRequestId triple.operationId triple.subjectId triple.ownerActionRequestId
  | .hotspot, triple =>
    windowsHotspotManifoldRequestId triple.operationId triple.subjectId triple.ownerActionRequestId

theorem requestId_eq (family : CommandFamily) (triple : OwnerActionTriple) :
    family.requestId triple = family.stem ++ sha256Hex (separatedBytes family.domain triple.words) := by
  cases family <;> rfl

end CommandFamily

section Preimages

theorem separatedBytes_eq (domain : String) (values : List String) :
    separatedBytes domain values = terminated 0 ((domain :: values).map (·.toUTF8.toList)) := by
  unfold separatedBytes terminated
  rw [List.flatMap_map]

theorem free_bytes {values : List String} (free : ∀ value ∈ values, Char.ofNat 0 ∉ value.toList) :
    ∀ bytes ∈ values.map (·.toUTF8.toList), (0 : UInt8) ∉ bytes := by
  intro bytes listed
  obtain ⟨value, member, rfl⟩ := List.mem_map.mp listed
  exact fun zero => free value member ((String.zero_mem_utf8 value).mp zero)

theorem separated_injective {domain : String} {values others : List String}
    (free : ∀ value ∈ values, Char.ofNat 0 ∉ value.toList) (counted : values.length = others.length)
    (same : separatedBytes domain values = separatedBytes domain others) : values = others := by
  rw [separatedBytes_eq, separatedBytes_eq, List.map_cons, List.map_cons, Terminated.cons,
    Terminated.cons] at same
  have rest := (List.cons.inj (List.append_cancel_left same)).2
  have words := Terminated.injective (free_bytes free)
    (by rw [List.length_map, List.length_map, counted]) rest
  apply List.map_injective_iff.mpr _ words
  intro left right bytes
  exact String.utf8Bytes_injective bytes

theorem separated_moves (domain : String) (before : List String) (front back next : String)
    (after : List String) :
    separatedBytes domain (before ++ (front ++ "\x00" ++ back) :: next :: after) =
      separatedBytes domain (before ++ front :: (back ++ "\x00" ++ next) :: after) := by
  have nul : ("\x00" : String).toUTF8.toList = [0] := by decide +kernel
  have joined : ∀ left right : String, (left ++ "\x00" ++ right).toUTF8.toList =
      left.toUTF8.toList ++ 0 :: right.toUTF8.toList := by
    intro left right
    rw [String.utf8Bytes_append, String.utf8Bytes_append, nul, List.append_assoc]
    rfl
  have moved := @Terminated.boundary_moves _ (0 : UInt8) front.toUTF8.toList back.toUTF8.toList
    next.toUTF8.toList (after.map (·.toUTF8.toList))
  have appended : ∀ left right : List (List UInt8),
      terminated 0 (left ++ right) = terminated 0 left ++ terminated 0 right :=
    fun left right => List.flatMap_append
  simp only [separatedBytes_eq, ← List.cons_append, List.map_append, appended, List.map_cons, joined, moved]

theorem split_at_nul {word : String} (member : Char.ofNat 0 ∈ word.toList) :
    ∃ front back : String, word = front ++ "\x00" ++ back := by
  obtain ⟨front, back, parts⟩ := List.append_of_mem member
  refine ⟨String.ofList front, String.ofList back, ?_⟩
  apply String.toList_inj.mp
  simp only [parts, String.toList_append, String.toList_ofList, List.append_assoc]
  rfl

theorem extended_differs (value rest : String) : value ++ "\x00" ++ rest ≠ value := by
  intro same
  have lengths := congrArg String.length same
  rw [String.length_append, String.length_append] at lengths
  have one : ("\x00" : String).length = 1 := rfl
  omega

end Preimages

section Ids

variable [ManifoldEnvironment]

theorem families_apart {left right : CommandFamily} (differ : left ≠ right) (triple other : OwnerActionTriple) :
    left.requestId triple ≠ right.requestId other := by
  intro same
  rw [CommandFamily.requestId_eq, CommandFamily.requestId_eq] at same
  have lists := congrArg String.toList same
  rw [String.toList_append, String.toList_append] at lists
  have comparable := List.prefix_or_prefix_of_prefix (List.prefix_append left.stem.toList _)
    (lists ▸ List.prefix_append right.stem.toList _)
  revert comparable
  cases left <;> cases right <;> first | exact absurd rfl differ | decide

theorem request_id_injective (injective : Function.Injective sha256Hex) (family : CommandFamily)
    {triple other : OwnerActionTriple} (free : triple.NulFree)
    (same : family.requestId triple = family.requestId other) : triple = other := by
  rw [CommandFamily.requestId_eq, CommandFamily.requestId_eq] at same
  have digests : sha256Hex (separatedBytes family.domain triple.words) =
      sha256Hex (separatedBytes family.domain other.words) := by
    have lists := congrArg String.toList same
    rw [String.toList_append, String.toList_append] at lists
    exact String.toList_inj.mp (List.append_cancel_left lists)
  have words : triple.words = other.words := separated_injective free rfl (injective digests)
  obtain ⟨operationId, subjectId, ownerActionRequestId⟩ := triple
  obtain ⟨otherOperation, otherSubject, otherRequest⟩ := other
  simp only [OwnerActionTriple.words, List.cons.injEq, and_true] at words
  obtain ⟨rfl, rfl, rfl⟩ := words
  rfl

theorem request_id_collides (family : CommandFamily) {triple : OwnerActionTriple} (marked : ¬ triple.NulFree) :
    ∃ other, other ≠ triple ∧ family.requestId other = family.requestId triple := by
  obtain ⟨operationId, subjectId, ownerActionRequestId⟩ := triple
  have some_marked : Char.ofNat 0 ∈ operationId.toList ∨ Char.ofNat 0 ∈ subjectId.toList ∨
      Char.ofNat 0 ∈ ownerActionRequestId.toList := by
    by_contra unmarked
    simp only [not_or] at unmarked
    apply marked
    simpa only [OwnerActionTriple.NulFree, OwnerActionTriple.words, List.forall_mem_cons, List.not_mem_nil,
      false_implies, implies_true, and_true] using unmarked
  simp only [CommandFamily.requestId_eq, OwnerActionTriple.words]
  rcases some_marked with inOperation | inSubject | inRequest
  · obtain ⟨front, back, rfl⟩ := split_at_nul inOperation
    refine ⟨⟨front, back ++ "\x00" ++ subjectId, ownerActionRequestId⟩, ?_, ?_⟩
    · intro same
      exact extended_differs front back (congrArg OwnerActionTriple.operationId same).symm
    · have moved := separated_moves family.domain [] front back subjectId [ownerActionRequestId]
      exact congrArg (family.stem ++ sha256Hex ·) moved.symm
  · obtain ⟨front, back, rfl⟩ := split_at_nul inSubject
    refine ⟨⟨operationId ++ "\x00" ++ front, back, ownerActionRequestId⟩, ?_, ?_⟩
    · intro same
      exact extended_differs operationId front (congrArg OwnerActionTriple.operationId same)
    · have moved := separated_moves family.domain [] operationId front back [ownerActionRequestId]
      exact congrArg (family.stem ++ sha256Hex ·) moved
  · obtain ⟨front, back, rfl⟩ := split_at_nul inRequest
    refine ⟨⟨operationId, subjectId ++ "\x00" ++ front, back⟩, ?_, ?_⟩
    · intro same
      exact extended_differs subjectId front (congrArg OwnerActionTriple.subjectId same)
    · have moved := separated_moves family.domain [operationId] subjectId front back []
      exact congrArg (family.stem ++ sha256Hex ·) moved

end Ids

section Laws

variable [AuthorityEnvironment]

/-- What the five authorizations rely on in the Manifold runtime host. -/
structure HostLaws : Prop where
  reviewed : ∀ host request nowMs,
    (reviewCommand host request nowMs).1.appliedRequestIds = host.appliedRequestIds
  refused : ∀ host request dispatch nowMs, (applyDispatch host request dispatch nowMs).2.applied = false →
    (applyDispatch host request dispatch nowMs).1.appliedRequestIds = host.appliedRequestIds
  applied : ∀ host request dispatch nowMs, (applyDispatch host request dispatch nowMs).2.applied ≠ false →
    ∀ requestId, requestId ∈ (applyDispatch host request dispatch nowMs).1.appliedRequestIds ↔
      requestId ∈ host.appliedRequestIds ∨ requestId = request.requestId
  once : ∀ host request nowMs, request.requestId ∈ host.appliedRequestIds →
    (reviewCommand host request nowMs).2.ready = false
  restarted : ∀ host restarted, hostFromSnapshot host = .ok restarted →
    restarted.appliedRequestIds = host.appliedRequestIds
  migrated : ∀ host removed restarted migration,
    hostFromLegacyJson host removed = .ok (restarted, migration) →
      restarted.appliedRequestIds = host.appliedRequestIds

end Laws

section Steps

variable [AuthorityEnvironment] {adapter : FleetManifoldAdapter}

def AppliesFresh (adapter after : FleetManifoldAdapter) (requestId : String) : Prop :=
  requestId ∉ adapter.runtimeHost.appliedRequestIds ∧
    ∀ known, known ∈ after.runtimeHost.appliedRequestIds ↔
      known ∈ adapter.runtimeHost.appliedRequestIds ∨ known = requestId

theorem dispatch_cases (laws : HostLaws) (profile : CommandProfile) (request : ManifoldRuntimeCommandRequest)
    (nowMs : Nat) :
    (∃ text after, adapter.dispatchCommand profile request nowMs = (.error text, after) ∧
      after.runtimeHost.appliedRequestIds = adapter.runtimeHost.appliedRequestIds) ∨
    (∃ receipt after, adapter.dispatchCommand profile request nowMs = (.ok receipt, after) ∧
      AppliesFresh adapter after request.requestId) := by
  have kept := laws.reviewed adapter.runtimeHost request nowMs
  have once := laws.once adapter.runtimeHost request nowMs
  unfold dispatchCommand
  rcases review : reviewCommand adapter.runtimeHost request nowMs with ⟨host, dispatch⟩
  rw [review] at kept once
  by_cases waiting : dispatch.ready = false
  · simp only [if_pos waiting]
    exact .inl ⟨_, _, rfl, kept⟩
  have fresh : request.requestId ∉ adapter.runtimeHost.appliedRequestIds :=
    fun known => waiting (once known)
  have refused := laws.refused host request dispatch nowMs
  have applied := laws.applied host request dispatch nowMs
  simp only [if_neg waiting]
  rcases application : applyDispatch host request dispatch nowMs with ⟨next, receipt⟩
  rw [application] at refused applied
  by_cases unapplied : receipt.applied = false
  · simp only [if_pos unapplied]
    exact .inl ⟨_, _, rfl, (refused unapplied).trans kept⟩
  · simp only [if_neg unapplied]
    refine .inr ⟨_, _, rfl, fresh, ?_⟩
    intro known
    have added := applied unapplied known
    rwa [kept] at added

theorem request_named {profile : CommandProfile} {header : CommandHeader} {valid bound : Prop}
    [Decidable valid] [Decidable bound] {params : FleetCommandParams} {request : ManifoldRuntimeCommandRequest}
    (ok : adapter.commandRequest profile header valid bound params = .ok request) :
    bound ∧ request.requestId = header.manifoldRequestId := by
  simp only [commandRequest, exceptBind_ok, errorIf_ok, exists_const, not_not] at ok
  obtain ⟨_, binds, _, canonical, _, _, _, _, built⟩ := ok
  cases built
  exact ⟨binds, rfl⟩

theorem command_cases (laws : HostLaws) (profile : CommandProfile) (header : CommandHeader)
    (valid bound : Prop) [Decidable valid] [Decidable bound] (params : FleetCommandParams) (nowMs : Nat) :
    (∃ text after, adapter.authorizeCommand profile header valid bound params nowMs = (.error text, after) ∧
      after.runtimeHost.appliedRequestIds = adapter.runtimeHost.appliedRequestIds) ∨
    (∃ receipt after, adapter.authorizeCommand profile header valid bound params nowMs = (.ok receipt, after) ∧
      bound ∧ AppliesFresh adapter after header.manifoldRequestId) := by
  unfold authorizeCommand
  cases built : adapter.commandRequest profile header valid bound params with
  | error text => exact .inl ⟨_, _, rfl, rfl⟩
  | ok request =>
    obtain ⟨binds, named⟩ := request_named built
    rcases dispatch_cases laws profile request nowMs with refused | ⟨receipt, after, answered, fresh⟩
    · exact .inl refused
    · rw [named] at fresh
      exact .inr ⟨receipt, after, answered, binds, fresh⟩

end Steps

section Authorizations

def callFamily : AuthorizationCall → CommandFamily
  | .kiosk _ => .kiosk
  | .package _ => .package
  | .awake _ => .awake
  | .wifiAdb _ => .wifiAdb
  | .hotspot _ => .hotspot

def callTriple : AuthorizationCall → OwnerActionTriple
  | .kiosk authorization =>
    ⟨authorization.operationId, authorization.deviceId, authorization.ownerActionRequestId⟩
  | .package authorization =>
    ⟨authorization.operationId, authorization.deviceId, authorization.ownerActionRequestId⟩
  | .awake authorization =>
    ⟨authorization.operationId, authorization.deviceId, authorization.ownerActionRequestId⟩
  | .wifiAdb authorization =>
    ⟨authorization.operationId, authorization.deviceId, authorization.ownerActionRequestId⟩
  | .hotspot authorization =>
    ⟨authorization.operationId, authorization.leaseId, authorization.ownerActionRequestId⟩

variable [AuthorityEnvironment]

def callRequestId (call : AuthorizationCall) : String := (callFamily call).requestId (callTriple call)

theorem command_case (laws : HostLaws) {adapter : FleetManifoldAdapter} {call : AuthorizationCall} {nowMs : Nat}
    {profile : CommandProfile} {header : CommandHeader} {valid bound : Prop} {_ : Decidable valid}
    {_ : Decidable bound} {params : FleetCommandParams}
    (made : adapter.authorize nowMs call = adapter.authorizeCommand profile header valid bound params nowMs)
    (named : bound → header.manifoldRequestId = callRequestId call) :
    (∃ text after, adapter.authorize nowMs call = (.error text, after) ∧
      after.runtimeHost.appliedRequestIds = adapter.runtimeHost.appliedRequestIds) ∨
    (∃ receipt after, adapter.authorize nowMs call = (.ok receipt, after) ∧
      AppliesFresh adapter after (callRequestId call)) := by
  rw [made]
  rcases command_cases laws profile header valid bound params nowMs with
    refused | ⟨receipt, after, answered, binds, fresh⟩
  · exact .inl refused
  · rw [named binds] at fresh
    exact .inr ⟨receipt, after, answered, fresh⟩

theorem authorize_cases (laws : HostLaws) (adapter : FleetManifoldAdapter) (call : AuthorizationCall)
    (nowMs : Nat) :
    (∃ text after, adapter.authorize nowMs call = (.error text, after) ∧
      after.runtimeHost.appliedRequestIds = adapter.runtimeHost.appliedRequestIds) ∨
    (∃ receipt after, adapter.authorize nowMs call = (.ok receipt, after) ∧
      AppliesFresh adapter after (callRequestId call)) := by
  cases call with
  | kiosk authorization => exact command_case laws rfl fun bound => bound.2
  | package authorization => exact command_case laws rfl fun bound => bound.2
  | awake authorization => exact command_case laws rfl fun bound => bound.2
  | wifiAdb authorization => exact command_case laws rfl fun bound => bound.2
  | hotspot authorization => exact command_case laws rfl fun bound => bound.2.2

end Authorizations

section Runs

variable [AuthorityEnvironment]

/-- What a call adds to the record of accepted authorizations. -/
def acceptedAuthorizations (_ : Fleet) : AuthorityCall → AuthorityAnswer → List AuthorizationCall
  | .authorize call _, .authorized (.ok _) => [call]
  | _, _ => []

/-- A restart reads back the snapshot of the adapter as it stands. -/
def restartsFromOwnSnapshot (fleet : Fleet) : AuthorityCall → Prop
  | .fleet (.restoreSession snapshot _) => snapshot = fleet.adapter.snapshot
  | _ => True

theorem restarted_keeps_applied (laws : HostLaws) {stored restarted : ManifoldRuntimeHostSnapshot}
    (ok : restartRuntimeHost stored = .ok restarted) :
    restarted.appliedRequestIds = stored.appliedRequestIds := by
  unfold restartRuntimeHost at ok
  by_cases current : stored.schemaId = hostSnapshotSchema
  · rw [if_pos current] at ok
    cases host : hostFromSnapshot stored with
    | error text =>
      rw [host] at ok
      cases ok
    | ok next =>
      rw [host] at ok
      cases ok
      exact laws.restarted stored _ host
  · rw [if_neg current] at ok
    cases removed : removedHostFields stored.schemaId with
    | none =>
      rw [removed] at ok
      cases ok
    | some fields =>
      rw [removed] at ok
      simp only [exceptBind_ok, errorIf_ok, exists_const, Prod.exists] at ok
      obtain ⟨next, migration, host, _, ended⟩ := ok
      cases ended
      cases legacy : hostFromLegacyJson stored fields with
      | error text =>
        rw [legacy] at host
        cases host
      | ok migrated =>
        rw [legacy] at host
        cases host
        exact laws.migrated stored fields _ _ legacy

theorem restore_keeps_applied (laws : HostLaws) (adapter : FleetManifoldAdapter) (nowMs : Int) :
    (adapter.sessionRestored adapter.snapshot nowMs).2.runtimeHost.appliedRequestIds =
      adapter.runtimeHost.appliedRequestIds := by
  unfold sessionRestored
  cases restored : adapter.restoreSession adapter.snapshot nowMs with
  | error text => rfl
  | ok next =>
    simp only [restoreSession, exceptBind_ok, errorIf_ok, exists_const, pure, Except.pure,
      Except.ok.injEq] at restored
    obtain ⟨_, _, _, _, _, _, _, host, continued, rfl⟩ := restored
    show host.appliedRequestIds = _
    unfold restoredRuntimeHost at continued
    simp only [FleetManifoldAdapter.snapshot, exceptBind_ok, errorIf_ok, exists_const] at continued
    rw [restarted_keeps_applied laws continued.2]
    split
    · rfl
    · rfl

theorem checkin_keeps_host (fleet : Fleet) (signed : SignedFleetCheckIn) (nowMs : Int) :
    (fleet.handle (.checkIn signed nowMs)).1.adapter.runtimeHost = fleet.adapter.runtimeHost := by
  rcases CheckIns.accept_cases fleet.adapter fleet.hub signed nowMs with
    ⟨receipt, refused, ended | ended⟩ | ⟨fault, ended, _⟩ |
    ⟨receipt, checkIn, resultRevision, candidate, state, termuxProofs, _, ended, _⟩
  · simp only [Fleet.handle, ended]
  · simp only [Fleet.handle, ended]
    rfl
  · simp only [Fleet.handle, ended]
    rfl
  · simp only [Fleet.handle, ended]
    rfl

structure AppliedExactly (fleet : Fleet) (accepted : List AuthorizationCall) : Prop where
  applied : ∀ requestId, requestId ∈ fleet.adapter.runtimeHost.appliedRequestIds ↔
    ∃ call ∈ accepted, callRequestId call = requestId
  once : accepted.Pairwise fun earlier later => callRequestId earlier ≠ callRequestId later

theorem call_keeps_applied (laws : HostLaws) {fleet : Fleet} {accepted : List AuthorizationCall}
    (exact : AppliedExactly fleet accepted) (call : AuthorityCall)
    (permitted : restartsFromOwnSnapshot fleet call) :
    AppliedExactly (authorityMachine.next fleet call)
      (accepted ++ acceptedAuthorizations fleet call (authorityMachine.answer fleet call)) := by
  have unchanged : ∀ next : Fleet,
      next.adapter.runtimeHost.appliedRequestIds = fleet.adapter.runtimeHost.appliedRequestIds →
        AppliedExactly next (accepted ++ []) := by
    intro next same
    rw [List.append_nil]
    refine ⟨?_, exact.once⟩
    intro requestId
    rw [same]
    exact exact.applied requestId
  cases call with
  | fleet call =>
    cases call with
    | checkIn signed nowMs => exact unchanged _ (congrArg _ (checkin_keeps_host fleet signed nowMs))
    | hub call => exact unchanged _ rfl
    | enroll request nowMs => exact unchanged _ rfl
    | restoreSession snapshot nowMs =>
      obtain rfl : snapshot = fleet.adapter.snapshot := permitted
      exact unchanged _ (restore_keeps_applied laws fleet.adapter nowMs)
  | authorize call nowMs =>
    rcases authorize_cases laws fleet.adapter call nowMs with
      ⟨text, after, answered, same⟩ | ⟨receipt, after, answered, fresh, grown⟩
    · simp only [Machine.next, Machine.answer, authorityMachine, Fleet.handleAuthority, answered,
        acceptedAuthorizations]
      exact unchanged _ same
    · simp only [Machine.next, Machine.answer, authorityMachine, Fleet.handleAuthority, answered,
        acceptedAuthorizations]
      constructor
      · intro requestId
        rw [grown requestId, exact.applied requestId]
        simp only [List.mem_append, List.mem_singleton]
        constructor
        · rintro (⟨earlier, known, rfl⟩ | rfl)
          · exact ⟨earlier, .inl known, rfl⟩
          · exact ⟨call, .inr rfl, rfl⟩
        · rintro ⟨earlier, known | rfl, rfl⟩
          · exact .inl ⟨earlier, known, rfl⟩
          · exact .inr rfl
      · rw [List.pairwise_append]
        refine ⟨exact.once, List.pairwise_singleton _ _, ?_⟩
        intro earlier known later last same
        rw [List.mem_singleton.mp last] at same
        exact fresh ((exact.applied _).mpr ⟨earlier, known, same⟩)

theorem run_applied (laws : HostLaws) (policy : AssertedPolicy) (operators : List String)
    (calls : List AuthorityCall)
    (restarts : authorityMachine.Admits restartsFromOwnSnapshot ⟨.new policy, .new operators⟩ calls) :
    AppliedExactly (authorityMachine.run ⟨.new policy, .new operators⟩ calls)
      (authorityMachine.history acceptedAuthorizations ⟨.new policy, .new operators⟩ calls) := by
  apply authorityMachine.run_history acceptedAuthorizations restartsFromOwnSnapshot AppliedExactly _ _ calls []
    restarts
  · constructor
    · intro requestId
      constructor
      · exact fun member => absurd member List.not_mem_nil
      · rintro ⟨call, member, _⟩
        exact absurd member List.not_mem_nil
    · exact List.Pairwise.nil
  · exact fun fleet call accepted permitted exact => call_keeps_applied laws exact call permitted

/-- Each accepted authorization is the only one its request id can stand for. -/
structure OneShot (adapter : FleetManifoldAdapter) (accepted : List AuthorizationCall) : Prop where
  triples : accepted.Pairwise fun earlier later =>
    callFamily earlier = callFamily later → callTriple earlier ≠ callTriple later
  unambiguous : ∀ call ∈ accepted, ∀ triple, triple ≠ callTriple call →
    (callFamily call).requestId triple ≠ callRequestId call
  families : ∀ left right : CommandFamily, left ≠ right → ∀ triple other,
    left.requestId triple ≠ right.requestId other
  kiosk : ∀ operationId deviceId ownerActionRequestId,
    adapter.hasAppliedKioskAuthorization operationId deviceId ownerActionRequestId = true →
      ∃ call ∈ accepted, callFamily call = .kiosk ∧
        callTriple call = ⟨operationId, deviceId, ownerActionRequestId⟩
  package : ∀ operationId deviceId ownerActionRequestId,
    adapter.hasAppliedPackageAuthorization operationId deviceId ownerActionRequestId = true →
      ∃ call ∈ accepted, callFamily call = .package ∧
        callTriple call = ⟨operationId, deviceId, ownerActionRequestId⟩

theorem applied_for_triple (injective : Function.Injective sha256Hex) {fleet : Fleet}
    {accepted : List AuthorizationCall} (exact : AppliedExactly fleet accepted)
    (free : ∀ call ∈ accepted, (callTriple call).NulFree) (family : CommandFamily) (triple : OwnerActionTriple)
    (applied : family.requestId triple ∈ fleet.adapter.runtimeHost.appliedRequestIds) :
    ∃ call ∈ accepted, callFamily call = family ∧ callTriple call = triple := by
  obtain ⟨call, member, same⟩ := (exact.applied _).mp applied
  have related : callFamily call = family := by
    by_contra differ
    exact families_apart differ _ _ same
  refine ⟨call, member, related, ?_⟩
  rw [callRequestId, related] at same
  exact request_id_injective injective family (free call member) same

theorem one_shot_of_free (injective : Function.Injective sha256Hex) {fleet : Fleet}
    {accepted : List AuthorizationCall} (exact : AppliedExactly fleet accepted)
    (free : ∀ call ∈ accepted, (callTriple call).NulFree) : OneShot fleet.adapter accepted := by
  constructor
  case triples =>
    apply exact.once.imp
    intro earlier later differ related same
    apply differ
    rw [callRequestId, callRequestId, related, same]
  case unambiguous =>
    intro call member triple differ same
    exact differ (request_id_injective injective _ (free call member) same.symm).symm
  case families => exact fun left right differ triple other => families_apart differ triple other
  case kiosk =>
    intro operationId deviceId ownerActionRequestId applied
    have listed := List.contains_iff_mem.mp applied
    exact applied_for_triple injective exact free .kiosk ⟨operationId, deviceId, ownerActionRequestId⟩ listed
  case package =>
    intro operationId deviceId ownerActionRequestId applied
    have listed := List.contains_iff_mem.mp applied
    exact applied_for_triple injective exact free .package ⟨operationId, deviceId, ownerActionRequestId⟩ listed

theorem request_ids_one_shot_iff (laws : HostLaws) (injective : Function.Injective sha256Hex)
    (policy : AssertedPolicy) (operators : List String) (calls : List AuthorityCall)
    (restarts : authorityMachine.Admits restartsFromOwnSnapshot ⟨.new policy, .new operators⟩ calls) :
    OneShot (authorityMachine.run ⟨.new policy, .new operators⟩ calls).adapter
        (authorityMachine.history acceptedAuthorizations ⟨.new policy, .new operators⟩ calls) ↔
      ∀ call ∈ authorityMachine.history acceptedAuthorizations ⟨.new policy, .new operators⟩ calls,
        (callTriple call).NulFree := by
  constructor
  · intro oneShot call member
    by_contra marked
    obtain ⟨other, differ, same⟩ := request_id_collides (callFamily call) marked
    exact oneShot.unambiguous call member other differ same
  · intro free
    exact one_shot_of_free injective (run_applied laws policy operators calls restarts) free

end Runs

section Samples

def samplePreimage : Bytes :=
  separatedBytes "rusty.fleet.kiosk.manifold-request.v1" ["op-1", "quest-1", "owner-1"]

def sampleDigest : Bytes :=
  [58, 77, 34, 204, 69, 34, 16, 128, 239, 123, 191, 47, 23, 142, 62, 98, 26, 150, 46, 22, 17, 86, 221, 58, 233,
    163, 128, 170, 141, 109, 228, 100]

def sampleSha256 (bytes : Bytes) : String :=
  HexText.encode (if bytes = samplePreimage then sampleDigest
    else if bytes = sampleDigest then samplePreimage else bytes)

theorem sampleSha256_injective : Function.Injective sampleSha256 := by
  intro left right same
  have swapped := HexText.encode_injective same
  have apart : samplePreimage ≠ sampleDigest := by decide +kernel
  by_cases l : left = samplePreimage <;> by_cases r : right = samplePreimage <;>
    by_cases l' : left = sampleDigest <;> by_cases r' : right = sampleDigest <;> simp_all

@[reducible] def requestEnvironment : AuthorityEnvironment :=
  { Sessions.sessionEnvironment with sha256Hex := sampleSha256 }

theorem request_laws : @HostLaws requestEnvironment := by
  apply @HostLaws.mk requestEnvironment
  case reviewed => exact fun _ _ _ => rfl
  case refused =>
    intro host request dispatch nowMs unapplied
    cases unapplied
  case applied =>
    intro host request dispatch nowMs _ requestId
    show requestId ∈ host.appliedRequestIds ++ [request.requestId] ↔ _
    rw [List.mem_append, List.mem_singleton]
  case once =>
    intro host request nowMs known
    show (host.commandIds.contains request.commandId && !host.appliedRequestIds.contains request.requestId) = false
    rw [List.contains_iff_mem.mpr known]
    simp
  case restarted =>
    intro host restarted ok
    cases ok
    rfl
  case migrated =>
    intro host removed restarted migration ok
    cases ok

def kioskAuthorization (operationId deviceId : String) : KioskShowControlsCommandAuthorization where
  operationId := operationId
  previewId := "preview-1"
  deviceId := deviceId
  identityRevision := 1
  manifoldRequestId := @kioskManifoldRequestId requestEnvironment.toManifoldEnvironment operationId deviceId
    "owner-1"
  ownerActionRequestId := "owner-1"
  requesterId := "operator.1"
  issuedAtMs := 1000
  expiresAtMs := 61000

def startedFleet : Fleet :=
  ⟨.new PackageSafety.samplePolicy, @FleetManifoldAdapter.new requestEnvironment.toManifoldEnvironment []⟩

def authorizeKiosk (operationId deviceId : String) (nowMs : Nat) : AuthorityCall :=
  .authorize (.kiosk (kioskAuthorization operationId deviceId)) nowMs

def restartedAuthorization : List AuthorityCall :=
  let first := authorizeKiosk "op-1" "quest-1" 1000
  let authorized := (@authorityMachine requestEnvironment).run startedFleet [first]
  [first, .fleet (.restoreSession authorized.adapter.snapshot 1001), authorizeKiosk "op-1" "quest-1" 1002]

theorem restarted_authorization_one_shot :
    ((@authorityMachine requestEnvironment).history acceptedAuthorizations startedFleet
        restartedAuthorization).length = 1 ∧
      @OneShot requestEnvironment
        ((@authorityMachine requestEnvironment).run startedFleet restartedAuthorization).adapter
        ((@authorityMachine requestEnvironment).history acceptedAuthorizations
          startedFleet restartedAuthorization) := by
  refine ⟨by decide +kernel, ?_⟩
  apply (@request_ids_one_shot_iff requestEnvironment request_laws sampleSha256_injective
    PackageSafety.samplePolicy [] restartedAuthorization ⟨trivial, rfl, trivial, trivial⟩).mpr
  have free : ∀ call ∈ (@authorityMachine requestEnvironment).history
      acceptedAuthorizations startedFleet restartedAuthorization,
      (callTriple call).NulFree := by decide +kernel
  exact free

def markedAuthorization : List AuthorityCall := [authorizeKiosk "op\x00quest" "1" 1000]

/-- A triple nobody asked for is answered as authorized. -/
theorem zero_character_answers_for_another :
    ∃ (_ : AuthorityEnvironment) (policy : AssertedPolicy) (operators : List String)
        (calls : List AuthorityCall),
      HostLaws ∧ Function.Injective sha256Hex ∧
        authorityMachine.Admits restartsFromOwnSnapshot ⟨.new policy, .new operators⟩ calls ∧
        (authorityMachine.run ⟨.new policy, .new operators⟩ calls).adapter.hasAppliedKioskAuthorization
          "op" "quest\x001" "owner-1" = true ∧
        ¬ OneShot (authorityMachine.run ⟨.new policy, .new operators⟩ calls).adapter
          (authorityMachine.history acceptedAuthorizations ⟨.new policy, .new operators⟩ calls) := by
  have answered : @hasAppliedKioskAuthorization requestEnvironment.toManifoldEnvironment
      ((@authorityMachine requestEnvironment).run startedFleet markedAuthorization).adapter
      "op" "quest\x001" "owner-1" = true := by decide +kernel
  have unasked : ∀ call ∈ (@authorityMachine requestEnvironment).history
      acceptedAuthorizations startedFleet markedAuthorization,
      callTriple call ≠ ⟨"op", "quest\x001", "owner-1"⟩ := by decide +kernel
  refine ⟨requestEnvironment, PackageSafety.samplePolicy, [], markedAuthorization, request_laws,
    sampleSha256_injective, ⟨trivial, trivial⟩, answered, ?_⟩
  intro oneShot
  obtain ⟨call, member, _, same⟩ := @OneShot.kiosk requestEnvironment _ _ oneShot _ _ _ answered
  exact unasked call member same

end Samples

end RustyFleet.RequestIds

import RustyFleet.Onboarding.Profiles

namespace RustyFleet

open Net

section Segments

theorem splitSegments_unbroken (separator : Char) (value : List Char) (unbroken : separator ∉ value) :
    splitSegments separator value = [value] := by
  induction value with
  | nil => rfl
  | cons first rest ih =>
    have different : first ≠ separator := by
      intro same
      exact unbroken (same ▸ List.mem_cons_self)
    have rest := ih fun member => unbroken (List.mem_cons_of_mem _ member)
    rw [splitSegments, if_neg different, rest]

theorem splitSegments_append (separator : Char) (front rest : List Char) (unbroken : separator ∉ front) :
    splitSegments separator (front ++ separator :: rest) = front :: splitSegments separator rest := by
  induction front with
  | nil => rw [List.nil_append, splitSegments, if_pos rfl]
  | cons first others ih =>
    have different : first ≠ separator := by
      intro same
      exact unbroken (same ▸ List.mem_cons_self)
    have rest := ih fun member => unbroken (List.mem_cons_of_mem _ member)
    rw [List.cons_append, splitSegments, if_neg different, rest]

end Segments

namespace Onboarding

section Characters

theorem dottedChar_visible {c : Char} (portable : dottedChar c = true) : isWhitespace c = false := by
  simp only [dottedChar, asciiAlphanumeric, asciiDigit, asciiLowercase, asciiUppercase, Bool.or_eq_true,
    Bool.and_eq_true, decide_eq_true_eq, beq_iff_eq, Char.le_def, UInt32.le_iff_toNat_le] at portable
  have code : 45 ≤ c.toNat ∧ c.toNat ≤ 122 := by
    rcases portable with ((((⟨lower, upper⟩ | ⟨lower, upper⟩) | ⟨lower, upper⟩) | rfl) | rfl)
    · exact ⟨Nat.le_trans (by decide) lower, Nat.le_trans upper (by decide)⟩
    · exact ⟨Nat.le_trans (by decide) lower, Nat.le_trans upper (by decide)⟩
    · exact ⟨Nat.le_trans (by decide) lower, Nat.le_trans upper (by decide)⟩
    · decide
    · decide
  obtain ⟨lower, upper⟩ := code
  simp only [isWhitespace, Bool.or_eq_false_iff, Bool.and_eq_false_iff, decide_eq_false_iff_not, beq_eq_false_iff_ne]
  omega

theorem lowerHex_dotted {c : Char} (digit : isLowerHexDigit c = true) : dottedChar c = true := by
  simp only [isLowerHexDigit, Bool.or_eq_true, Bool.and_eq_true, decide_eq_true_eq] at digit
  simp only [dottedChar, asciiAlphanumeric, Bool.or_eq_true, asciiLowercase, Bool.and_eq_true, decide_eq_true_eq]
  rcases digit with decimal | ⟨lower, upper⟩
  · exact .inl (.inl (.inl (.inl decimal)))
  · exact .inl (.inl (.inl (.inr ⟨lower, Char.le_trans upper (by decide)⟩)))

theorem lowerHex_unbroken {digits : List Char} (hex : digits.all isLowerHexDigit = true) : '.' ∉ digits := by
  intro member
  have digit := List.all_eq_true.mp hex '.' member
  revert digit
  decide

theorem identifierBody_iff (c : Char) :
    isIdentifierBody c = true ↔ dottedChar c = true ∧ asciiUppercase c = false := by
  have disjoint : isIdentifierBody c = true → asciiUppercase c = false := by
    simp only [isIdentifierBody, isIdentifierEdge, asciiLowercase, asciiDigit, asciiUppercase, Bool.or_eq_true,
      Bool.and_eq_true, Bool.and_eq_false_iff, decide_eq_true_eq, decide_eq_false_iff_not, beq_iff_eq,
      Char.le_def, UInt32.le_iff_toNat_le]
    intro body
    have lowest : 'A'.val.toNat = 65 := rfl
    have highest : 'Z'.val.toNat = 90 := rfl
    have letter : 'a'.val.toNat = 97 := rfl
    have nine : '9'.val.toNat = 57 := rfl
    rcases body with ((⟨lower, _⟩ | ⟨_, upper⟩) | rfl) | rfl
    · omega
    · omega
    · exact .inr (by decide)
    · exact .inl (by decide)
  constructor
  · intro body
    refine ⟨?_, disjoint body⟩
    simp only [isIdentifierBody, isIdentifierEdge, Bool.or_eq_true] at body
    simp only [dottedChar, asciiAlphanumeric, Bool.or_eq_true]
    tauto
  · rintro ⟨portable, small⟩
    simp only [dottedChar, asciiAlphanumeric, Bool.or_eq_true, small] at portable
    simp only [isIdentifierBody, isIdentifierEdge, Bool.or_eq_true]
    tauto

end Characters

section Grammars

theorem dotted_parts {value : String} (accepted : dotted value = true) :
    ∀ segment ∈ splitSegments '.' value.toList, segment ≠ [] ∧ ∀ c ∈ segment, dottedChar c = true := by
  intro segment listed
  simp only [dotted, Bool.and_eq_true] at accepted
  have part := List.all_eq_true.mp accepted.2 segment listed
  simp only [dottedPart, Bool.and_eq_true, Bool.not_eq_true', List.isEmpty_eq_false_iff] at part
  exact ⟨part.1.1, List.all_eq_true.mp part.2⟩

theorem dotted_visible {value : String} (accepted : dotted value = true) : trimmedEmpty value = false := by
  have parts := dotted_parts accepted
  have filled : value.toList ≠ [] := by
    intro empty
    rw [empty] at parts
    exact (parts [] List.mem_cons_self).1 rfl
  apply Bool.eq_false_iff.mpr
  intro blank
  obtain ⟨c, rest, text⟩ := List.exists_cons_of_ne_nil filled
  have member : c ∈ value.toList := text ▸ List.mem_cons_self
  have white := List.all_eq_true.mp blank c member
  rcases mem_splitSegments '.' member with rfl | ⟨segment, listed, inside⟩
  · revert white
    decide
  · rw [dottedChar_visible ((parts segment listed).2 c inside)] at white
    cases white

/-- The part of the check-in's identifier grammar that onboarding does not ask of a key identifier. -/
structure FitsCheckIn (keyId : String) : Prop where
  short : keyId.utf8ByteSize ≤ maxCheckinIdentifierBytes
  lowercase : ∀ c ∈ keyId.toList, asciiUppercase c = false
  edges : ∀ segment ∈ splitSegments '.' keyId.toList,
    segment.head?.any isIdentifierEdge = true ∧ segment.getLast?.any isIdentifierEdge = true

theorem requireDottedId_iff {keyId : String} (accepted : dotted keyId = true) (path : String) :
    requireDottedId keyId path = [] ↔ FitsCheckIn keyId := by
  have parts := dotted_parts accepted
  simp only [requireDottedId, List.append_eq_nil_iff, requireNonempty_nil, dotted_visible accepted, violationIf_nil,
    not_or, not_not, true_and, List.all_eq_true, isDottedSegment, Bool.and_eq_true, Bool.not_eq_true']
  constructor
  · rintro ⟨short, segments⟩
    refine ⟨Nat.not_lt.mp short, ?_, fun segment listed => ⟨(segments segment listed).1.1.2, (segments segment listed).1.2⟩⟩
    intro c member
    rcases mem_splitSegments '.' member with rfl | ⟨segment, listed, inside⟩
    · decide
    · exact ((identifierBody_iff c).mp ((segments segment listed).2 c inside)).2
  · intro fits
    refine ⟨Nat.not_lt.mpr fits.short, ?_⟩
    intro segment listed
    have filled := List.isEmpty_eq_false_iff.mpr (parts segment listed).1
    refine ⟨⟨⟨filled, (fits.edges segment listed).1⟩, (fits.edges segment listed).2⟩, ?_⟩
    intro c inside
    have portable := (parts segment listed).2 c inside
    have small := fits.lowercase c (of_mem_splitSegments '.' listed inside)
    exact (identifierBody_iff c).mpr ⟨portable, small⟩

end Grammars

section Requests

theorem validateDevices_accepts (endpoint : String) (devices : List DeviceRequest) :
    ∀ used, validateDevices endpoint used devices = .ok () →
      ∀ device ∈ devices, device.accepted endpoint = true := by
  induction devices with
  | nil => exact fun _ _ _ member => nomatch member
  | cons first rest ih =>
    intro used ok
    simp only [validateDevices, exceptBind_ok, errorIf_ok, not_or, not_not] at ok
    obtain ⟨_, ⟨_, accepted⟩, later⟩ := ok
    intro device member
    rcases List.mem_cons.mp member with rfl | listed
    · exact accepted
    · exact ih _ later device listed

variable [OnboardingEnvironment]

theorem validateRequest_accepts {request : Request} (ok : validateRequest request = .ok ()) :
    ∃ address : SocketAddr, ∀ device ∈ request.devices, device.accepted (exactEndpoint address) = true := by
  simp only [validateRequest, exceptBind_ok] at ok
  obtain ⟨_, _, _, _, _, _, _, _, _, _, address, _, _, _, devices⟩ := ok
  exact ⟨address, validateDevices_accepts _ _ _ devices⟩

end Requests

section Endpoint

theorem addressChar_plain {c : Char} (address : isAddressChar c = true) :
    asciiLower c = c ∧ c ≠ '@' ∧ c ≠ '#' := by
  have plain : asciiUppercase c = false ∧ c ≠ '@' ∧ c ≠ '#' := by
    simp only [isAddressChar, Bool.or_eq_true, Bool.and_eq_true, decide_eq_true_eq, beq_iff_eq, Char.le_def,
      UInt32.le_iff_toNat_le] at address
    rcases address with ((((((⟨lower, upper⟩ | ⟨lower, upper⟩) | rfl) | rfl) | rfl) | rfl) | rfl)
    · have nine : '9'.val.toNat = 57 := rfl
      have zero : '0'.val.toNat = 48 := rfl
      refine ⟨?_, ?_, ?_⟩
      · simp only [asciiUppercase, Bool.and_eq_false_iff, decide_eq_false_iff_not, Char.le_def,
          UInt32.le_iff_toNat_le]
        have capital : 'A'.val.toNat = 65 := rfl
        omega
      · rintro rfl
        revert upper
        decide
      · rintro rfl
        revert lower
        decide
    · have letter : 'a'.val.toNat = 97 := rfl
      refine ⟨?_, ?_, ?_⟩
      · simp only [asciiUppercase, Bool.and_eq_false_iff, decide_eq_false_iff_not, Char.le_def,
          UInt32.le_iff_toNat_le]
        have capital : 'Z'.val.toNat = 90 := rfl
        omega
      · rintro rfl
        revert lower
        decide
      · rintro rfl
        revert lower
        decide
    all_goals decide
  exact ⟨if_neg (by simp [plain.1]), plain.2⟩

theorem plain_text (text : List Char) (plain : ∀ c ∈ text, asciiLower c = c) : text.map asciiLower = text := by
  calc text.map asciiLower = text.map id := List.map_congr_left plain
    _ = text := List.map_id text

theorem exactEndpoint_toList (address : SocketAddr) :
    (exactEndpoint address).toList = "http://".toList ++ address.display ++ "/fleet/v1/checkins".toList :=
  String.toList_ofList

theorem exactEndpoint_chars (address : SocketAddr) :
    ∀ c ∈ (exactEndpoint address).toList, asciiLower c = c ∧ c ≠ '@' ∧ c ≠ '#' := by
  have front : ∀ c ∈ "http://".toList, asciiLower c = c ∧ c ≠ '@' ∧ c ≠ '#' := by
    have all : "http://".toList.all (fun c => asciiLower c = c ∧ c ≠ '@' ∧ c ≠ '#') = true := by decide
    simpa only [List.all_eq_true, decide_eq_true_eq] using all
  have back : ∀ c ∈ "/fleet/v1/checkins".toList, asciiLower c = c ∧ c ≠ '@' ∧ c ≠ '#' := by
    have all : "/fleet/v1/checkins".toList.all (fun c => asciiLower c = c ∧ c ≠ '@' ∧ c ≠ '#') = true := by decide
    simpa only [List.all_eq_true, decide_eq_true_eq] using all
  rw [exactEndpoint_toList]
  intro c member
  rcases List.mem_append.mp member with member | last
  · rcases List.mem_append.mp member with first | middle
    · exact front c first
    · exact addressChar_plain (address.display_alphabet c middle)
  · exact back c last

theorem exactEndpoint_plain (address : SocketAddr) :
    (toAsciiLowercase (exactEndpoint address)).toList = (exactEndpoint address).toList ∧
      "http://".toList.isPrefixOf (exactEndpoint address).toList = true ∧
      '@' ∉ (exactEndpoint address).toList ∧ '#' ∉ (exactEndpoint address).toList := by
  have plain := exactEndpoint_chars address
  refine ⟨?_, ?_, ?_, ?_⟩
  · rw [toAsciiLowercase, String.toList_ofList]
    exact plain_text _ fun c member => (plain c member).1
  · rw [exactEndpoint_toList, List.isPrefixOf_iff_prefix, List.append_assoc]
    exact List.prefix_append _ _
  · intro member
    exact (plain '@' member).2.1 rfl
  · intro member
    exact (plain '#' member).2.2 rfl

end Endpoint

section Fingerprints

variable [OnboardingEnvironment]

theorem fingerprint_dotted {record : KeyRecord} {keyId : String} (recorded : validateKeyRecord record keyId = .ok ()) :
    dotted record.keyFingerprint = true := by
  simp only [validateKeyRecord, exceptBind_ok, errorIf_ok, not_or, not_not] at recorded
  obtain ⟨_, ⟨_, _, _, _, start, size, digits⟩, _⟩ := recorded
  obtain ⟨rest, text⟩ := List.isPrefixOf_iff_prefix.mp start
  have spelled : record.keyFingerprint.toList = "fingerprint".toList ++ '.' :: rest := by
    rw [← text]
    rfl
  have hex : rest.all isLowerHexDigit = true := by
    rw [← text] at digits
    exact digits
  have whole : record.keyFingerprint = fingerprintPrefix ++ String.ofList rest := by
    apply String.toList_inj.mp
    rw [String.toList_append, String.toList_ofList, text]
  have width : (String.ofList rest).utf8ByteSize = 64 := by
    rw [whole, String.utf8ByteSize_append] at size
    omega
  have filled : rest ≠ [] := by
    rintro rfl
    cases width
  have unbroken : '.' ∉ "fingerprint".toList := by decide
  simp only [dotted, Bool.and_eq_true, decide_eq_true_eq, Bool.not_eq_true']
  refine ⟨⟨?_, ?_⟩, ?_⟩
  · rw [String.isEmpty_eq_false_iff]
    rintro empty
    rw [empty] at size
    cases size
  · have total : fingerprintPrefix.utf8ByteSize = 12 := by decide
    omega
  · rw [spelled, splitSegments_append '.' _ _ unbroken, splitSegments_unbroken '.' _ (lowerHex_unbroken hex)]
    have name : dottedPart "fingerprint".toList = true := by decide
    have part : dottedPart rest = true := by
      simp only [dottedPart, Bool.and_eq_true, decide_eq_true_eq, Bool.not_eq_true', List.isEmpty_eq_false_iff]
      refine ⟨⟨filled, by omega⟩, ?_⟩
      apply List.all_eq_true.mpr
      intro c member
      exact lowerHex_dotted (List.all_eq_true.mp hex c member)
    simp only [List.all_cons, List.all_nil, name, part, Bool.and_self]

end Fingerprints

section Profiles

theorem accepted_iff (endpoint : String) (device : DeviceRequest) :
    device.accepted endpoint = true ↔
      (dotted device.deviceId ∧ dotted device.keyId ∧ dotted device.trustDomain ∧ dotted device.sourceEpoch) ∧
      (trimmedEmpty device.displayName = false ∧ trimmedEmpty device.model = false ∧
        trimmedEmpty device.hardwareClass = false) ∧
      (0 < device.identityRevision ∧ 0 < device.expectedAuthorityRevision ∧ 0 < device.statusRevision ∧
        0 < device.sourceRevision ∧ 0 < device.keyGeneration) ∧
      (10000 ≤ device.checkinTtlMs ∧ device.checkinTtlMs ≤ 300000) ∧
      (5000 ≤ device.checkinIntervalMs ∧ device.checkinIntervalMs < device.checkinTtlMs) ∧
      device.hubEndpoint = endpoint ∧ device.tags.size ≤ 64 ∧
      ∀ key value, device.tags[key]? = some value → trimmedEmpty key = false ∧ trimmedEmpty value = false ∧
        key.utf8ByteSize ≤ 128 ∧ value.utf8ByteSize ≤ 256 := by
  simp only [DeviceRequest.accepted, Bool.and_eq_true, Bool.not_eq_true', bne_iff_ne, ne_eq, decide_eq_true_eq,
    beq_iff_eq, BTreeMap.anyEntry_false_iff, Bool.or_eq_false_iff, decide_eq_false_iff_not, Nat.not_lt,
    Nat.pos_iff_ne_zero, and_assoc]

variable [OnboardingEnvironment]

theorem profile_passes {request : Request} (requested : validateRequest request = .ok ()) {device : DeviceRequest}
    (listed : device ∈ request.devices) {record : KeyRecord}
    (recorded : validateKeyRecord record device.keyId = .ok ()) :
    validateQuestProfile (device.profile record) = .ok () := by
  obtain ⟨address, accepts⟩ := validateRequest_accepts requested
  obtain ⟨⟨identifier, key, domain, epoch⟩, ⟨shown, model, hardware⟩, revisions, ttl, interval, endpoint, _, tags⟩ :=
    (accepted_iff _ _).mp (accepts device listed)
  obtain ⟨lowered, scheme, user, fragment⟩ := exactEndpoint_plain address
  have fingerprint := fingerprint_dotted recorded
  have written : (device.profile record).endpoint = (exactEndpoint address).toList := by
    rw [QuestFleetAgentProfileV1.endpoint]
    show (toAsciiLowercase device.hubEndpoint).toList = _
    rw [endpoint, lowered]
  have reachable : trimmedEmpty device.hubEndpoint = false := by
    have member : 'h' ∈ device.hubEndpoint.toList := by
      rw [endpoint]
      exact (List.isPrefixOf_iff_prefix.mp scheme).subset (by decide)
    apply Bool.eq_false_iff.mpr
    intro blank
    have white := List.all_eq_true.mp blank 'h' member
    revert white
    decide
  have texts : (device.profile record).texts.any trimmedEmpty = false := by
    simp only [QuestFleetAgentProfileV1.texts, DeviceRequest.profile, List.any_cons, List.any_nil,
      dotted_visible identifier, dotted_visible key, dotted_visible domain, dotted_visible epoch,
      dotted_visible fingerprint, shown, model, hardware, reachable, Bool.or_self]
  have visible : (BTreeMap.anyEntry (device.profile record).tags fun key value =>
      trimmedEmpty key || trimmedEmpty value) = false := by
    apply (BTreeMap.anyEntry_false_iff _ _).mpr
    intro tag value found
    obtain ⟨named, filled, _⟩ := tags tag value found
    rw [named, filled, Bool.or_self]
  simp only [validateQuestProfile, exceptBind_ok, errorIf_ok, exists_const, not_or, not_not]
  refine ⟨⟨rfl, rfl⟩, ?_, ?_, ?_⟩
  · rw [texts]
    decide
  · exact ⟨identifier, key, fingerprint, domain, Nat.ne_of_gt revisions.1, Nat.ne_of_gt revisions.2.1,
      Nat.ne_of_gt revisions.2.2.1, Nat.ne_of_gt revisions.2.2.2.1, ttl, interval⟩
  · rw [written, visible]
    refine ⟨fun neither => neither.1 scheme, ?_, ?_, by decide⟩
    · simpa using user
    · simpa using fragment

end Profiles

section CheckIns

/-- What a check-in copies from the profile of the device that signs it. -/
structure BuiltFrom (profile : QuestFleetAgentProfileV1) (signed : SignedFleetCheckIn) : Prop where
  keyId : signed.keyId = profile.keyId
  deviceId : signed.claims.observation.identity.deviceId = profile.deviceId
  displayName : signed.claims.observation.identity.displayName = profile.displayName
  model : signed.claims.observation.identity.model = profile.model
  hardwareClass : signed.claims.observation.identity.hardwareClass = profile.hardwareClass
  identityRevision : signed.claims.observation.identity.identityRevision = profile.identityRevision
  tags : signed.claims.observation.identity.tags = profile.tags
  sourceEpoch : signed.claims.observation.sourceEpoch = profile.sourceEpoch
  sourceRevision : signed.claims.observation.sourceRevision = profile.sourceRevision
  issued : 0 ≤ signed.claims.issuedAtMs
  lifetime : signed.claims.expiresAtMs = signed.claims.issuedAtMs + profile.checkinTtlMs
  signature : signed.signatureHex.utf8ByteSize = 128 ∧ signed.signatureHex.toList.all isLowerHexDigit = true

variable [ObservationCodec] [CheckInCodec]

structure FactsWellFormed (observation : DeviceObservation) : Prop where
  schema : observation.schema = "rusty.fleet.device_observation.v1"
  identityExtensions : observation.identity.extensions.size ≤ 64
  battery : observation.batteryPercent.any (· > 100) = false
  agent : (observation.agent.map agentViolations).getD [] = []
  power : (observation.power.map (powerViolations observation)).getD [] = []
  application : (observation.application.map (applicationViolations observation)).getD [] = []
  collections : ¬ (observation.conditions.length > 64 ∨ observation.streams.length > 32 ∨
    observation.capabilities.capabilities.size > 128 ∨ observation.extensions.size > 64)
  encoded : (ObservationCodec.encodedBytes observation).any (· > 2 * 1024 * 1024) = false
  conditions : indexedViolations "conditions" observation.conditions = []
  capabilities : Valid observation.capabilities
  streams : indexedViolations "streams" observation.streams = []

/-- The claims of a check-in that no profile decides are well formed, and the whole fits its limit. -/
structure RemainingWellFormed (signed : SignedFleetCheckIn) : Prop where
  schema : signed.schema = "rusty.fleet.signed_checkin.v1"
  algorithm : signed.algorithm = checkinSignatureAlgorithm
  claimsSchema : signed.claims.schema = "rusty.fleet.checkin_claims.v1"
  checkinId : requireDottedId signed.claims.checkinId "checkin_id" = []
  proposal : CheckInCodec.isJsonObject signed.claims.manifoldPeerStatusProposal = true
  sourceTime : signed.claims.observation.sourceTimeMs = signed.claims.issuedAtMs
  receivedTime : signed.claims.observation.receivedTimeMs = 0
  factWindows : signed.claims.factWindowViolations = []
  facts : FactsWellFormed signed.claims.observation
  extensions : signed.claims.extensions.size ≤ 16
  encoded : (CheckInCodec.encodedClaimsBytes signed.claims).any (· > maxCheckinBytes) = false

omit [ObservationCodec] [CheckInCodec] in
theorem window_clear (claims : FleetCheckInClaims) (ttl : Nat) (positive : 0 < ttl) (bounded : ttl ≤ 300000)
    (issued : 0 ≤ claims.issuedAtMs) (lifetime : claims.expiresAtMs = claims.issuedAtMs + ttl) :
    claims.windowViolations = [] := by
  have span : saturateI64 (claims.expiresAtMs - claims.issuedAtMs) = ttl := by
    simp only [saturateI64, i64Max, i64Min]
    omega
  simp only [FleetCheckInClaims.windowViolations, violationIf_nil, span, maxCheckinTtlMs]
  omega

omit [CheckInCodec] in
theorem observation_valid {endpoint : String} {device : DeviceRequest} (accepted : device.accepted endpoint = true)
    {record : KeyRecord} {signed : SignedFleetCheckIn} (built : BuiltFrom (device.profile record) signed)
    (facts : FactsWellFormed signed.claims.observation) : Valid signed.claims.observation := by
  obtain ⟨⟨identifier, _, _, epoch⟩, ⟨shown, model, hardware⟩, revisions, _, _, _, few, tags⟩ :=
    (accepted_iff _ _).mp accepted
  have tagged : (BTreeMap.anyEntry device.tags fun key value => trimmedEmpty key || trimmedEmpty value) = false := by
    apply (BTreeMap.anyEntry_false_iff _ _).mpr
    intro tag value found
    obtain ⟨named, filled, _⟩ := tags tag value found
    rw [named, filled, Bool.or_self]
  have identity : violations signed.claims.observation.identity = [] := by
    simp only [violations, List.append_eq_nil_iff, requireNonempty_nil, violationIf_nil, built.deviceId,
      built.displayName, built.model, built.hardwareClass, built.identityRevision, built.tags, DeviceRequest.profile]
    refine ⟨⟨⟨⟨⟨⟨dotted_visible identifier, shown⟩, model⟩, hardware⟩, Nat.ne_of_gt revisions.1⟩, ?_⟩, ?_⟩
    · rw [tagged]
      decide
    · have room := facts.identityExtensions
      omega
  have named : trimmedEmpty signed.claims.observation.sourceEpoch = false := by
    rw [built.sourceEpoch]
    exact dotted_visible epoch
  have revised : signed.claims.observation.sourceRevision ≠ 0 := by
    rw [built.sourceRevision]
    exact Nat.ne_of_gt revisions.2.2.2.1
  have capabilities : violations signed.claims.observation.capabilities = [] := facts.capabilities
  rw [Valid]
  unfold violations
  simp only [instValidateContractDeviceObservation, List.append_eq_nil_iff, violationIf_nil, requireNonempty_nil,
    facts.schema, facts.battery, facts.agent, facts.power, facts.application, facts.collections, facts.encoded,
    facts.conditions, facts.streams, capabilities, identity, named]
  tauto

theorem signed_valid_iff {endpoint : String} {device : DeviceRequest} (accepted : device.accepted endpoint = true)
    {record : KeyRecord} {signed : SignedFleetCheckIn} (built : BuiltFrom (device.profile record) signed)
    (remaining : RemainingWellFormed signed) : Valid signed ↔ FitsCheckIn device.keyId := by
  obtain ⟨⟨_, key, _, _⟩, _, _, ⟨longest, shortest⟩, _⟩ := (accepted_iff _ _).mp accepted
  have observation : violations signed.claims.observation = [] := observation_valid accepted built remaining.facts
  have window : signed.claims.windowViolations = [] :=
    window_clear _ device.checkinTtlMs (by omega) shortest built.issued built.lifetime
  have claims : violations signed.claims = [] := by
    have room := remaining.extensions
    unfold violations
    simp only [instValidateContractFleetCheckInClaims, List.append_eq_nil_iff, violationIf_nil, observation, window,
      remaining.claimsSchema, remaining.checkinId, remaining.proposal, remaining.sourceTime, remaining.receivedTime,
      remaining.factWindows, remaining.encoded, List.map_nil, ne_eq, not_not, and_true, true_and, reduceCtorEq,
      not_false_eq_true]
    exact Nat.not_lt.mpr room
  rw [Valid, ← requireDottedId_iff key "key_id"]
  have named : signed.keyId = device.keyId := built.keyId
  conv => lhs; unfold violations
  simp only [instValidateContractSignedFleetCheckIn, List.append_eq_nil_iff, violationIf_nil, remaining.schema,
    remaining.algorithm, named, built.signature.1, built.signature.2, claims, ne_eq, not_true_eq_false, or_self,
    not_false_eq_true, and_true, true_and]

/-- An onboarded device gets a profile that passes, and its well-formed check-ins are accepted exactly when
its key identifier also fits the check-in's own grammar. -/
theorem onboarded_checkIn_accepted_iff [OnboardingEnvironment] (request : Request)
    (requested : validateRequest request = .ok ()) (device : DeviceRequest) (listed : device ∈ request.devices)
    (record : KeyRecord) (recorded : validateKeyRecord record device.keyId = .ok ()) :
    validateQuestProfile (device.profile record) = .ok () ∧
      ∀ signed, BuiltFrom (device.profile record) signed → RemainingWellFormed signed →
        (validate signed = .ok () ↔ FitsCheckIn device.keyId) := by
  refine ⟨profile_passes requested listed recorded, ?_⟩
  intro signed built remaining
  obtain ⟨address, accepts⟩ := validateRequest_accepts requested
  rw [validate_ok_iff]
  exact signed_valid_iff (accepts device listed) built remaining

end CheckIns

section Samples

def sampleFingerprintHash := "425ed4e4a36b30ea21b90e21c712c649e8214c29b7eaf68089d1039c6e55384c"

def sampleDeviceHash := "9c10162687edf74003f76cdb436b583ce5f451380a2da56b7781e927eada5997"

def operatorAddress : SocketAddr := .v4 ⟨127, 0, 0, 1⟩ 8740

def checkinAddress : SocketAddr := .v4 ⟨192, 0, 2, 10⟩ 8741

/-- A platform with one drive, and the two addresses and the two digests the sample uses. -/
abbrev sampleEnvironment : OnboardingEnvironment where
  isAbsolute path := "C:\\".toList.isPrefixOf path.toList
  validateExternalPath _ := .ok ()
  parseSocketAddr text :=
    if text = "127.0.0.1:8740" then some operatorAddress
    else if text = "192.0.2.10:8741" then some checkinAddress
    else none
  hash bytes :=
    if bytes = List.replicate 32 0x42 then sampleFingerprintHash
    else if bytes = "device.1".toUTF8.toList then sampleDeviceHash
    else ""

abbrev sampleObservationCodec : ObservationCodec where
  streamViolations _ := []
  encodedBytes _ := some 469

abbrev sampleCheckInCodec : CheckInCodec where
  isJsonObject value := "\x7b".toList.isPrefixOf value.toList
  encodedClaimsBytes _ := some 628
  canonicalClaims claims := some claims.checkinId.toUTF8.toList

abbrev sampleContract : ValidateContract SignedFleetCheckIn :=
  @instValidateContractSignedFleetCheckIn sampleObservationCodec sampleCheckInCodec

def sampleDevice (keyId : String) : DeviceRequest where
  deviceId := "device.1"
  displayName := "Headset"
  model := "quest-3"
  hardwareClass := "xr-headset"
  identityRevision := 1
  expectedAuthorityRevision := 1
  statusRevision := 1
  sourceRevision := 1
  sourceEpoch := "epoch.1"
  keyId := keyId
  keyGeneration := 1
  trustDomain := "domain.1"
  checkinTtlMs := 60000
  checkinIntervalMs := 30000
  hubEndpoint := "http://192.0.2.10:8741/fleet/v1/checkins"
  tags := ∅

def sampleRequest (keyId : String) : Request where
  schema := requestSchema
  outputRoot := "C:\\fleet\\out"
  toolManifest := "C:\\fleet\\tool.json"
  hub :=
    { bind := "127.0.0.1:8740"
      checkinBind := "192.0.2.10:8741"
      stateDirectory := "C:\\fleet\\state"
      operatorId := "operator.1"
      requestIdPrefix := "enroll.1"
      credentialValidFromMs := 0
      credentialExpiresAtMs := 1000000 }
  devices := [sampleDevice keyId]

def sampleRecord (keyId : String) : KeyRecord where
  schema := keyRecordSchema
  keyId := keyId
  publicKeyHex := String.ofList ((List.replicate 32 ['4', '2']).flatten)
  keyFingerprint := fingerprintPrefix ++ sampleFingerprintHash

def sampleObservation : DeviceObservation where
  schema := "rusty.fleet.device_observation.v1"
  identity :=
    { deviceId := "device.1"
      identityRevision := 1
      displayName := "Headset"
      model := "quest-3"
      hardwareClass := "xr-headset"
      tags := ∅
      extensions := ∅ }
  sourceEpoch := "epoch.1"
  sourceRevision := 1
  sourceTimeMs := 1000
  receivedTimeMs := 0
  batteryPercent := none
  charging := none
  foregroundApp := none
  agent := none
  power := none
  application := none
  kioskState := .unknown
  conditions := []
  capabilities := { capabilities := ∅, extensions := ∅ }
  streams := []
  extensions := ∅

def sampleCheckIn (keyId : String) : SignedFleetCheckIn where
  schema := "rusty.fleet.signed_checkin.v1"
  keyId := keyId
  algorithm := checkinSignatureAlgorithm
  signatureHex := String.ofList (List.replicate 128 'a')
  claims :=
    { schema := "rusty.fleet.checkin_claims.v1"
      checkinId := "checkin.1"
      issuedAtMs := 1000
      expiresAtMs := 61000
      manifoldPeerStatusProposal := "{}"
      observation := sampleObservation
      extensions := ∅ }

theorem sampleRecord_accepted (keyId : String) :
    @validateKeyRecord sampleEnvironment (sampleRecord keyId) keyId = .ok () := by
  have key : (sampleRecord keyId).publicKeyHex.toList = (List.replicate 32 ['4', '2']).flatten :=
    String.toList_ofList
  have keySize : (sampleRecord keyId).publicKeyHex.utf8ByteSize = 64 := by
    show (String.ofList ((List.replicate 32 ['4', '2']).flatten)).utf8ByteSize = 64
    decide
  have digits : ((List.replicate 32 ['4', '2']).flatten).all isLowerHexDigit = true := by decide
  have decoded : hexDecode ((List.replicate 32 ['4', '2']).flatten) = some (List.replicate 32 0x42) := by decide
  have start : fingerprintPrefix.toList.isPrefixOf (sampleRecord keyId).keyFingerprint.toList = true := by
    rw [List.isPrefixOf_iff_prefix, sampleRecord, String.toList_append]
    exact List.prefix_append _ _
  have size : (sampleRecord keyId).keyFingerprint.utf8ByteSize = fingerprintPrefix.utf8ByteSize + 64 := by
    rw [sampleRecord, String.utf8ByteSize_append]
    rfl
  have rest : ((sampleRecord keyId).keyFingerprint.toList.drop fingerprintPrefix.length).all isLowerHexDigit =
      true := by
    rw [sampleRecord, String.toList_append, fingerprintPrefix.length_toList.symm, List.drop_left]
    decide
  have digest : @OnboardingEnvironment.hash sampleEnvironment (List.replicate 32 0x42) = sampleFingerprintHash :=
    if_pos rfl
  simp only [validateKeyRecord, exceptBind_ok, errorIf_ok, exists_const, not_or, not_not, start, rest, key, digits,
    decoded, keySize, size, digest]
  exact ⟨⟨rfl, rfl, trivial, trivial, trivial, trivial, trivial⟩, rfl⟩

theorem sampleRequest_accepted :
    @validateRequest sampleEnvironment (sampleRequest "key.1") = .ok () ∧
      @validateRequest sampleEnvironment (sampleRequest "Key.1") = .ok () := by
  constructor <;> decide

theorem sampleCheckIn_built (keyId : String) :
    BuiltFrom ((sampleDevice keyId).profile (sampleRecord keyId)) (sampleCheckIn keyId) where
  keyId := rfl
  deviceId := rfl
  displayName := rfl
  model := rfl
  hardwareClass := rfl
  identityRevision := rfl
  tags := rfl
  sourceEpoch := rfl
  sourceRevision := rfl
  issued := Int.natCast_nonneg 1000
  lifetime := by
    show (61000 : Int) = 1000 + ((60000 : Nat) : Int)
    decide
  signature := by
    show (String.ofList (List.replicate 128 'a')).utf8ByteSize = 128 ∧
      (String.ofList (List.replicate 128 'a')).toList.all isLowerHexDigit = true
    rw [String.toList_ofList]
    decide +kernel

theorem sampleObservation_facts : @FactsWellFormed sampleObservationCodec sampleObservation :=
  @FactsWellFormed.mk sampleObservationCodec sampleObservation rfl (by decide) rfl rfl rfl rfl
    (by decide) (by decide) rfl (by decide) rfl

theorem sampleCheckIn_remaining (keyId : String) :
    @RemainingWellFormed sampleObservationCodec sampleCheckInCodec (sampleCheckIn keyId) :=
  @RemainingWellFormed.mk sampleObservationCodec sampleCheckInCodec (sampleCheckIn keyId) rfl rfl rfl
    (show requireDottedId "checkin.1" "checkin_id" = [] by decide)
    (show "\x7b".toList.isPrefixOf "\x7b\x7d".toList = true by decide) rfl rfl rfl sampleObservation_facts
    (show (∅ : BTreeMap String JsonValue).size ≤ 16 by decide)
    (show (some 628).any (· > maxCheckinBytes) = false by decide)

theorem lowercase_key_accepted :
    @validateQuestProfile ((sampleDevice "key.1").profile (sampleRecord "key.1")) = .ok () ∧
      @validate _ sampleContract (sampleCheckIn "key.1") = .ok () := by
  have accepted := @onboarded_checkIn_accepted_iff sampleObservationCodec sampleCheckInCodec sampleEnvironment
    (sampleRequest "key.1") sampleRequest_accepted.1 (sampleDevice "key.1") List.mem_cons_self
    (sampleRecord "key.1") (sampleRecord_accepted "key.1")
  refine ⟨accepted.1, ?_⟩
  apply (accepted.2 _ (sampleCheckIn_built "key.1") (sampleCheckIn_remaining "key.1")).mpr
  constructor
  · decide
  · have lowered : (sampleDevice "key.1").keyId.toList.all (fun c => asciiUppercase c = false) = true := by decide
    simpa only [List.all_eq_true, decide_eq_true_eq] using lowered
  · decide

/-- Onboarding takes a key identifier with a capital letter; no check-in under it passes its contract. -/
theorem capital_key_refused :
    @validateRequest sampleEnvironment (sampleRequest "Key.1") = .ok () ∧
      @validateKeyRecord sampleEnvironment (sampleRecord "Key.1") "Key.1" = .ok () ∧
      sampleDevice "Key.1" ∈ (sampleRequest "Key.1").devices ∧
      BuiltFrom ((sampleDevice "Key.1").profile (sampleRecord "Key.1")) (sampleCheckIn "Key.1") ∧
      @RemainingWellFormed sampleObservationCodec sampleCheckInCodec (sampleCheckIn "Key.1") ∧
      @validate _ sampleContract (sampleCheckIn "Key.1") ≠ .ok () := by
  have listed : sampleDevice "Key.1" ∈ (sampleRequest "Key.1").devices := List.mem_cons_self
  have built := sampleCheckIn_built "Key.1"
  have remaining := sampleCheckIn_remaining "Key.1"
  have accepted := @validateRequest_accepts sampleEnvironment _ sampleRequest_accepted.2
  obtain ⟨address, accepts⟩ := accepted
  refine ⟨sampleRequest_accepted.2, sampleRecord_accepted _, listed, built, remaining, ?_⟩
  intro valid
  have fits : FitsCheckIn "Key.1" :=
    (@signed_valid_iff sampleObservationCodec sampleCheckInCodec _ _ (accepts _ listed) _ _ built remaining).mp
      ((@validate_ok_iff _ sampleContract _).mp valid)
  have small := fits.lowercase 'K' (by decide)
  revert small
  decide

end Samples

end Onboarding

end RustyFleet

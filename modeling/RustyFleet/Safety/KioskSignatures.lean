import RustyFleet.Adapter.KioskTransport
import RustyFleet.Support.FixedText
import RustyFleet.Support.Terminated

namespace RustyFleet.KioskAdapter

section Comparison

theorem folded_difference (pairs : List (UInt8 × UInt8)) (difference : UInt8) :
    pairs.foldl (fun difference (left, right) => difference ||| (left ^^^ right)) difference = 0 ↔
      difference = 0 ∧ ∀ pair ∈ pairs, pair.1 = pair.2 := by
  induction pairs generalizing difference with
  | nil => simp
  | cons pair rest ih =>
    rw [List.foldl_cons, ih, UInt8.or_eq_zero_iff, UInt8.xor_eq_zero_iff, List.forall_mem_cons, and_assoc]

theorem zip_agrees {left right : Bytes} (sameLength : left.length = right.length)
    (agree : ∀ pair ∈ left.zip right, pair.1 = pair.2) : left = right := by
  induction left generalizing right with
  | nil => exact (List.eq_nil_of_length_eq_zero sameLength.symm).symm
  | cons byte bytes ih =>
    cases right with
    | nil => cases sameLength
    | cons other others =>
      rw [List.zip_cons_cons, List.forall_mem_cons] at agree
      have first : byte = other := agree.1
      rw [first, ih (Nat.succ.inj sameLength) agree.2]

theorem constantTimeEqual_iff (left right : Bytes) : constantTimeEqual left right = true ↔ left = right := by
  unfold constantTimeEqual
  by_cases sameLength : left.length = right.length
  · rw [if_neg (fun differ => differ sameLength), beq_iff_eq, folded_difference]
    constructor
    · intro agree
      exact zip_agrees sameLength agree.2
    · rintro rfl
      refine ⟨rfl, fun pair member => ?_⟩
      obtain ⟨index, bound, rfl⟩ := List.getElem_of_mem member
      simp
  · rw [if_pos sameLength]
    constructor
    · exact nofun
    · rintro rfl
      exact absurd rfl sameLength

theorem constantTimeEqual_text (left right : String) :
    constantTimeEqual left.toUTF8.toList right.toUTF8.toList = true ↔ left = right := by
  rw [constantTimeEqual_iff]
  constructor
  · exact String.utf8Bytes_injective
  · rintro rfl
    rfl

end Comparison

section Canonical

def NewlineFree (value : String) : Prop := '\n' ∉ value.toList

theorem requestId_newlineFree {value : String} (valid : isRequestId value = true) : NewlineFree value := by
  intro newline
  simp only [isRequestId, Bool.and_eq_true, List.all_eq_true] at valid
  exact absurd (valid.2 _ newline) (by decide)

theorem sha256_newlineFree {value : String} (valid : isLowerHexSha256 value = true) : NewlineFree value := by
  intro newline
  simp only [isLowerHexSha256, Bool.and_eq_true, List.all_eq_true] at valid
  exact absurd (valid.2 _ newline) (by decide)

theorem timestamp_newlineFree (value : Int) : NewlineFree value.repr := by
  intro newline
  rcases FixedText.int_repr_chars newline with sign | digit
  · exact absurd sign (by decide)
  · exact absurd digit (by decide)

theorem status_newlineFree (value : Nat) : NewlineFree value.repr := by
  intro newline
  exact absurd (FixedText.repr_isDigit newline) (by decide)

theorem last_line {front otherFront back otherBack : String} (free : NewlineFree back)
    (otherFree : NewlineFree otherBack) (same : front ++ "\n" ++ back = otherFront ++ "\n" ++ otherBack) :
    front = otherFront ∧ back = otherBack := by
  have listed := congrArg String.toList same
  simp only [String.toList_append, List.append_assoc] at listed
  have parts := Terminated.split_last free otherFree listed
  exact ⟨String.toList_inj.mp parts.1, String.toList_inj.mp parts.2⟩

variable {method target requestId contentSha256 otherMethod otherTarget otherId otherSha256 : String}
  {timestamp otherTimestamp : Int}

theorem canonicalRequest_injective (target_free : NewlineFree target) (target_free' : NewlineFree otherTarget)
    (id_free : NewlineFree requestId) (id_free' : NewlineFree otherId) (sha_free : NewlineFree contentSha256)
    (sha_free' : NewlineFree otherSha256)
    (same : canonicalRequest method target requestId timestamp contentSha256 =
      canonicalRequest otherMethod otherTarget otherId otherTimestamp otherSha256) :
    toAsciiUppercase method = toAsciiUppercase otherMethod ∧ target = otherTarget ∧ requestId = otherId ∧
      timestamp = otherTimestamp ∧ contentSha256 = otherSha256 := by
  unfold canonicalRequest at same
  have digest := last_line sha_free sha_free' same
  have time := last_line (timestamp_newlineFree _) (timestamp_newlineFree _) digest.1
  have named := last_line id_free id_free' time.1
  have aimed := last_line target_free target_free' named.1
  exact ⟨aimed.1, aimed.2, named.2, FixedText.int_repr_injective time.2, digest.2⟩

variable {status otherStatus : Nat}

theorem canonicalResponse_lines (requestId : String) (status : Nat) (contentSha256 : String) :
    canonicalResponse requestId status contentSha256 =
      "RESPONSE" ++ "\n" ++ requestId ++ "\n" ++ status.repr ++ "\n" ++ contentSha256 := rfl

theorem canonicalResponse_injective (id_free : NewlineFree requestId) (id_free' : NewlineFree otherId)
    (sha_free : NewlineFree contentSha256) (sha_free' : NewlineFree otherSha256)
    (same : canonicalResponse requestId status contentSha256 =
      canonicalResponse otherId otherStatus otherSha256) :
    requestId = otherId ∧ status = otherStatus ∧ contentSha256 = otherSha256 := by
  rw [canonicalResponse_lines, canonicalResponse_lines] at same
  have digest := last_line sha_free sha_free' same
  have stated := last_line (status_newlineFree _) (status_newlineFree _) digest.1
  have named := last_line id_free id_free' stated.1
  exact ⟨named.2, FixedText.repr_injective stated.2, digest.2⟩

theorem canonicalRequest_ne_response (id_free : NewlineFree requestId) (id_free' : NewlineFree otherId)
    (sha_free : NewlineFree contentSha256) (sha_free' : NewlineFree otherSha256) :
    canonicalRequest method target requestId timestamp contentSha256 ≠
      canonicalResponse otherId status otherSha256 := by
  intro same
  rw [canonicalResponse_lines] at same
  have digest := last_line sha_free sha_free' same
  have stated := last_line (timestamp_newlineFree _) (status_newlineFree _) digest.1
  have named := last_line id_free id_free' stated.1
  have newline : '\n' ∈ ("RESPONSE" : String).toList := by
    rw [← named.1, String.toList_append, String.toList_append]
    exact List.mem_append_left _ (List.mem_append_right _ (List.mem_singleton.mpr rfl))
  exact absurd newline (by decide)

end Canonical

section Signatures

variable [Sha256]

theorem hmacSha256_injective (injective : Function.Injective Sha256.digest) (key : Bytes) :
    Function.Injective (hmacSha256 key) := by
  intro left right same
  have inner := injective (List.append_cancel_left (injective same))
  exact List.append_cancel_left inner

theorem signature_injective (injective : Function.Injective Sha256.digest) (pairingKey : String) :
    Function.Injective (signature pairingKey) := by
  intro left right same
  have bytes := hmacSha256_injective injective _ (HexText.encode_injective same)
  exact String.utf8Bytes_injective bytes

theorem sha256Hex_injective (injective : Function.Injective Sha256.digest) : Function.Injective sha256Hex :=
  HexText.encode_injective.comp injective

structure RequestSigned (pairingKey method target requestId : String) (timestamp : Int)
    (contentSha256 signed : String) : Prop where
  target_free : NewlineFree target
  id_free : NewlineFree requestId
  sha_free : NewlineFree contentSha256
  signed_eq : signed = signature pairingKey (canonicalRequest method target requestId timestamp contentSha256)

structure ResponseSigned (pairingKey requestId : String) (status : Nat) (contentSha256 signed : String) :
    Prop where
  id_free : NewlineFree requestId
  sha_free : NewlineFree contentSha256
  signed_eq : signed = signature pairingKey (canonicalResponse requestId status contentSha256)

variable {pairingKey method target requestId contentSha256 signed otherMethod otherTarget otherId
  otherSha256 : String} {timestamp otherTimestamp : Int} {status otherStatus : Nat}

theorem requestSigned_of_ok
    (ok : signRequest pairingKey method target requestId timestamp contentSha256 = .ok signed) :
    RequestSigned pairingKey method target requestId timestamp contentSha256 signed := by
  unfold signRequest at ok
  split at ok
  · cases ok
  · rename_i passed
    simp only [not_or, Classical.not_not, List.any_eq_true, Bool.or_eq_true, beq_iff_eq, not_exists,
      not_and] at passed
    obtain ⟨_, id, sha, _, lines⟩ := passed
    exact ⟨fun newline => (lines _ newline).2 rfl, requestId_newlineFree id, sha256_newlineFree sha,
      (Except.ok.inj ok).symm⟩

theorem responseSigned_of_ok (ok : signResponse pairingKey requestId status contentSha256 = .ok signed) :
    ResponseSigned pairingKey requestId status contentSha256 signed := by
  unfold signResponse at ok
  split at ok
  · cases ok
  · rename_i passed
    simp only [not_or, Classical.not_not] at passed
    obtain ⟨_, id, sha⟩ := passed
    exact ⟨requestId_newlineFree id, sha256_newlineFree sha, (Except.ok.inj ok).symm⟩

variable (injective : Function.Injective Sha256.digest)
include injective

theorem request_signature_unique
    (ok : signRequest pairingKey method target requestId timestamp contentSha256 = .ok signed)
    (other : signRequest pairingKey otherMethod otherTarget otherId otherTimestamp otherSha256 = .ok signed) :
    toAsciiUppercase method = toAsciiUppercase otherMethod ∧ target = otherTarget ∧ requestId = otherId ∧
      timestamp = otherTimestamp ∧ contentSha256 = otherSha256 := by
  have first := requestSigned_of_ok ok
  have second := requestSigned_of_ok other
  apply canonicalRequest_injective first.target_free second.target_free first.id_free second.id_free
    first.sha_free second.sha_free
  exact signature_injective injective pairingKey (first.signed_eq.symm.trans second.signed_eq)

theorem response_signature_unique (ok : signResponse pairingKey requestId status contentSha256 = .ok signed)
    (other : signResponse pairingKey otherId otherStatus otherSha256 = .ok signed) :
    requestId = otherId ∧ status = otherStatus ∧ contentSha256 = otherSha256 := by
  have first := responseSigned_of_ok ok
  have second := responseSigned_of_ok other
  apply canonicalResponse_injective first.id_free second.id_free first.sha_free second.sha_free
  exact signature_injective injective pairingKey (first.signed_eq.symm.trans second.signed_eq)

theorem request_signature_not_response
    (ok : signRequest pairingKey method target requestId timestamp contentSha256 = .ok signed) :
    signResponse pairingKey otherId status otherSha256 ≠ .ok signed := by
  intro other
  have first := requestSigned_of_ok ok
  have second := responseSigned_of_ok other
  apply canonicalRequest_ne_response first.id_free second.id_free first.sha_free second.sha_free
  exact signature_injective injective pairingKey (first.signed_eq.symm.trans second.signed_eq)

end Signatures

section Verification

theorem requireHeader_ok (headers : BTreeMap String String) (expected value : String) :
    requireHeader headers expected = .ok value ↔ header headers expected = some value := by
  unfold requireHeader
  cases header headers expected <;> simp

variable [Sha256]

structure Carries (response : KioskHttpResponse) (requestId contentSha256 signed : String) : Prop where
  named : header response.headers headerRequestId = some requestId
  digested : header response.headers headerContentSha256 = some contentSha256
  signed : header response.headers headerSignature = some signed

theorem verifySignedResponse_iff (pairingKey requestId : String) (response : KioskHttpResponse) :
    verifySignedResponse pairingKey requestId response = .ok () ↔
      ∃ signed, signResponse pairingKey requestId response.status (sha256Hex response.body) = .ok signed ∧
        Carries response requestId (sha256Hex response.body) signed := by
  unfold verifySignedResponse
  simp only [exceptBind_ok, requireHeader_ok, errorIf_ok, constantTimeEqual_text, Classical.not_not,
    exists_and_left, exists_const]
  constructor
  · rintro ⟨named, id, digest, sha, declared, held, rfl, rfl, signed, ok, rfl⟩
    exact ⟨declared, ok, id, sha, held⟩
  · rintro ⟨signed, ok, carries⟩
    exact ⟨requestId, carries.named, _, carries.digested, signed, carries.signed, rfl, rfl, signed, ok, rfl⟩

end Verification

structure RequestFields where
  method : String
  requestTarget : String
  requestId : String
  timestampSeconds : Int
  contentSha256 : String

structure ResponseFields where
  requestId : String
  status : Nat
  contentSha256 : String

section Unambiguous

variable [Sha256]

def RequestFields.sign (fields : RequestFields) (pairingKey : String) : AdapterResult String :=
  signRequest pairingKey fields.method fields.requestTarget fields.requestId fields.timestampSeconds
    fields.contentSha256

def ResponseFields.sign (fields : ResponseFields) (pairingKey : String) : AdapterResult String :=
  signResponse pairingKey fields.requestId fields.status fields.contentSha256

structure RequestFields.Same (fields other : RequestFields) : Prop where
  method : toAsciiUppercase fields.method = toAsciiUppercase other.method
  requestTarget : fields.requestTarget = other.requestTarget
  requestId : fields.requestId = other.requestId
  timestampSeconds : fields.timestampSeconds = other.timestampSeconds
  contentSha256 : fields.contentSha256 = other.contentSha256

/-- No signature under one key stands for two messages, and a response is believed exactly when it carries
its own. -/
structure Unambiguous (pairingKey : String) : Prop where
  requests : ∀ (fields other : RequestFields) signed, fields.sign pairingKey = .ok signed →
    other.sign pairingKey = .ok signed → fields.Same other
  responses : ∀ (fields other : ResponseFields) signed, fields.sign pairingKey = .ok signed →
    other.sign pairingKey = .ok signed → fields = other
  separated : ∀ (fields : RequestFields) (other : ResponseFields) signed,
    fields.sign pairingKey = .ok signed → other.sign pairingKey ≠ .ok signed
  verified : ∀ requestId response, verifySignedResponse pairingKey requestId response = .ok () ↔
    ∃ signed, signResponse pairingKey requestId response.status (sha256Hex response.body) = .ok signed ∧
      Carries response requestId (sha256Hex response.body) signed
  authentic : ∀ requestId response signed, verifySignedResponse pairingKey requestId response = .ok () →
    header response.headers headerSignature = some signed →
      (∀ fields : RequestFields, fields.sign pairingKey ≠ .ok signed) ∧
        ∀ otherId status body, signResponse pairingKey otherId status (sha256Hex body) = .ok signed →
          otherId = requestId ∧ status = response.status ∧ body = response.body

theorem signed_transport_unambiguous (injective : Function.Injective Sha256.digest) (pairingKey : String) :
    Unambiguous pairingKey where
  requests := by
    intro fields other signed ok also
    have same := request_signature_unique injective ok also
    exact ⟨same.1, same.2.1, same.2.2.1, same.2.2.2.1, same.2.2.2.2⟩
  responses := by
    rintro ⟨requestId, status, contentSha256⟩ ⟨otherId, otherStatus, otherSha256⟩ signed ok also
    obtain ⟨rfl, rfl, rfl⟩ := response_signature_unique injective ok also
    rfl
  separated := by
    intro fields other signed ok
    exact request_signature_not_response injective ok
  verified := verifySignedResponse_iff pairingKey
  authentic := by
    intro requestId response signed verified held
    obtain ⟨expected, ok, carries⟩ := (verifySignedResponse_iff _ _ _).mp verified
    obtain rfl : signed = expected := Option.some.inj (held.symm.trans carries.signed)
    constructor
    · intro fields signedAs
      exact request_signature_not_response injective signedAs ok
    · intro otherId status body also
      obtain ⟨id, stated, digest⟩ := response_signature_unique injective also ok
      exact ⟨id, stated, sha256Hex_injective injective digest⟩

end Unambiguous

section Samples

abbrev sampleSha256 : Sha256 := ⟨id⟩

def sampleBody : Bytes := List.replicate 32 7

def sampleResponse : KioskHttpResponse where
  status := 200
  headers := ((((∅ : BTreeMap String String).insert "X-Rusty-Request-Id" "request-1").insert
    headerContentSha256 (@sha256Hex sampleSha256 sampleBody)).insert
    headerSignature (@signature sampleSha256 "pairing" (canonicalResponse "request-1" 200
      (@sha256Hex sampleSha256 sampleBody))))
  body := sampleBody
  redirected := false
  receivedAtMs := 1000

theorem signedHeaders_held (named digested signed : String) :
    let headers := (((∅ : BTreeMap String String).insert "X-Rusty-Request-Id" named).insert headerContentSha256
      digested).insert headerSignature signed
    header headers headerRequestId = some named ∧ header headers headerContentSha256 = some digested ∧
      header headers headerSignature = some signed := ⟨rfl, rfl, rfl⟩

end Samples

theorem sample_response_authentic :
    @verifySignedResponse sampleSha256 "pairing" "request-1" sampleResponse = .ok () ∧
      ∀ fields : RequestFields, @RequestFields.sign sampleSha256 fields "pairing" ≠
        .ok (@signature sampleSha256 "pairing" (canonicalResponse "request-1" 200
          (@sha256Hex sampleSha256 sampleBody))) := by
  have unambiguous := @signed_transport_unambiguous sampleSha256 Function.injective_id "pairing"
  have carries : Carries sampleResponse "request-1" (@sha256Hex sampleSha256 sampleBody)
      (@signature sampleSha256 "pairing" (canonicalResponse "request-1" 200
        (@sha256Hex sampleSha256 sampleBody))) := by
    obtain ⟨named, digested, signed⟩ := signedHeaders_held "request-1" (@sha256Hex sampleSha256 sampleBody)
      (@signature sampleSha256 "pairing" (canonicalResponse "request-1" 200 (@sha256Hex sampleSha256 sampleBody)))
    exact ⟨named, digested, signed⟩
  have signed : @signResponse sampleSha256 "pairing" "request-1" 200 (@sha256Hex sampleSha256 sampleBody) =
      .ok (@signature sampleSha256 "pairing" (canonicalResponse "request-1" 200
        (@sha256Hex sampleSha256 sampleBody))) := if_neg (by decide)
  have verified := (@Unambiguous.verified sampleSha256 _ unambiguous "request-1" sampleResponse).mpr
    ⟨_, signed, carries⟩
  exact ⟨verified, (@Unambiguous.authentic sampleSha256 _ unambiguous _ _ _ verified carries.signed).1⟩

end RustyFleet.KioskAdapter

import RustyFleet.Local.HttpResponses
import RustyFleet.Support.Exact

namespace RustyFleet.HttpClients

open Framing

section Steps

variable {ε α : Type}

theorem checkedAdd_fits {left right : Nat} (fits : left + right ≤ usizeMax) :
    checkedAdd left right = some (left + right) :=
  if_pos fits

end Steps

section Headers

variable {ε : Type} {malformed repeated : ε} {emptyRefused : Bool}

theorem collectHeaders_cons {headers final : BTreeMap String String} {line : List Char} {rest : List (List Char)}
    (collected : collectHeaders malformed repeated emptyRefused headers (line :: rest) = .ok final) :
    ∃ name value, splitOnce ':' line = some (name, value) ∧
      headers[String.ofList ((trim name).map asciiLower)]? = none ∧
      collectHeaders malformed repeated emptyRefused
        (headers.insert (String.ofList ((trim name).map asciiLower)) (String.ofList (trim value))) rest = .ok final := by
  simp only [collectHeaders, exceptBind_ok, orError_ok, errorIf_ok, exists_const, Prod.exists] at collected
  obtain ⟨name, value, split, fresh, later⟩ := collected
  refine ⟨name, value, split, ?_, later⟩
  have absent := fun member => fresh (.inr member)
  simpa using absent

theorem collectHeaders_keeps (lines : List (List Char)) : ∀ {headers final : BTreeMap String String},
    collectHeaders malformed repeated emptyRefused headers lines = .ok final →
      ∀ {name value : String}, headers[name]? = some value → final[name]? = some value := by
  induction lines with
  | nil =>
    intro headers final collected name value found
    cases collected
    exact found
  | cons line rest ih =>
    intro headers final collected name value found
    obtain ⟨own, text, _, fresh, later⟩ := collectHeaders_cons collected
    apply ih later
    have different : name ≠ String.ofList ((trim own).map asciiLower) := by
      rintro rfl
      rw [fresh] at found
      cases found
    rw [BTreeMap.lookup_insert_of_ne _ _ different]
    exact found

theorem lowered_eq (text : List Char) (name : String) (lower : name.toList.map asciiLower = name.toList) :
    eqIgnoreAsciiCase text name.toList = true ↔ String.ofList (text.map asciiLower) = name := by
  rw [eqIgnoreAsciiCase, beq_iff_eq, lower]
  constructor
  · intro same
    rw [same, String.ofList_toList]
  · intro same
    rw [← same, String.toList_ofList]

theorem scan_of_collected {maximumBodyBytes contentLength : Nat} {text : String} {final : BTreeMap String String}
    (chunked : final["transfer-encoding"]? = none) (announced : final["content-length"]? = some text)
    (parsed : parseUnsigned usizeMax text.toList = some contentLength) (bounded : contentLength ≤ maximumBodyBytes)
    (lines : List (List Char)) : ∀ (headers : BTreeMap String String) (found : Option Nat),
      collectHeaders malformed repeated emptyRefused headers lines = .ok final →
      (headers["content-length"]? = none ∧ found = none ∨
        headers["content-length"]? = some text ∧ found = some contentLength) →
      scanContentLength maximumBodyBytes found lines = .ok (some contentLength) := by
  have lengthName : "content-length".toList.map asciiLower = "content-length".toList := by decide
  have encodingName : "transfer-encoding".toList.map asciiLower = "transfer-encoding".toList := by decide
  induction lines with
  | nil =>
    intro headers found collected seen
    cases collected
    rcases seen with ⟨missing, _⟩ | ⟨_, rfl⟩
    · rw [announced] at missing
      cases missing
    · rfl
  | cons line rest ih =>
    intro headers found collected seen
    obtain ⟨name, value, split, fresh, later⟩ := collectHeaders_cons collected
    have stored := BTreeMap.lookup_insert_self headers (String.ofList ((trim name).map asciiLower))
      (String.ofList (trim value))
    have plain : eqIgnoreAsciiCase (trim name) "transfer-encoding".toList = false := by
      apply Bool.eq_false_iff.mpr
      intro chunks
      rw [lowered_eq _ _ encodingName] at chunks
      rw [chunks] at stored later
      rw [collectHeaders_keeps rest later stored] at chunked
      cases chunked
    simp only [scanContentLength, exceptBind_ok, orError_ok, errorIf_ok, exists_const, split, Option.some.injEq,
      exists_eq_left', plain, Bool.false_eq_true, not_false_eq_true, true_and]
    by_cases length : eqIgnoreAsciiCase (trim name) "content-length".toList = true
    · have key := (lowered_eq _ _ lengthName).mp length
      rw [key] at stored later fresh
      have same := collectHeaders_keeps rest later stored
      rw [announced] at same
      have unseen : found = none := by
        rcases seen with ⟨_, rfl⟩ | ⟨known, _⟩
        · rfl
        · rw [fresh] at known
          cases known
      have content : trim value = text.toList := by
        rw [Option.some.inj same, String.toList_ofList]
      have small : ¬ contentLength > maximumBodyBytes := Nat.not_lt.mpr bounded
      rw [if_pos length]
      simp only [exceptBind_ok, orError_ok, errorIf_ok, exists_const, unseen, content, parsed, Option.some.injEq,
        exists_eq_left', small, Option.isSome_none, Bool.false_eq_true, not_false_eq_true, true_and]
      apply ih _ _ later
      exact .inr ⟨stored.trans same.symm, rfl⟩
    · have different : "content-length" ≠ String.ofList ((trim name).map asciiLower) := by
        intro key
        exact length ((lowered_eq _ _ lengthName).mpr key.symm)
      rw [if_neg length]
      apply ih _ _ later
      rw [BTreeMap.lookup_insert_of_ne _ _ different]
      exact seen

end Headers

section Frames

variable {ε : Type} {framer : Framer UInt8 ε} {response : Bytes} {headerEnd : Nat}

structure Announces (framer : Framer UInt8 ε) (response : Bytes) (headerEnd : Nat) : Prop where
  located : firstMatch headerTerminator response = some headerEnd
  open_header : ∀ count, count < headerEnd + 4 →
    ((∃ expected, framer.expectedLength (response.take count) = .ok expected) ↔ count ≤ headerMaximum) ∧
      ∀ expected, framer.expectedLength (response.take count) ≠ .ok (some expected)
  closed_header : ∀ count, headerEnd + 4 ≤ count → count ≤ response.length →
    framer.expectedLength (response.take count) = .ok (some response.length)

theorem Announces.bound (announces : Announces framer response headerEnd) : headerEnd + 4 ≤ response.length :=
  firstMatch_bound announces.located

theorem Announces.recognises (announces : Announces framer response headerEnd) : Recognises framer response := by
  have bound := announces.bound
  refine ⟨?_, ?_, ?_⟩
  · rintro rfl
    rw [List.length_nil] at bound
    omega
  · have whole := announces.closed_header response.length bound (Nat.le_refl _)
    rwa [List.take_length] at whole
  · intro count inside expected announced
    by_cases short : count < headerEnd + 4
    · exact absurd announced ((announces.open_header count short).2 expected)
    · rw [announces.closed_header count (Nat.not_lt.mp short) (Nat.le_of_lt inside)] at announced
      cases announced
      rfl

/-- The response fits the wire limit, and no read ends past 32 KiB while the header is still open. -/
structure WithinLimits (maximum : Nat) (response : Bytes) (reads : List Bytes) : Prop where
  whole : response.length ≤ maximum
  header : ∀ headerEnd, firstMatch headerTerminator response = some headerEnd →
    ∀ count, ReadEnds reads count → headerMaximum < count → headerEnd + 4 ≤ count

theorem readEnds_within {reads : List Bytes} (content : reads.flatten = response) {count : Nat}
    (ends : ReadEnds reads count) : count ≤ response.length := by
  obtain ⟨front, back, rfl, _, rfl⟩ := ends
  rw [← content, List.flatten_append, List.length_append]
  omega

theorem Announces.tolerated_iff (announces : Announces framer response headerEnd) {reads : List Bytes}
    (content : reads.flatten = response) :
    Tolerated framer response reads 0 ↔ WithinLimits framer.maximum response reads := by
  constructor
  · rintro ⟨small, announced⟩
    refine ⟨small, ?_⟩
    intro other located count ends past
    rw [announces.located] at located
    cases located
    by_contra short
    have refused := ((announces.open_header count (Nat.not_le.mp short)).1.mp (by
      have known := announced count ends
      rwa [Nat.zero_add] at known))
    omega
  · intro within
    refine ⟨within.whole, ?_⟩
    intro count ends
    rw [Nat.zero_add]
    by_cases short : count < headerEnd + 4
    · apply (announces.open_header count short).1.mpr
      by_contra past
      have closed := within.header headerEnd announces.located count ends (Nat.not_le.mp past)
      omega
    · exact ⟨_, announces.closed_header count (Nat.not_lt.mp short) (readEnds_within content ends)⟩

/-- The loop ends at the end of the response, nothing is left to read, and what it collected parses so. -/
def Receives {β : Type} (outcome : ReadOutcome UInt8 ε) (parse : Bytes → Except ε β) (parsed : β) : Prop :=
  ∃ collected, outcome = .finished collected [] ∧ parse collected = .ok parsed

theorem Announces.receives_iff {β : Type} (announces : Announces framer response headerEnd)
    {parse : Bytes → Except ε β} {parsed : β} (accepted : parse response = .ok parsed) {reads : List Bytes}
    (content : reads.flatten = response) (filled : ∀ chunk ∈ reads, chunk ≠ []) :
    Receives (readLoop framer [] (reads.map .ok)) parse parsed ↔ WithinLimits framer.maximum response reads := by
  obtain ⟨succeeds, fails⟩ := readLoop_collects announces.recognises content filled
  rw [← announces.tolerated_iff content]
  constructor
  · rintro ⟨collected, finished, _⟩
    by_contra refused
    obtain ⟨error, failed⟩ := fails refused
    rw [finished] at failed
    cases failed
  · intro tolerated
    exact ⟨response, succeeds tolerated, accepted⟩

end Frames

section Clients

theorem terminator_filled : headerTerminator ≠ [] := List.cons_ne_nil _ _

theorem announced_length {response : Bytes} (sized : response.length ≤ isizeMax) {headerEnd contentLength : Nat}
    (whole : response.length = min (headerEnd + 4 + contentLength) usizeMax) :
    (checkedAdd headerEnd 4).bind (checkedAdd · contentLength) = some response.length := by
  have wide : isizeMax < usizeMax := by decide
  have first : headerEnd + 4 ≤ usizeMax := by omega
  have exact : response.length = headerEnd + 4 + contentLength := by omega
  rw [checkedAdd_fits first, Option.bind_some, checkedAdd_fits (by omega), exact]

section Prefixes

variable {response : Bytes} {headerEnd count : Nat}

theorem open_prefix (located : firstMatch headerTerminator response = some headerEnd) (short : count < headerEnd + 4) :
    firstMatch headerTerminator (response.take count) = none ∧ (response.take count).length = count := by
  have bound : headerEnd + 4 ≤ response.length := firstMatch_bound located
  exact ⟨firstMatch_take_none located short, List.length_take_of_le (by omega)⟩

theorem closed_prefix (located : firstMatch headerTerminator response = some headerEnd) (enough : headerEnd + 4 ≤ count) :
    firstMatch headerTerminator (response.take count) = some headerEnd ∧
      (response.take count).take headerEnd = response.take headerEnd := by
  refine ⟨firstMatch_take_some terminator_filled located enough, ?_⟩
  rw [List.take_take]
  congr 1
  omega

theorem open_refuses {ε : Type} (error : ε) (size : Nat) :
    ((∃ expected : Option Nat, (if size > headerMaximum then .error error else .ok none : Except ε (Option Nat)) =
        .ok expected) ↔ size ≤ headerMaximum) ∧
      ∀ expected : Nat, (if size > headerMaximum then .error error else .ok none : Except ε (Option Nat)) ≠
        .ok (some expected) := by
  by_cases large : size > headerMaximum
  · rw [if_pos large]
    refine ⟨⟨?_, fun small => absurd large (Nat.not_lt.mpr small)⟩, fun _ returned => nomatch returned⟩
    rintro ⟨_, returned⟩
    cases returned
  · rw [if_neg large]
    exact ⟨⟨fun _ => Nat.not_lt.mp large, fun _ => ⟨none, rfl⟩⟩, fun _ returned => nomatch returned⟩

end Prefixes

theorem kiosk_announces {unixTimeMs : Except String Int} {maximumBodyBytes : Nat} {response : Bytes}
    (sized : response.length ≤ isizeMax) {parsed : KioskAdapter.KioskHttpResponse}
    (accepted : parseKioskHttpResponse unixTimeMs response maximumBodyBytes = .ok parsed) :
    ∃ headerEnd, Announces (kioskFramer maximumBodyBytes) response headerEnd := by
  simp only [parseKioskHttpResponse, exceptBind_ok, orError_ok, errorIf_ok, exists_const, not_not] at accepted
  obtain ⟨headerEnd, located, _, headerText, decoded, _, _, _, _, headers, collected, chunked, text, announced,
    contentLength, length, bounded, whole, _⟩ := accepted
  have plain : headers["transfer-encoding"]? = none := by simpa using chunked
  have scanned := scan_of_collected plain announced length (Nat.not_lt.mp bounded) ((splitLines headerText).drop 1)
    ∅ none collected (.inl ⟨Std.ExtTreeMap.getElem?_empty, rfl⟩)
  refine ⟨headerEnd, located, ?_, ?_⟩
  · intro count short
    obtain ⟨unfound, size⟩ := open_prefix located short
    simp only [kioskFramer, expectedHttpResponseLength, unfound, size]
    exact open_refuses _ count
  · intro count enough _
    obtain ⟨found, header⟩ := closed_prefix located enough
    simp only [kioskFramer, expectedHttpResponseLength, found, header, exceptBind_ok, orError_ok, decoded, scanned,
      Option.some.injEq, exists_eq_left', announced_length sized whole, Except.ok.injEq]
    rfl

theorem fleetctl_announces {response : Bytes} (sized : response.length ≤ isizeMax) {status : Nat} {body : Bytes}
    (accepted : parseFrame response = .ok (status, body)) :
    ∃ headerEnd, Announces fleetctlFramer response headerEnd := by
  simp only [parseFrame, exceptBind_ok, orError_ok, errorIf_ok, exists_const, not_not, Prod.exists] at accepted
  obtain ⟨headerEnd, located, _, contentLength, headers, whole, _⟩ := accepted
  refine ⟨headerEnd, located, ?_, ?_⟩
  · intro count short
    obtain ⟨unfound, size⟩ := open_prefix located short
    simp only [fleetctlFramer, expectedWireLength, unfound, size]
    exact open_refuses _ count
  · intro count enough _
    obtain ⟨found, header⟩ := closed_prefix located enough
    simp only [fleetctlFramer, expectedWireLength, found, header, exceptBind_ok, orError_ok, headers,
      Except.ok.injEq, exists_eq_left', announced_length sized whole, Option.some.injEq]
    rfl

theorem parseResponse_framed [JsonReader] {response : Bytes} {value : JsonValue}
    (accepted : parseResponse response = .ok value) : ∃ frame, parseFrame response = .ok frame := by
  simp only [parseResponse, exceptBind_ok] at accepted
  obtain ⟨frame, framed, _⟩ := accepted
  exact ⟨frame, framed⟩

theorem kiosk_limits {response : Bytes} (sized : response.length ≤ isizeMax) (maximumBodyBytes : Nat)
    (reads : List Bytes) :
    WithinLimits (kioskFramer maximumBodyBytes).maximum response reads ↔
      WithinLimits (maximumBodyBytes + headerMaximum) response reads := by
  have wide : isizeMax < usizeMax := by decide
  have same : response.length ≤ (kioskFramer maximumBodyBytes).maximum ↔
      response.length ≤ maximumBodyBytes + headerMaximum := by
    show response.length ≤ min (maximumBodyBytes + headerMaximum) usizeMax ↔ _
    omega
  constructor
  · intro within
    exact ⟨same.mp within.whole, within.header⟩
  · intro within
    exact ⟨same.mpr within.whole, within.header⟩

/-- However a response its parser accepts is cut into reads, the client receives that response and waits for
nothing more exactly when the response and the ends of the reads keep the wire limits. -/
theorem received_iff_within_limits (response : ByteSlice) (reads : List Bytes)
    (content : reads.flatten = response.val) (cut : ∀ chunk ∈ reads, chunk ≠ [] ∧ chunk.length ≤ 8 * 1024) :
    (∀ (unixTimeMs : Except String Int) (maximumBodyBytes : Nat) (parsed : KioskAdapter.KioskHttpResponse),
      parseKioskHttpResponse unixTimeMs response.val maximumBodyBytes = .ok parsed →
        (Receives (readKioskHttp maximumBodyBytes (reads.map .ok))
            (parseKioskHttpResponse unixTimeMs · maximumBodyBytes) parsed ↔
          WithinLimits (maximumBodyBytes + headerMaximum) response.val reads)) ∧
      (∀ (status : Nat) (body : Bytes), parseFrame response.val = .ok (status, body) →
        (Receives (readUntil (reads.map .ok)) parseFrame (status, body) ↔
          WithinLimits (maxResponseBytes + headerMaximum) response.val reads)) ∧
      ∀ [JsonReader] (value : JsonValue), parseResponse response.val = .ok value →
        (Receives (readUntil (reads.map .ok)) parseResponse value ↔
          WithinLimits (maxResponseBytes + headerMaximum) response.val reads) := by
  refine ⟨?_, ?_, ?_⟩
  · intro unixTimeMs maximumBodyBytes parsed accepted
    obtain ⟨headerEnd, announces⟩ := kiosk_announces response.property accepted
    rw [← kiosk_limits response.property]
    exact @Announces.receives_iff _ _ _ _ _ announces (parseKioskHttpResponse unixTimeMs · maximumBodyBytes) parsed
      accepted reads content fun chunk member => (cut chunk member).1
  · intro status body accepted
    obtain ⟨headerEnd, announces⟩ := fleetctl_announces response.property accepted
    exact announces.receives_iff accepted content fun chunk member => (cut chunk member).1
  · intro _ value accepted
    obtain ⟨⟨status, body⟩, framed⟩ := parseResponse_framed accepted
    obtain ⟨headerEnd, announces⟩ := fleetctl_announces response.property framed
    exact announces.receives_iff accepted content fun chunk member => (cut chunk member).1

end Clients

section Lines

theorem splitLines_unbroken (line : List Char) (unbroken : '\r' ∉ line) : splitLines line = [line] := by
  induction line with
  | nil => rfl
  | cons first rest ih =>
    have different : first ≠ '\r' := by
      rintro rfl
      exact unbroken List.mem_cons_self
    have later := ih fun member => unbroken (List.mem_cons_of_mem _ member)
    rw [splitLines, later]
    intro other same
    exact absurd same different

theorem splitLines_append (line rest : List Char) (unbroken : '\r' ∉ line) :
    splitLines (line ++ '\r' :: '\n' :: rest) = line :: splitLines rest := by
  induction line with
  | nil => rw [List.nil_append, splitLines]
  | cons first others ih =>
    have different : first ≠ '\r' := by
      rintro rfl
      exact unbroken List.mem_cons_self
    have later := ih fun member => unbroken (List.mem_cons_of_mem _ member)
    rw [List.cons_append, splitLines, later]
    intro other same
    exact absurd same different

def wire (text : List Char) : Bytes := text.flatMap String.utf8EncodeChar

theorem fromUtf8_wire (text : List Char) : fromUtf8 (wire text) = some text := by
  have decoded : (wire text).toByteArray.utf8Decode? = some text.toArray := List.utf8Decode?_utf8Encode
  rw [fromUtf8, decoded]
  rfl

theorem wire_append (front back : List Char) : wire (front ++ back) = wire front ++ wire back :=
  List.flatMap_append

theorem wire_letters (count : Nat) : wire (List.replicate count 'a') = List.replicate count 97 := by
  have letter : String.utf8EncodeChar 'a' = [97] := by decide
  induction count with
  | zero => rfl
  | succ count ih =>
    have later : wire (List.replicate (count + 1) 'a') =
        String.utf8EncodeChar 'a' ++ wire (List.replicate count 'a') := rfl
    rw [later, letter, ih]
    rfl

end Lines

section Samples

def paddedHeader (count : Nat) : List Char :=
  "HTTP/1.1 200".toList ++ '\r' :: '\n' :: ("Content-Length:0".toList ++ '\r' :: '\n' ::
    ("X:".toList ++ List.replicate count 'a'))

def paddedResponse (count : Nat) : Bytes := wire (paddedHeader count) ++ headerTerminator

def paddedFront : Bytes := wire "HTTP/1.1 200\r\nContent-Length:0\r\nX:".toList

theorem paddedHeader_wire (count : Nat) : wire (paddedHeader count) = paddedFront ++ List.replicate count 97 := by
  have text : paddedHeader count = "HTTP/1.1 200\r\nContent-Length:0\r\nX:".toList ++ List.replicate count 'a' := rfl
  rw [text, wire_append, wire_letters]
  rfl

theorem paddedFront_length : paddedFront.length = 34 := by decide

theorem paddedHeader_length (count : Nat) : (wire (paddedHeader count)).length = count + 34 := by
  rw [paddedHeader_wire, List.length_append, List.length_replicate, paddedFront_length, Nat.add_comm]

theorem firstMatch_letters (count : Nat) :
    firstMatch headerTerminator (List.replicate count 97 ++ headerTerminator) = some count := by
  induction count with
  | zero => decide
  | succ count ih =>
    rw [List.replicate_succ, List.cons_append, firstMatch, if_neg (by simp [headerTerminator]), ih]
    rfl

theorem paddedResponse_located (count : Nat) :
    firstMatch headerTerminator (paddedResponse count) = some (count + 34) := by
  have apart : ∀ i, i < paddedFront.length →
      ¬ (headerTerminator.take (paddedFront.length - i)).isPrefixOf (paddedFront.drop i) = true := by
    decide
  rw [paddedResponse, paddedHeader_wire, List.append_assoc, firstMatch_after _ apart, firstMatch_letters,
    paddedFront_length]
  rfl

theorem paddedResponse_length (count : Nat) : (paddedResponse count).length = count + 38 := by
  rw [paddedResponse, List.length_append, paddedHeader_length]
  rfl

theorem paddedResponse_header (count : Nat) :
    fromUtf8 ((paddedResponse count).take (count + 34)) = some (paddedHeader count) := by
  have front : (paddedResponse count).take (count + 34) = wire (paddedHeader count) := by
    rw [← paddedHeader_length count, paddedResponse, List.take_left]
  rw [front, fromUtf8_wire]

theorem paddedHeader_lines (count : Nat) :
    splitLines (paddedHeader count) =
      ["HTTP/1.1 200".toList, "Content-Length:0".toList, "X:".toList ++ List.replicate count 'a'] := by
  have status : '\r' ∉ "HTTP/1.1 200".toList := by decide
  have length : '\r' ∉ "Content-Length:0".toList := by decide
  have name : '\r' ∉ "X:".toList := by decide
  have letters : '\r' ∉ "X:".toList ++ List.replicate count 'a' := by
    intro member
    rcases List.mem_append.mp member with front | letter
    · exact name front
    · exact absurd (List.eq_of_mem_replicate letter) (by decide)
  unfold paddedHeader
  rw [splitLines_append _ _ status, splitLines_append _ _ length, splitLines_unbroken _ letters]

theorem paddedHeader_headers (count : Nat) : ∃ value : String,
    kioskHeaders ["Content-Length:0".toList, "X:".toList ++ List.replicate count 'a'] =
      .ok (((∅ : BTreeMap String String).insert "content-length" "0").insert "x" value) := by
  have length : splitOnce ':' "Content-Length:0".toList = some ("Content-Length".toList, ['0']) := by decide
  have padding : splitOnce ':' ("X:".toList ++ List.replicate count 'a') = some (['X'], List.replicate count 'a') := by
    have cons : "X:".toList ++ List.replicate count 'a' = 'X' :: ':' :: List.replicate count 'a' := rfl
    rw [cons, splitOnce, if_neg (by decide), splitOnce, if_pos rfl]
    rfl
  have lengthName : String.ofList ((trim "Content-Length".toList).map asciiLower) = "content-length" := by
    decide
  have paddingName : String.ofList ((trim ['X']).map asciiLower) = "x" := by decide
  have zero : String.ofList (trim ['0']) = "0" := by decide
  refine ⟨String.ofList (trim (List.replicate count 'a')), ?_⟩
  have first : (∅ : BTreeMap String String).contains "content-length" = false := Std.ExtTreeMap.contains_empty
  have second : ((∅ : BTreeMap String String).insert "content-length" "0").contains "x" = false := by
    rw [Std.ExtTreeMap.contains_eq_isSome_getElem?, BTreeMap.lookup_insert_of_ne _ _ (by decide)]
    rfl
  have filled : "content-length".isEmpty = false ∧ "x".isEmpty = false := by decide
  simp only [kioskHeaders, collectHeaders, exceptBind_ok, orError_ok, errorIf_ok, exists_const, length, padding,
    Option.some.injEq, exists_eq_left', lengthName, paddingName, zero, first, second, filled.1, filled.2,
    Bool.false_eq_true, or_self, not_false_eq_true, true_and]

theorem paddedResponse_accepted (count : Nat) (short : count + 34 ≤ headerMaximum) :
    ∃ parsed, parseKioskHttpResponse (.ok 0) (paddedResponse count) 1024 = .ok parsed := by
  obtain ⟨value, headers⟩ := paddedHeader_headers count
  have status : parseStatus "HTTP/1.1 200".toList = .ok 200 := by decide
  have digits : parseUnsigned usizeMax "0".toList = some 0 := by decide
  have chunked : (((∅ : BTreeMap String String).insert "content-length" "0").insert "x" value).contains
      "transfer-encoding" = false := by
    rw [Std.ExtTreeMap.contains_eq_isSome_getElem?, BTreeMap.lookup_insert_of_ne _ _ (by decide),
      BTreeMap.lookup_insert_of_ne _ _ (by decide)]
    rfl
  have length : (((∅ : BTreeMap String String).insert "content-length" "0").insert "x" value)["content-length"]? =
      some "0" := by
    rw [BTreeMap.lookup_insert_of_ne _ _ (by decide), BTreeMap.lookup_insert_self]
  have whole : count + 38 = min (count + 34 + 4 + 0) usizeMax := by
    have wide : headerMaximum + 4 ≤ usizeMax := by decide
    omega
  simp only [parseKioskHttpResponse, exceptBind_ok, orError_ok, errorIf_ok, exists_const, not_not,
    paddedResponse_located, Option.some.injEq, exists_eq_left', paddedResponse_header, paddedHeader_lines,
    List.head?_cons, List.drop_succ_cons, List.drop_zero, status, Except.ok.injEq, headers, chunked,
    Bool.false_eq_true, not_false_eq_true, true_and, length, digits, paddedResponse_length]
  exact ⟨_, Nat.not_lt.mpr short, Nat.not_lt.mpr (Nat.zero_le _), whole, rfl⟩

def edgeResponse : Bytes := paddedResponse 32734

theorem edgeResponse_length : edgeResponse.length = 32772 := paddedResponse_length 32734

def edgeSlice : ByteSlice :=
  ⟨edgeResponse, Nat.le_trans (Nat.le_of_eq edgeResponse_length) (by decide)⟩

/-- Four full reads, one that ends inside the terminator, and the rest. -/
def edgeReads : List Bytes :=
  [edgeResponse.take 8192, (edgeResponse.drop 8192).take 8192, (edgeResponse.drop 16384).take 8192,
    (edgeResponse.drop 24576).take 8192, (edgeResponse.drop 32768).take 1, edgeResponse.drop 32769]

theorem rejoined (items : List UInt8) (start count : Nat) :
    (items.drop start).take count ++ items.drop (start + count) = items.drop start := by
  rw [← List.drop_drop, List.take_append_drop]

theorem edgeReads_content : edgeReads.flatten = edgeResponse := by
  have fifth := rejoined edgeResponse 32768 1
  have fourth := rejoined edgeResponse 24576 8192
  have third := rejoined edgeResponse 16384 8192
  have second := rejoined edgeResponse 8192 8192
  simp only [edgeReads, List.flatten_cons, List.flatten_nil, List.append_nil]
  rw [fifth, fourth, third, second, List.take_append_drop]

theorem edgeReads_cut : ∀ chunk ∈ edgeReads, chunk ≠ [] ∧ chunk.length ≤ 8 * 1024 := by
  have size := edgeResponse_length
  have sized : ∀ chunk ∈ edgeReads, 0 < chunk.length ∧ chunk.length ≤ 8 * 1024 := by
    simp only [edgeReads, List.mem_cons, List.not_mem_nil, or_false, forall_eq_or_imp, forall_eq, List.length_take,
      List.length_drop, size]
    omega
  intro chunk member
  obtain ⟨positive, bounded⟩ := sized chunk member
  exact ⟨List.length_pos_iff.mp positive, bounded⟩

theorem edgeReads_end : ReadEnds edgeReads 32769 := by
  refine ⟨edgeReads.take 5, edgeReads.drop 5, (List.take_append_drop 5 edgeReads).symm, List.cons_ne_nil _ _, ?_⟩
  have size := edgeResponse_length
  simp only [edgeReads, List.take_succ_cons, List.take_zero, List.flatten_cons, List.flatten_nil, List.append_nil,
    List.length_append, List.length_take, List.length_drop, size]
  omega

/-- A read that ends inside the terminator of a header at the limit makes the Kiosk client refuse the response. -/
theorem split_terminator_refused : ∃ parsed,
    parseKioskHttpResponse (.ok 0) edgeSlice.val 1024 = .ok parsed ∧ edgeReads.flatten = edgeSlice.val ∧
      (∀ chunk ∈ edgeReads, chunk ≠ [] ∧ chunk.length ≤ 8 * 1024) ∧
      ¬ Receives (readKioskHttp 1024 (edgeReads.map .ok)) (parseKioskHttpResponse (.ok 0) · 1024) parsed := by
  obtain ⟨parsed, accepted⟩ := paddedResponse_accepted 32734 (by decide)
  refine ⟨parsed, accepted, edgeReads_content, edgeReads_cut, ?_⟩
  obtain ⟨headerEnd, announces⟩ := kiosk_announces edgeSlice.property accepted
  have received := @Announces.receives_iff _ _ _ _ _ announces (parseKioskHttpResponse (.ok 0) · 1024) parsed accepted
    edgeReads edgeReads_content fun chunk member => (edgeReads_cut chunk member).1
  intro receives
  have within := received.mp receives
  have closed := within.header (32734 + 34) (paddedResponse_located 32734) 32769 edgeReads_end (by decide)
  omega

def smallText : List Char := "HTTP/1.1 200 OK\r\nContent-Length: 2\r\n\r\n\x7b\x7d".toList

def smallSlice : ByteSlice := ⟨wire smallText, by decide⟩

def smallReads : List Bytes := [(wire smallText).take 20, (wire smallText).drop 20]

theorem smallReads_content : smallReads.flatten = smallSlice.val := by
  simp only [smallReads, List.flatten_cons, List.flatten_nil, List.append_nil]
  exact List.take_append_drop 20 (wire smallText)

theorem smallReads_cut : ∀ chunk ∈ smallReads, chunk ≠ [] ∧ chunk.length ≤ 8 * 1024 := by decide

theorem smallReads_within (maximum : Nat) : WithinLimits (maximum + headerMaximum) smallSlice.val smallReads := by
  have small : smallSlice.val.length ≤ headerMaximum := by decide
  refine ⟨Nat.le_trans small (Nat.le_add_left _ _), ?_⟩
  intro headerEnd _ count ends late
  have inside := readEnds_within smallReads_content ends
  omega

abbrev smallReader : JsonReader where
  fromSlice bytes := if bytes = [123, 125] then .ok "\x7b\x7d" else .error "expected value at line 1 column 1"
  textUnder _ _ := none

theorem small_response_received :
    (∃ parsed, Receives (readKioskHttp 1024 (smallReads.map .ok)) (parseKioskHttpResponse (.ok 0) · 1024) parsed) ∧
      Receives (readUntil (smallReads.map .ok)) parseFrame (200, [123, 125]) ∧
      Receives (readUntil (smallReads.map .ok)) (@parseResponse smallReader) "\x7b\x7d" := by
  have framed : parseFrame smallSlice.val = .ok (200, [123, 125]) := by decide
  have taken : (parseKioskHttpResponse (.ok 0) smallSlice.val 1024).isOk = true := by decide
  cases accepted : parseKioskHttpResponse (.ok 0) smallSlice.val 1024 with
  | error error =>
    rw [accepted] at taken
    cases taken
  | ok parsed =>
    obtain ⟨kiosk, frame, document⟩ :=
      received_iff_within_limits smallSlice smallReads smallReads_content smallReads_cut
    have within := smallReads_within maxResponseBytes
    have read : @parseResponse smallReader smallSlice.val = .ok "\x7b\x7d" := by
      unfold parseResponse
      rw [framed]
      rfl
    exact ⟨⟨parsed, (kiosk (.ok 0) 1024 parsed accepted).mpr (smallReads_within 1024)⟩,
      (frame 200 [123, 125] framed).mpr within, (@document smallReader _ read).mpr within⟩

end Samples

end RustyFleet.HttpClients

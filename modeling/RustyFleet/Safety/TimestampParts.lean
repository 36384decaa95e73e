import RustyFleet.Provider.Timestamps
import RustyFleet.Safety.DeadlineText
import RustyFleet.Support.Exact
import RustyFleet.Support.Rfc3339

namespace RustyFleet

namespace ProviderCatalog

open Rfc3339 DigitBytes

def TimestampRefused (fault : CatalogFault) : Prop := fault = .refused timestampError

def Addressable (bytes : List UInt8) : Prop := bytes.length < 2 ^ 63

theorem ok_then {α β : Type} (value : α) (rest : α → CatalogResult β) :
    ((.ok value : CatalogResult α) >>= rest) = rest value := rfl

theorem refuse_exact {α : Type} {result : α → Prop} (never : ∀ value, ¬ result value) :
    Exact TimestampRefused (refuse timestampError) result :=
  Exact.error rfl never

theorem usize_eq {value : Nat} (bounded : value < 2 ^ 64) : usize value = .ok value := if_pos bounded

theorem u32_eq {value : Nat} (bounded : value < 2 ^ 32) : u32 value = .ok value := if_pos bounded

theorem difference_eq {left right : Nat} (order : right ≤ left) : difference left right = .ok (left - right) :=
  if_pos order

theorem i64_eq {value : Int} (low : -2 ^ 63 ≤ value) (high : value < 2 ^ 63) : i64 value = .ok value :=
  if_pos ⟨low, high⟩

theorem i128_eq {value : Int} (low : -2 ^ 127 ≤ value) (high : value < 2 ^ 127) : i128 value = .ok value :=
  if_pos ⟨low, high⟩

theorem i64_step {α : Type} {value : Int} {rest : Int → CatalogResult α} {final : CatalogResult α}
    (result : Int) (same : value = result) (low : -2 ^ 63 ≤ result) (high : result < 2 ^ 63)
    (goes : rest result = final) : (i64 value >>= rest) = final := by
  rw [same, i64_eq low high]
  exact goes

section Digits

theorem pushDigit_eq {value : Nat} {byte : UInt8} (bounded : value < 10 ^ 8) (digit : isDigit byte = true) :
    pushDigit value byte = .ok (value * 10 + (byte.toNat - 48)) := by
  have bounds := isDigit_bounds digit
  have tens : u32 (value * 10) = .ok (value * 10) := u32_eq (by omega)
  have digits : difference byte.toNat 48 = .ok (byte.toNat - 48) := difference_eq bounds.1
  have sum : u32 (value * 10 + (byte.toNat - 48)) = .ok (value * 10 + (byte.toNat - 48)) := u32_eq (by omega)
  rw [pushDigit, tens, ok_then, digits, ok_then, sum]

theorem pushDigits_eq {slice : List UInt8} (digits : slice.all isDigit = true) (short : slice.length ≤ 9) :
    slice.foldlM pushDigit 0 = .ok (read slice) := by
  induction slice using List.reverseRecOn with
  | nil => rfl
  | append_singleton slice byte ih =>
    rw [List.all_append, Bool.and_eq_true, List.all_cons, List.all_nil, Bool.and_true] at digits
    rw [List.length_append, List.length_singleton] at short
    have front := ih digits.1 (by omega)
    have bounded : read slice < 10 ^ 8 :=
      Nat.lt_of_lt_of_le (read_lt digits.1) (Nat.pow_le_pow_right (by decide) (by omega))
    rw [List.foldlM_append, front, ok_then, List.foldlM_cons, pushDigit_eq bounded digits.2, read_snoc]
    rfl

theorem getRange_eq {bytes : List UInt8} {start count : Nat} (within : start + count ≤ bytes.length) :
    getRange bytes start (start + count) = some ((bytes.drop start).take count) := by
  rw [getRange, if_pos ⟨Nat.le_add_right _ _, within⟩, Nat.add_sub_cancel_left]

theorem getRange_none {bytes : List UInt8} {start count : Nat} (beyond : bytes.length < start + count) :
    getRange bytes start (start + count) = none :=
  if_neg fun inside => absurd inside.2 (Nat.not_le.mpr beyond)

theorem parseDigits_exact {bytes : List UInt8} {start count : Nat} (positive : 0 < count) (short : count ≤ 9)
    (addressed : start + count < 2 ^ 64) :
    Exact TimestampRefused (parseDigits bytes start count)
      (fun value => value < 10 ^ count ∧ StandsAt bytes start (write count value)) := by
  apply Exact.step (usize_eq addressed)
  by_cases within : start + count ≤ bytes.length
  · rw [getRange_eq within]
    have length : ((bytes.drop start).take count).length = count := by
      rw [List.length_take, List.length_drop]
      omega
    have written : ∀ value, value < 10 ^ count ∧ StandsAt bytes start (write count value) ↔
        ((bytes.drop start).take count).all isDigit = true ∧ value = read ((bytes.drop start).take count) := by
      intro value
      rw [← write_eq_iff, length, StandsAt.iff_take, write_length, and_comm]
      exact and_congr_left fun _ => eq_comm
    by_cases digits : ((bytes.drop start).take count).all isDigit = true
    · dsimp only
      rw [if_neg (not_not.mpr digits), pushDigits_eq digits (by omega)]
      apply (Exact.ok _).congr
      intro value
      rw [written, and_iff_right digits]
      exact eq_comm
    · dsimp only
      rw [if_pos digits]
      apply refuse_exact
      intro value holds
      exact digits ((written value).mp holds).1
  · rw [getRange_none (Nat.not_le.mp within)]
    apply refuse_exact
    rintro value ⟨bounded, stands⟩
    have length := stands.length_le
    rw [List.length_drop, write_length] at length
    omega

theorem skipDigits_eq (ahead : List UInt8) (cursor : Nat) (bounded : cursor + ahead.length < 2 ^ 64) :
    skipDigits ahead cursor = .ok (cursor + (ahead.takeWhile isDigit).length) := by
  induction ahead generalizing cursor with
  | nil => rfl
  | cons byte ahead ih =>
    rw [List.length_cons] at bounded
    by_cases digit : isDigit byte = true
    · have next : usize (cursor + 1) = .ok (cursor + 1) := usize_eq (by omega)
      rw [skipDigits, if_pos digit, next, ok_then, ih (cursor + 1) (by omega),
        List.takeWhile_cons_of_pos digit, List.length_cons, Nat.add_assoc, Nat.add_comm 1]
    · rw [skipDigits, if_neg digit, List.takeWhile_cons_of_neg digit]
      rfl

end Digits

section Fraction

def Supported (fraction : List UInt8) : Prop := fraction.length ≤ 32 ∧ ∀ byte ∈ fraction.drop 7, byte = 48

def fractionTicks (fraction : List UInt8) : Nat := read (fraction.take 7) * 10 ^ (7 - min fraction.length 7)

structure FractionAt (bytes fraction : List UInt8) : Prop where
  stands : StandsAt bytes 19 (fractionText fraction)
  digits : fraction.all isDigit = true
  ends : if fraction = [] then bytes[19]? ≠ some 46
    else ∀ byte, bytes[20 + fraction.length]? = some byte → isDigit byte = false

variable {bytes fraction : List UInt8}

theorem fractionAt_iff (pointed : bytes[19]? = some 46) :
    FractionAt bytes fraction ↔ fraction ≠ [] ∧ fraction = (bytes.drop 20).takeWhile isDigit := by
  rw [StandsAt.run_iff, List.getElem?_drop]
  constructor
  · rintro ⟨stands, digits, ends⟩
    by_cases empty : fraction = []
    · rw [if_pos empty] at ends
      exact absurd pointed ends
    · rw [if_neg empty] at ends
      rw [fractionText, if_neg empty, ← List.singleton_append, StandsAt.append] at stands
      exact ⟨empty, stands.2, digits, ends⟩
  · rintro ⟨nonempty, stands, digits, ends⟩
    refine ⟨?_, digits, ?_⟩
    · rw [fractionText, if_neg nonempty, ← List.singleton_append, StandsAt.append]
      exact ⟨StandsAt.single.mpr pointed, stands⟩
    · rw [if_neg nonempty]
      exact ends

theorem fractionAt_nil (unpointed : bytes[19]? ≠ some 46) : FractionAt bytes fraction ↔ fraction = [] := by
  constructor
  · rintro ⟨stands, -, -⟩
    by_cases empty : fraction = []
    · exact empty
    · rw [fractionText, if_neg empty, ← List.singleton_append, StandsAt.append] at stands
      exact absurd (StandsAt.single.mp stands.1) unpointed
  · rintro rfl
    exact ⟨List.nil_prefix, rfl, by rwa [if_pos rfl]⟩

theorem fractionRejected_eq {run : List UInt8} (stands : StandsAt bytes 20 run) :
    ∃ rejected, fractionRejected bytes 20 (20 + run.length) run.length = .ok rejected ∧
      (rejected = true ↔ run = [] ∨ ¬ Supported run) := by
  unfold fractionRejected Supported
  by_cases bounds : run.length = 0 ∨ run.length > 32
  · refine ⟨true, if_pos bounds, iff_of_true rfl ?_⟩
    rcases bounds with empty | long
    · exact .inl (List.length_eq_zero_iff.mp empty)
    · exact .inr fun supported => Nat.not_le.mpr long supported.1
  · have nonempty : run ≠ [] := fun empty => bounds (.inl (List.length_eq_zero_iff.mpr empty))
    have short : run.length ≤ 32 := by omega
    rw [if_neg bounds]
    by_cases finer : run.length > 7
    · have within := stands.within nonempty
      have start : usize (20 + 7) = .ok 27 := usize_eq (by decide)
      have slice : indexRange bytes 27 (20 + run.length) = .ok (run.drop 7) := by
        have stop : 20 + run.length = 27 + (run.length - 7) := by omega
        have taken : (bytes.drop 27).take (run.length - 7) = run.drop 7 := by
          have whole := StandsAt.iff_take.mp stands
          have from20 : bytes.drop 27 = (bytes.drop 20).drop 7 := by rw [List.drop_drop]
          rw [from20, ← List.drop_take, whole]
        rw [indexRange, stop, getRange_eq (by omega), taken]
      refine ⟨(run.drop 7).any (· ≠ 48), ?_, ?_⟩
      · rw [if_pos finer, start, ok_then, slice]
        rfl
      · rw [List.any_eq_true]
        simp only [nonempty, false_or, short, true_and, not_forall, decide_not, Bool.not_eq_true',
          decide_eq_false_iff_not, exists_prop]
    · refine ⟨false, if_neg finer, ?_⟩
      have none : run.drop 7 = [] := List.drop_of_length_le (by omega)
      simp [nonempty, short, none]

theorem scaleTicks_eq (count ticks : Nat) (bounded : ticks * 10 ^ count < 2 ^ 127) :
    scaleTicks count ticks = .ok ((ticks * 10 ^ count : Nat) : Int) := by
  induction count generalizing ticks with
  | zero => rw [Nat.pow_zero, Nat.mul_one, scaleTicks]
  | succ count ih =>
    have scaled : ticks * 10 * 10 ^ count = ticks * 10 ^ (count + 1) := by
      rw [Nat.pow_succ, Nat.mul_assoc, Nat.mul_comm 10]
    have least : ticks * 10 ≤ ticks * 10 ^ (count + 1) := by
      rw [← scaled]
      exact Nat.le_mul_of_pos_right _ (Nat.pow_pos (by decide))
    have product : i128 ((ticks : Int) * 10) = .ok ((ticks * 10 : Nat) : Int) :=
      i128_eq (by omega) (by omega)
    rw [scaleTicks, product, ok_then, ih (ticks * 10) (scaled ▸ bounded), scaled]

theorem fractionTicks_lt (digits : fraction.all isDigit = true) : fractionTicks fraction < 10 ^ 7 := by
  have front : (fraction.take 7).all isDigit = true := by
    rw [List.all_eq_true] at digits ⊢
    exact fun byte member => digits byte (List.mem_of_mem_take member)
  have value := read_lt front
  rw [List.length_take, Nat.min_comm] at value
  have places : 10 ^ min fraction.length 7 * 10 ^ (7 - min fraction.length 7) = 10 ^ 7 := by
    rw [← Nat.pow_add]
    congr 1
    omega
  rw [fractionTicks, ← places]
  exact Nat.mul_lt_mul_of_pos_right value (Nat.pow_pos (by decide))

theorem parseDigits_fraction {run : List UInt8} (stands : StandsAt bytes 20 run)
    (digits : run.all isDigit = true) (nonempty : run ≠ []) :
    parseDigits bytes 20 (min run.length 7) = .ok (read (run.take 7)) := by
  have within := stands.within nonempty
  have positive := List.length_pos_iff.mpr nonempty
  have front : (run.take 7).all isDigit = true := by
    rw [List.all_eq_true] at digits ⊢
    exact fun byte member => digits byte (List.mem_of_mem_take member)
  have places : (run.take 7).length = min run.length 7 := by rw [List.length_take, Nat.min_comm]
  have exact := @parseDigits_exact bytes 20 (min run.length 7) (by omega) (by omega) (by omega)
  apply (exact.ok_iff _).mpr
  rw [← places]
  refine ⟨read_lt front, ?_⟩
  rw [write_read front]
  exact (List.take_prefix 7 run).trans stands

theorem parseFraction_exact (addressed : Addressable bytes) :
    Exact TimestampRefused (parseFraction bytes) (fun found => ∃ fraction, FractionAt bytes fraction ∧
      Supported fraction ∧ found = (19 + (fractionText fraction).length, (fractionTicks fraction : Int))) := by
  by_cases pointed : bytes[19]? = some 46
  · generalize runs : (bytes.drop 20).takeWhile isDigit = run
    obtain ⟨stands, digits, -⟩ := (StandsAt.run_iff isDigit run (bytes.drop 20)).mp runs.symm
    have length := stands.length_le
    rw [List.length_drop] at length
    unfold Addressable at addressed
    have cursor : skipDigits (bytes.drop 20) 20 = .ok (20 + run.length) := by
      rw [← runs]
      apply skipDigits_eq
      rw [List.length_drop]
      omega
    have counted : difference (20 + run.length) 20 = .ok run.length := by
      rw [difference_eq (Nat.le_add_right _ _), Nat.add_sub_cancel_left]
    have only : ∀ fraction, FractionAt bytes fraction ↔ fraction ≠ [] ∧ fraction = run := by
      intro fraction
      rw [fractionAt_iff pointed, runs]
    obtain ⟨rejected, decided, meaning⟩ := fractionRejected_eq stands
    rw [parseFraction, if_pos pointed]
    apply Exact.step (usize_eq (by decide))
    apply Exact.step cursor
    apply Exact.step counted
    apply Exact.step decided
    by_cases refused : rejected = true
    · rw [if_pos refused]
      apply refuse_exact
      rintro found ⟨fraction, standing, supported, -⟩
      obtain ⟨nonempty, rfl⟩ := (only fraction).mp standing
      rcases meaning.mp refused with empty | unsupported
      · exact nonempty empty
      · exact unsupported supported
    · rw [if_neg refused]
      have kept := mt meaning.mpr refused
      rw [not_or, not_not] at kept
      have small := fractionTicks_lt digits
      have scaled : scaleTicks (7 - min run.length 7) (read (run.take 7)) = .ok (fractionTicks run : Int) :=
        scaleTicks_eq _ _ (Nat.lt_trans small (by decide))
      apply Exact.step (parseDigits_fraction stands digits kept.1)
      apply Exact.step scaled
      apply (Exact.ok _).congr
      intro found
      have textLength : 19 + (fractionText run).length = 20 + run.length := by
        rw [fractionText, if_neg kept.1, List.length_cons]
        omega
      constructor
      · rintro rfl
        exact ⟨run, (only run).mpr ⟨kept.1, rfl⟩, kept.2, by rw [textLength]⟩
      · rintro ⟨fraction, standing, -, rfl⟩
        obtain ⟨-, rfl⟩ := (only fraction).mp standing
        rw [textLength]
  · rw [parseFraction, if_neg pointed]
    apply (Exact.ok _).congr
    intro found
    simp only [fractionAt_nil pointed]
    constructor
    · rintro rfl
      exact ⟨[], rfl, ⟨Nat.zero_le _, by simp⟩, rfl⟩
    · rintro ⟨fraction, rfl, -, rfl⟩
      rfl

end Fraction

section Offset

variable {bytes : List UInt8} {cursor : Nat}

theorem numeric_text (ends : cursor + 6 = bytes.length) (negative : Bool) (hours minutes : Nat) :
    bytes.drop cursor = (Offset.numeric negative hours minutes).text ↔
      bytes[cursor]? = some (if negative then 45 else 43) ∧ StandsAt bytes (cursor + 1) (write 2 hours) ∧
        bytes[cursor + 3]? = some 58 ∧ StandsAt bytes (cursor + 4) (write 2 minutes) := by
  rw [Offset.text, StandsAt.drop_eq_append, StandsAt.drop_eq_append, StandsAt.drop_eq_append, StandsAt.single,
    write_length, List.length_singleton, List.length_singleton, StandsAt.single, StandsAt.whole]
  rw [write_length]
  omega

theorem numericMinutes_exact (negative : Bool) (hours minutes : Nat) :
    Exact TimestampRefused
      (if hours > 23 ∨ minutes > 59 then refuse timestampError
      else do
        let hourMinutes ← u32 (hours * 60)
        let value ← u32 (hourMinutes + minutes)
        if negative then i64 (-(value : Int)) else pure (value : Int))
      (fun value => (Offset.numeric negative hours minutes).Valid ∧
        value = (Offset.numeric negative hours minutes).minutes) := by
  by_cases outside : hours > 23 ∨ minutes > 59
  · rw [if_pos outside]
    apply refuse_exact
    rintro value ⟨⟨hour, minute⟩, -⟩
    omega
  · rw [not_or, Nat.not_lt, Nat.not_lt] at outside
    rw [if_neg (by omega)]
    apply Exact.step (u32_eq (by omega))
    apply Exact.step (u32_eq (by omega))
    have valid : (Offset.numeric negative hours minutes).Valid := outside
    have returned : (if negative then i64 (-((hours * 60 + minutes : Nat) : Int))
        else pure ((hours * 60 + minutes : Nat) : Int) : CatalogResult Int) =
          .ok (Offset.numeric negative hours minutes).minutes := by
      cases negative with
      | false => rfl
      | true => exact i64_eq (by omega) (by omega)
    rw [returned]
    apply (Exact.ok _).congr
    intro value
    rw [and_iff_right valid]
    exact eq_comm

theorem parseNumericOffset_exact (addressed : Addressable bytes) (ends : cursor + 6 = bytes.length)
    {negative : Bool} (signed : bytes[cursor]? = some (if negative then 45 else 43)) :
    Exact TimestampRefused (parseNumericOffset bytes cursor negative) (fun value => ∃ hours minutes,
      (Offset.numeric negative hours minutes).Valid ∧
        bytes.drop cursor = (Offset.numeric negative hours minutes).text ∧
        value = (Offset.numeric negative hours minutes).minutes) := by
  unfold Addressable at addressed
  apply Exact.step (usize_eq (show cursor + 3 < 2 ^ 64 by omega))
  by_cases colon : bytes[cursor + 3]? = some 58
  · rw [if_neg (not_not.mpr colon)]
    apply Exact.step (usize_eq (show cursor + 1 < 2 ^ 64 by omega))
    apply Exact.congr
    · apply Exact.bind (parseDigits_exact (by decide) (by decide) (by omega))
      intro hours _
      apply Exact.step (usize_eq (show cursor + 4 < 2 ^ 64 by omega))
      apply Exact.bind (parseDigits_exact (by decide) (by decide) (by omega))
      intro minutes _
      exact numericMinutes_exact negative hours minutes
    · intro value
      simp only [numeric_text ends]
      constructor
      · rintro ⟨hours, ⟨-, hourText⟩, minutes, ⟨-, minuteText⟩, valid, rfl⟩
        exact ⟨hours, minutes, valid, ⟨signed, hourText, colon, minuteText⟩, rfl⟩
      · rintro ⟨hours, minutes, valid, ⟨-, hourText, -, minuteText⟩, rfl⟩
        have bounds : hours ≤ 23 ∧ minutes ≤ 59 := valid
        exact ⟨hours, ⟨by omega, hourText⟩, minutes, ⟨by omega, minuteText⟩, valid, rfl⟩
  · rw [if_pos colon]
    apply refuse_exact
    rintro value ⟨hours, minutes, -, written, -⟩
    exact colon ((numeric_text ends negative hours minutes).mp written).2.2.1

theorem zulu_text (small : Bool) :
    bytes.drop cursor = (Offset.zulu small).text ↔
      cursor + 1 = bytes.length ∧ bytes[cursor]? = some (if small then 122 else 90) := by
  constructor
  · intro written
    have length := congrArg List.length written
    rw [List.length_drop, Offset.text, List.length_singleton] at length
    refine ⟨by omega, ?_⟩
    rw [← StandsAt.single]
    exact ⟨[], by rw [List.append_nil, written, Offset.text]⟩
  · rintro ⟨ends, byte⟩
    exact (StandsAt.whole ends).mpr (StandsAt.single.mpr byte)

theorem numeric_ends {negative : Bool} {hours minutes : Nat}
    (written : bytes.drop cursor = (Offset.numeric negative hours minutes).text) :
    cursor + 6 = bytes.length := by
  have length := congrArg List.length written
  simp only [List.length_drop, Offset.text, List.length_append, write_length, List.length_singleton] at length
  omega

theorem numeric_signed {negative : Bool} {hours minutes : Nat}
    (written : bytes.drop cursor = (Offset.numeric negative hours minutes).text) :
    bytes[cursor]? = some (if negative then 45 else 43) :=
  ((numeric_text (numeric_ends written) negative hours minutes).mp written).1

theorem offset_letter {offset : Offset} {letter : UInt8} (written : bytes.drop cursor = offset.text)
    (read : bytes[cursor]? = some letter) : (letter = 90 ∨ letter = 122) ∨ letter = 43 ∨ letter = 45 := by
  cases offset with
  | zulu small =>
    left
    have first := read.symm.trans ((zulu_text small).mp written).2
    cases small <;> cases first
    · exact .inl rfl
    · exact .inr rfl
  | numeric negative hours minutes =>
    right
    have first := read.symm.trans (numeric_signed written)
    cases negative <;> cases first
    · exact .inl rfl
    · exact .inr rfl

theorem zuluOffset_exact (addressed : Addressable bytes) {letter : UInt8} (read : bytes[cursor]? = some letter)
    (zulu : letter = 90 ∨ letter = 122) :
    Exact TimestampRefused
      (do
        let stop ← usize (cursor + 1)
        if stop = bytes.length then pure 0 else refuse timestampError : CatalogResult Int)
      (fun value => ∃ offset : Offset, offset.Valid ∧
        bytes.drop cursor = offset.text ∧ value = offset.minutes) := by
  have addresses : bytes.length < 2 ^ 63 := addressed
  have inside : cursor < bytes.length := (List.getElem?_eq_some_iff.mp read).1
  have notNumeric : ∀ {negative hours minutes},
      bytes.drop cursor ≠ (Offset.numeric negative hours minutes).text := by
    intro negative hours minutes written
    have signed := read.symm.trans (numeric_signed written)
    cases negative <;> rcases zulu with rfl | rfl <;> cases signed
  apply Exact.step (usize_eq (by omega))
  by_cases ends : cursor + 1 = bytes.length
  · rw [if_pos ends]
    apply (Exact.ok _).congr
    intro value
    constructor
    · rintro rfl
      refine ⟨.zulu (letter == 122), trivial, (zulu_text _).mpr ⟨ends, ?_⟩, rfl⟩
      rw [read]
      rcases zulu with rfl | rfl <;> rfl
    · rintro ⟨offset, -, written, rfl⟩
      cases offset with
      | zulu small => rfl
      | numeric negative hours minutes => exact absurd written notNumeric
  · rw [if_neg ends]
    apply refuse_exact
    rintro value ⟨offset, -, written, -⟩
    cases offset with
    | zulu small => exact ends ((zulu_text small).mp written).1
    | numeric negative hours minutes => exact notNumeric written

theorem signedOffset_exact (addressed : Addressable bytes) {sign : UInt8} (read : bytes[cursor]? = some sign)
    (signed : sign = 43 ∨ sign = 45) :
    Exact TimestampRefused
      (do
        let stop ← usize (cursor + 6)
        if stop = bytes.length then parseNumericOffset bytes cursor (sign = 45) else refuse timestampError)
      (fun value => ∃ offset : Offset, offset.Valid ∧
        bytes.drop cursor = offset.text ∧ value = offset.minutes) := by
  have addresses : bytes.length < 2 ^ 63 := addressed
  have inside : cursor < bytes.length := (List.getElem?_eq_some_iff.mp read).1
  have written : bytes[cursor]? = some (if decide (sign = 45) = true then 45 else 43) := by
    rw [read]
    rcases signed with rfl | rfl <;> rfl
  have notZulu : ∀ {small}, bytes.drop cursor ≠ (Offset.zulu small).text := by
    intro small text
    have last := read.symm.trans ((zulu_text small).mp text).2
    cases small <;> rcases signed with rfl | rfl <;> cases last
  apply Exact.step (usize_eq (by omega))
  by_cases ends : cursor + 6 = bytes.length
  · rw [if_pos ends]
    apply (parseNumericOffset_exact addressed ends written).congr
    intro value
    constructor
    · rintro ⟨hours, minutes, valid, text, rfl⟩
      exact ⟨_, valid, text, rfl⟩
    · rintro ⟨offset, valid, text, rfl⟩
      cases offset with
      | zulu small => exact absurd text notZulu
      | numeric negative hours minutes =>
        have same := written.symm.trans (numeric_signed text)
        rw [Option.some.injEq] at same
        have sameSign : decide (sign = 45) = negative := by
          cases negative <;> rcases signed with rfl | rfl <;> first | rfl | cases same
        rw [sameSign]
        exact ⟨hours, minutes, valid, text, rfl⟩
  · rw [if_neg ends]
    apply refuse_exact
    rintro value ⟨offset, -, text, -⟩
    cases offset with
    | zulu small => exact notZulu text
    | numeric negative hours minutes => exact ends (numeric_ends text)

theorem parseOffset_exact (addressed : Addressable bytes) :
    Exact TimestampRefused (parseOffset bytes cursor) (fun value => ∃ offset : Offset, offset.Valid ∧
      bytes.drop cursor = offset.text ∧ value = offset.minutes) := by
  unfold parseOffset
  cases read : bytes[cursor]? with
  | none =>
    apply refuse_exact
    rintro value ⟨offset, -, written, -⟩
    have length := congrArg List.length written
    have beyond := List.getElem?_eq_none_iff.mp read
    have positive := offset.text_length_pos
    rw [List.length_drop] at length
    omega
  | some sign =>
    dsimp only
    by_cases zulu : sign = 90 ∨ sign = 122
    · rw [if_pos zulu]
      exact zuluOffset_exact addressed read zulu
    · rw [if_neg zulu]
      by_cases signed : sign = 43 ∨ sign = 45
      · rw [if_pos signed]
        exact signedOffset_exact addressed read signed
      · rw [if_neg signed]
        apply refuse_exact
        rintro value ⟨offset, -, written, -⟩
        rcases offset_letter written read with letter | letter
        · exact zulu letter
        · exact signed letter

end Offset

end ProviderCatalog

end RustyFleet

import Mathlib.Tactic.Linarith
import RustyFleet.Safety.TimestampParts

namespace RustyFleet

namespace ProviderCatalog

open Rfc3339 DigitBytes Calendar

section Days

theorem daysInMonth_eq (year : Nat) {month : Nat} (low : 1 ≤ month) (high : month ≤ 12) :
    daysInMonth year month = monthLength year month := by
  have leap : (isMultipleOf year 400 || isMultipleOf year 4 && !isMultipleOf year 100) = true ↔
      leapYear year := by
    simp only [isMultipleOf, Bool.or_eq_true, Bool.and_eq_true, Bool.not_eq_true', beq_iff_eq,
      beq_eq_false_iff_ne, leapYear]
    omega
  have months : month = 1 ∨ month = 2 ∨ month = 3 ∨ month = 4 ∨ month = 5 ∨ month = 6 ∨ month = 7 ∨ month = 8 ∨
      month = 9 ∨ month = 10 ∨ month = 11 ∨ month = 12 := by omega
  rcases months with rfl | rfl | rfl | rfl | rfl | rfl | rfl | rfl | rfl | rfl | rfl | rfl
  case inr.inl =>
    have february : daysInMonth year 2 =
        if (isMultipleOf year 400 || isMultipleOf year 4 && !isMultipleOf year 100) = true then 29 else 28 := rfl
    rw [february]
    simp only [leap]
    rfl
  all_goals rfl

def marchDays (adjustedYear adjustedMonth day : Int) : Int :=
  adjustedYear / 400 * 146097 +
    (adjustedYear % 400 * 365 + adjustedYear % 400 / 4 - adjustedYear % 400 / 100 +
      ((153 * adjustedMonth + 2) / 5 + day - 1)) - 719468

theorem daysFromCivil_march {year month day adjustedYear adjustedMonth : Int}
    (years : year - (if month ≤ 2 then 1 else 0) = adjustedYear)
    (months : month + (if month > 2 then -3 else 9) = adjustedMonth)
    (yearLow : -1 ≤ adjustedYear) (yearHigh : adjustedYear ≤ 9999)
    (monthLow : 0 ≤ adjustedMonth) (monthHigh : adjustedMonth ≤ 11) (dayLow : 1 ≤ day) (dayHigh : day ≤ 31) :
    daysFromCivil year month day = .ok (marchDays adjustedYear adjustedMonth day) := by
  have eras : eraDividend adjustedYear = .ok (if adjustedYear ≥ 0 then adjustedYear else adjustedYear - 399) := by
    unfold eraDividend
    split
    · rfl
    · exact i64_eq (by omega) (by omega)
  have era : (if adjustedYear ≥ 0 then adjustedYear else adjustedYear - 399).tdiv 400 = adjustedYear / 400 := by
    split
    · exact Int.tdiv_eq_ediv_of_nonneg (by omega)
    · have first : adjustedYear = -1 := by omega
      subst first
      rfl
  have yearOfEra : adjustedYear - adjustedYear / 400 * 400 = adjustedYear % 400 := by omega
  have yearBounds : 0 ≤ adjustedYear % 400 ∧ adjustedYear % 400 < 400 := by omega
  unfold daysFromCivil marchDays
  apply i64_step adjustedYear years (by omega) (by omega)
  rw [eras, ok_then]
  apply i64_step (adjustedYear / 400) era (by omega) (by omega)
  apply i64_step _ rfl (by omega) (by omega)
  apply i64_step (adjustedYear % 400) yearOfEra (by omega) (by omega)
  apply i64_step adjustedMonth months (by omega) (by omega)
  apply i64_step _ rfl (by omega) (by omega)
  apply i64_step _ rfl (by omega) (by omega)
  apply i64_step ((153 * adjustedMonth + 2) / 5) (Int.tdiv_eq_ediv_of_nonneg (by omega)) (by omega) (by omega)
  apply i64_step _ rfl (by omega) (by omega)
  apply i64_step _ rfl (by omega) (by omega)
  apply i64_step _ rfl (by omega) (by omega)
  apply i64_step (adjustedYear % 400 / 4) (Int.tdiv_eq_ediv_of_nonneg (by omega)) (by omega) (by omega)
  apply i64_step _ rfl (by omega) (by omega)
  apply i64_step (adjustedYear % 400 / 100) (Int.tdiv_eq_ediv_of_nonneg (by omega)) (by omega) (by omega)
  apply i64_step _ rfl (by omega) (by omega)
  apply i64_step _ rfl (by omega) (by omega)
  apply i64_step _ rfl (by omega) (by omega)
  apply i64_step _ rfl (by omega) (by omega)
  exact i64_eq (by omega) (by omega)

theorem daysFromCivil_eq {date : Date} (valid : date.Valid) (bounded : date.year ≤ 9999) :
    daysFromCivil date.year date.month date.day = .ok ((date.number : Int) - unixEpoch) := by
  obtain ⟨year, month, day⟩ := date
  have monthLow : 1 ≤ month := valid.month_pos
  have monthHigh : month ≤ 12 := valid.month_le
  have dayLow : 1 ≤ day := valid.day_pos
  have dayHigh : day ≤ 31 := Nat.le_trans valid.day_le (Deadlines.monthLength_le year month)
  have yearHigh : year ≤ 9999 := bounded
  have epoch : unixEpoch = 719528 := by
    have start := daysBeforeYear_eq 1970
    unfold unixEpoch
    omega
  by_cases spring : 3 ≤ month
  · have civil := @daysFromCivil_march year month day year ((month - 3 : Nat) : Int) (by omega) (by omega)
      (by omega) (by omega) (by omega) (by omega) (by omega) (by omega)
    have start := Deadlines.march_start year
    have months := (Deadlines.month_formula year (show month - 3 ≤ 9 by omega)).1
    rw [Nat.sub_add_cancel spring] at months
    rw [civil, epoch, Date.number, months]
    unfold marchDays
    congr 1
    dsimp only
    omega
  · have civil := @daysFromCivil_march year month day ((year : Int) - 1) ((month + 9 : Nat) : Int) (by omega)
      (by omega) (by omega) (by omega) (by omega) (by omega) (by omega) (by omega)
    have months : daysBeforeMonth year month = (153 * (month + 9) + 2) / 5 - 306 := by
      have winter : month = 1 ∨ month = 2 := by omega
      rcases winter with rfl | rfl <;> rfl
    rw [civil, epoch, Date.number, months]
    unfold marchDays
    congr 1
    dsimp only
    cases year with
    | zero =>
      have first : daysBeforeYear 0 = 0 := rfl
      omega
    | succ year =>
      have start := Deadlines.march_start year
      have january := Deadlines.january_start year
      have previous : ((year + 1 : Nat) : Int) - 1 = year := by omega
      have hundredth : year / 100 = year % 400 / 100 + 4 * (year / 400) := by omega
      have fourth : year / 4 = year % 400 / 4 + 100 * (year / 400) := by omega
      have whole : year = year / 400 * 400 + year % 400 := by omega
      have rounded : 306 ≤ (153 * (month + 9) + 2) / 5 := by omega
      have lastDay : 1 ≤ day := dayLow
      rw [previous, january]
      clear civil months bounded valid yearHigh
      push_cast
      omega

end Days

section Instant

theorem instantTicks_eq {time : DateTime} (valid : time.Valid) :
    instantTicks time.date.year time.date.month time.date.day time.hour time.minute time.second
      time.offset.minutes (fractionTicks time.fraction) =
        .ok (time.wholeSeconds * 10000000 + fractionTicks time.fraction) := by
  have hour := valid.hour
  have minute := valid.minute
  have second := valid.second
  have ticks := fractionTicks_lt valid.fraction
  have days : time.date.number < daysBeforeYear 10000 :=
    Nat.lt_of_lt_of_le valid.date.in_year (daysBeforeYear_mono (Nat.add_le_add_right valid.year 1))
  have century := daysBeforeYear_eq 10000
  have epoch := daysBeforeYear_eq 1970
  have offset := Offset.minutes_bounds valid.offset
  have normalized : (if time.second = 60 then 59 else time.second) + (if time.second = 60 then 1 else 0) =
      time.second := by
    split <;> omega
  generalize normal : (if time.second = 60 then 59 else time.second) = normalizedSecond at normalized
  have leap : (if time.second = 60 then (1 : Int) else 0) = (time.second : Int) - normalizedSecond := by
    split at normalized <;> omega
  unfold DateTime.wholeSeconds unixEpoch
  unfold instantTicks
  dsimp only
  rw [normal, leap, daysFromCivil_eq valid.date valid.year, ok_then]
  unfold unixEpoch
  generalize daysBeforeYear 1970 = epochDays at epoch ⊢
  generalize daysBeforeYear 10000 = allDays at century days
  rw [i128_eq (by omega) (by omega), ok_then, u32_eq (by omega), ok_then, u32_eq (by omega), ok_then,
    u32_eq (by omega), ok_then, u32_eq (by omega), ok_then, i128_eq (by omega) (by omega), ok_then,
    i128_eq (by omega) (by omega), ok_then, i128_eq (by omega) (by omega), ok_then,
    i128_eq (by omega) (by omega), ok_then, i128_eq (by omega) (by omega), ok_then]
  rw [i128_eq (by omega) (by omega)]
  apply congrArg Except.ok
  omega

theorem fractionTicks_value {fraction : List UInt8} (supported : Supported fraction) :
    fractionTicks fraction * 10 ^ fraction.length = read fraction * 10 ^ 7 := by
  have split := read_append (fraction.take 7) (fraction.drop 7)
  rw [List.take_append_drop] at split
  have zeros : read (fraction.drop 7) = 0 := by
    have all := supported.2
    generalize fraction.drop 7 = finer at all
    induction finer using List.reverseRecOn with
    | nil => rfl
    | append_singleton finer byte ih =>
      have last : byte = 48 := all byte (List.mem_append_right _ (List.mem_singleton.mpr rfl))
      rw [read_snoc, ih fun other member => all other (List.mem_append_left _ member), last]
      rfl
  rw [zeros, Nat.add_zero, List.length_drop] at split
  rw [split, fractionTicks, Nat.mul_assoc, Nat.mul_assoc, ← Nat.pow_add, ← Nat.pow_add]
  congr 2
  omega

theorem ticks_iff {time : DateTime} (supported : Supported time.fraction) (ticks : Int) :
    (ticks : Rat) = time.instant * 10 ^ 7 ↔
      ticks = time.wholeSeconds * 10000000 + fractionTicks time.fraction := by
  have value : (fractionTicks time.fraction : Rat) =
      (read time.fraction : Rat) / 10 ^ time.fraction.length * 10 ^ 7 := by
    have counted : ((fractionTicks time.fraction * 10 ^ time.fraction.length : Nat) : Rat) =
        ((read time.fraction * 10 ^ 7 : Nat) : Rat) := congrArg _ (fractionTicks_value supported)
    push_cast at counted
    field_simp
    linarith
  have instant : time.instant * 10 ^ 7 =
      ((time.wholeSeconds * 10000000 + fractionTicks time.fraction : Int) : Rat) := by
    rw [DateTime.instant, add_mul, ← value]
    push_cast
    norm_num
  rw [instant, Int.cast_inj]

end Instant

section Grammar

variable {bytes : List UInt8}

/-- The bytes are a date-time of the grammar with a fraction of whole ticks. -/
structure Names (time : DateTime) (bytes : List UInt8) : Prop where
  valid : time.Valid
  supported : Supported time.fraction
  text : time.text = bytes

theorem header_iff (time : DateTime) : StandsAt bytes 0 time.header ↔
    StandsAt bytes 0 (write 4 time.date.year) ∧ bytes[4]? = some 45 ∧
      StandsAt bytes 5 (write 2 time.date.month) ∧ bytes[7]? = some 45 ∧
      StandsAt bytes 8 (write 2 time.date.day) ∧ bytes[10]? = some (if time.smallT then 116 else 84) ∧
      StandsAt bytes 11 (write 2 time.hour) ∧ bytes[13]? = some 58 ∧
      StandsAt bytes 14 (write 2 time.minute) ∧ bytes[16]? = some 58 ∧
      StandsAt bytes 17 (write 2 time.second) := by
  simp only [DateTime.header, StandsAt.append, StandsAt.single, write_length, List.length_singleton,
    Nat.reduceAdd, Nat.zero_add]

theorem fields_iff (year month day hour minute second : Nat) :
    ¬ (¬ (1 ≤ month ∧ month ≤ 12) ∨ day = 0 ∨ day > daysInMonth year month ∨ hour > 23 ∨ minute > 59 ∨
        second > 60) ↔
      Date.Valid ⟨year, month, day⟩ ∧ hour ≤ 23 ∧ minute ≤ 59 ∧ second ≤ 60 := by
  constructor
  · intro kept
    have months : 1 ≤ month ∧ month ≤ 12 := by omega
    rw [daysInMonth_eq year months.1 months.2] at kept
    refine ⟨⟨months.1, months.2, ?_, ?_⟩, ?_⟩
    · dsimp only
      omega
    · dsimp only
      omega
    · omega
  · rintro ⟨date, clock⟩
    have monthLow : 1 ≤ month := date.month_pos
    have monthHigh : month ≤ 12 := date.month_le
    have dayLow : 1 ≤ day := date.day_pos
    have dayHigh : day ≤ monthLength year month := date.day_le
    rw [daysInMonth_eq year monthLow monthHigh]
    omega

theorem offset_ends {offset : Offset} {position : Nat} (written : bytes.drop position = offset.text) :
    bytes[position]? ≠ some 46 ∧ ∀ byte, bytes[position]? = some byte → isDigit byte = false := by
  have first : bytes[position]? = offset.text.head? := by rw [← written, List.head?_drop]
  rw [first]
  cases offset with
  | zulu small =>
    rw [Offset.text, List.head?_cons]
    cases small <;> exact ⟨by decide, by rintro byte ⟨⟩; rfl⟩
  | numeric negative hours minutes =>
    rw [Offset.text, List.singleton_append, List.head?_cons]
    cases negative <;> exact ⟨by decide, by rintro byte ⟨⟩; rfl⟩

theorem fractionAt_of_text {fraction : List UInt8} {offset : Offset} (digits : fraction.all isDigit = true)
    (stands : StandsAt bytes 19 (fractionText fraction))
    (behind : bytes.drop (19 + (fractionText fraction).length) = offset.text) : FractionAt bytes fraction := by
  refine ⟨stands, digits, ?_⟩
  have ends := offset_ends behind
  by_cases empty : fraction = []
  · rw [if_pos empty]
    subst empty
    exact ends.1
  · rw [if_neg empty]
    rw [fractionText, if_neg empty, List.length_cons] at ends
    have position : 20 + fraction.length = 19 + (fraction.length + 1) := by omega
    rw [position]
    exact ends.2

theorem behind_exact (addressed : Addressable bytes) (year month day hour minute second : Nat) (smallT : Bool)
    (bounded : year ≤ 9999) :
    Exact TimestampRefused
      (if ¬ (1 ≤ month ∧ month ≤ 12) ∨ day = 0 ∨ day > daysInMonth year month ∨ hour > 23 ∨ minute > 59 ∨
          second > 60 then
        refuse timestampError
      else do
        let (cursor, fractionTicks) ← parseFraction bytes
        let offsetMinutes ← parseOffset bytes cursor
        instantTicks year month day hour minute second offsetMinutes fractionTicks)
      (fun ticks => ∃ time : DateTime, time.date = ⟨year, month, day⟩ ∧ time.hour = hour ∧
        time.minute = minute ∧ time.second = second ∧ time.smallT = smallT ∧ time.Valid ∧
        Supported time.fraction ∧ StandsAt bytes 19 (fractionText time.fraction) ∧
        bytes.drop (19 + (fractionText time.fraction).length) = time.offset.text ∧
        (ticks : Rat) = time.instant * 10 ^ 7) := by
  by_cases outside : ¬ (1 ≤ month ∧ month ≤ 12) ∨ day = 0 ∨ day > daysInMonth year month ∨ hour > 23 ∨
      minute > 59 ∨ second > 60
  · rw [if_pos outside]
    apply refuse_exact
    rintro ticks ⟨time, date, rfl, rfl, rfl, -, valid, -⟩
    exact (fields_iff year month day time.hour time.minute time.second).mpr
      ⟨date ▸ valid.date, valid.hour, valid.minute, valid.second⟩ outside
  · rw [if_neg outside]
    obtain ⟨dateValid, hourBound, minuteBound, secondBound⟩ :=
      (fields_iff year month day hour minute second).mp outside
    apply @Exact.congr _ _ _ _ (fun ticks => ∃ found : Nat × Int, (∃ fraction, FractionAt bytes fraction ∧
      Supported fraction ∧ found = (19 + (fractionText fraction).length, (fractionTicks fraction : Int))) ∧
      ∃ minutes : Int, (∃ offset : Offset, offset.Valid ∧ bytes.drop found.1 = offset.text ∧
        minutes = offset.minutes) ∧ instantTicks year month day hour minute second minutes found.2 = .ok ticks)
    · apply Exact.bind (parseFraction_exact addressed)
      rintro ⟨cursor, fractionTicksFound⟩ ⟨fraction, standing, supported, found⟩
      obtain ⟨rfl, rfl⟩ := Prod.mk.inj found
      apply Exact.bind (parseOffset_exact addressed)
      rintro _ ⟨offset, offsetValid, -, rfl⟩
      have computed := @instantTicks_eq ⟨⟨year, month, day⟩, hour, minute, second, smallT, fraction, offset⟩
        ⟨bounded, dateValid, hourBound, minuteBound, secondBound, standing.digits, offsetValid⟩
      dsimp only at computed ⊢
      rw [computed]
      apply (Exact.ok _).congr
      intro ticks
      rw [Except.ok.injEq]
    · intro ticks
      constructor
      · rintro ⟨_, ⟨fraction, standing, supported, rfl⟩, _, ⟨offset, offsetValid, written, rfl⟩, returned⟩
        let time : DateTime := ⟨⟨year, month, day⟩, hour, minute, second, smallT, fraction, offset⟩
        have valid : time.Valid :=
          ⟨bounded, dateValid, hourBound, minuteBound, secondBound, standing.digits, offsetValid⟩
        have computed := (instantTicks_eq valid).symm.trans returned
        refine ⟨time, rfl, rfl, rfl, rfl, rfl, valid, supported, standing.stands, written, ?_⟩
        rw [@ticks_iff time supported]
        exact (Except.ok.inj computed).symm
      · rintro ⟨time, date, rfl, rfl, rfl, -, valid, supported, stands, written, counted⟩
        have computed := instantTicks_eq valid
        rw [date] at computed
        refine ⟨_, ⟨time.fraction, fractionAt_of_text valid.fraction stands written, supported, rfl⟩, _,
          ⟨time.offset, valid.offset, written, rfl⟩, ?_⟩
        rw [(ticks_iff supported ticks).mp counted]
        exact computed

theorem parse_exact (addressed : Addressable bytes) :
    Exact TimestampRefused (parseRfc3339Ticks bytes)
      (fun ticks => ∃ time : DateTime, Names time bytes ∧ (ticks : Rat) = time.instant * 10 ^ 7) := by
  have behind : ∀ time : DateTime, bytes.drop (19 + (fractionText time.fraction).length) = time.offset.text →
      20 ≤ bytes.length := by
    intro time written
    have length := congrArg List.length written
    have positive := time.offset.text_length_pos
    rw [List.length_drop] at length
    omega
  have small : ∀ time : DateTime, (if time.smallT then (116 : UInt8) else 84) = 84 ∨
      (if time.smallT then (116 : UInt8) else 84) = 116 := by
    intro time
    cases time.smallT
    · exact .inl rfl
    · exact .inr rfl
  unfold parseRfc3339Ticks
  by_cases malformed : bytes.length < 20 ∨ bytes[4]? ≠ some 45 ∨ bytes[7]? ≠ some 45 ∨
      ¬ (bytes[10]? = some 84 ∨ bytes[10]? = some 116) ∨ bytes[13]? ≠ some 58 ∨ bytes[16]? ≠ some 58
  · rw [if_pos malformed]
    apply refuse_exact
    rintro ticks ⟨time, ⟨valid, supported, text⟩, -⟩
    obtain ⟨head, -, written⟩ := (DateTime.text_iff time bytes).mp text
    obtain ⟨-, fourth, -, seventh, -, tenth, -, thirteenth, -, sixteenth, -⟩ := (header_iff time).mp head
    have long := behind time written
    rw [fourth, seventh, tenth, thirteenth, sixteenth] at malformed
    simp only [ne_eq, not_true_eq_false, Option.some.injEq, small time, or_false] at malformed
    omega
  · rw [if_neg malformed]
    have tenth : bytes[10]? = some 84 ∨ bytes[10]? = some 116 := by
      by_contra neither
      exact malformed (.inr (.inr (.inr (.inl neither))))
    simp only [not_or, not_not] at malformed
    obtain ⟨long, fourth, seventh, -, thirteenth, sixteenth⟩ := malformed
    have separator : ∃ smallT : Bool, bytes[10]? = some (if smallT then 116 else 84) := by
      rcases tenth with large | small
      · exact ⟨false, large⟩
      · exact ⟨true, small⟩
    obtain ⟨smallT, separated⟩ := separator
    apply Exact.congr
    · apply Exact.bind (@parseDigits_exact bytes 0 4 (by decide) (by decide) (by decide))
      intro year yearAt
      apply Exact.bind (@parseDigits_exact bytes 5 2 (by decide) (by decide) (by decide))
      intro month monthAt
      apply Exact.bind (@parseDigits_exact bytes 8 2 (by decide) (by decide) (by decide))
      intro day dayAt
      apply Exact.bind (@parseDigits_exact bytes 11 2 (by decide) (by decide) (by decide))
      intro hour hourAt
      apply Exact.bind (@parseDigits_exact bytes 14 2 (by decide) (by decide) (by decide))
      intro minute minuteAt
      apply Exact.bind (@parseDigits_exact bytes 17 2 (by decide) (by decide) (by decide))
      intro second secondAt
      exact behind_exact addressed year month day hour minute second smallT
        (Nat.le_of_lt_succ yearAt.1)
    · intro ticks
      constructor
      · rintro ⟨year, ⟨-, yearAt⟩, month, ⟨-, monthAt⟩, day, ⟨-, dayAt⟩, hour, ⟨-, hourAt⟩, minute,
          ⟨-, minuteAt⟩, second, ⟨-, secondAt⟩, time, date, rfl, rfl, rfl, rfl, valid, supported, stands, written,
          counted⟩
        have header : StandsAt bytes 0 time.header := by
          rw [header_iff, date]
          exact ⟨yearAt, fourth, monthAt, seventh, dayAt, separated, hourAt, thirteenth, minuteAt, sixteenth,
            secondAt⟩
        exact ⟨time, ⟨valid, supported, (DateTime.text_iff time bytes).mpr ⟨header, stands, written⟩⟩, counted⟩
      · rintro ⟨time, ⟨valid, supported, text⟩, counted⟩
        obtain ⟨head, stands, written⟩ := (DateTime.text_iff time bytes).mp text
        obtain ⟨yearAt, -, monthAt, -, dayAt, separatedHere, hourAt, -, minuteAt, -, secondAt⟩ :=
          (header_iff time).mp head
        have month := valid.date.month_le
        have day := Nat.le_trans valid.date.day_le (Deadlines.monthLength_le _ _)
        have hour := valid.hour
        have minute := valid.minute
        have second := valid.second
        have sameT : time.smallT = smallT := by
          rw [separatedHere, Option.some.injEq] at separated
          revert separated
          cases time.smallT <;> cases smallT <;> decide
        exact ⟨time.date.year, ⟨Nat.lt_succ_of_le valid.year, yearAt⟩, time.date.month, ⟨by omega, monthAt⟩,
          time.date.day, ⟨by omega, dayAt⟩, time.hour, ⟨by omega, hourAt⟩, time.minute, ⟨by omega, minuteAt⟩,
          time.second, ⟨by omega, secondAt⟩, time, rfl, rfl, rfl, rfl, sameT, valid, supported, stands, written,
          counted⟩

/-- Rust's `&str` seen as its bytes. -/
structure ByteString where
  bytes : List UInt8
  addressable : Addressable bytes

/-- A byte string is parsed when it is a date-time with a fraction of whole ticks, to the ticks of its instant;
equal instants give equal ticks and later ones more. Every other string is refused, and no step overflows. -/
theorem rfc3339_parsing_exact (value : ByteString) :
    ((∃ ticks, parseRfc3339Ticks value.bytes = .ok ticks) ↔ ∃ time, Names time value.bytes) ∧
      (∀ ticks time, parseRfc3339Ticks value.bytes = .ok ticks → Names time value.bytes →
        (ticks : Rat) = time.instant * 10 ^ 7) ∧
      (∀ fault, parseRfc3339Ticks value.bytes = .error fault → fault = .refused timestampError) ∧
      ∀ (other : ByteString) (ticks otherTicks : Int) (time otherTime : DateTime),
        Names time value.bytes → Names otherTime other.bytes →
        parseRfc3339Ticks value.bytes = .ok ticks → parseRfc3339Ticks other.bytes = .ok otherTicks →
          (time.instant = otherTime.instant ↔ ticks = otherTicks) ∧
            (time.instant < otherTime.instant ↔ ticks < otherTicks) := by
  have counted : ∀ (string : ByteString) (ticks : Int) (time : DateTime),
      parseRfc3339Ticks string.bytes = .ok ticks → Names time string.bytes →
        (ticks : Rat) = time.instant * 10 ^ 7 := by
    intro string ticks time parsed named
    have exact := parse_exact string.addressable
    have same := (exact.ok_iff _).mpr ⟨time, named, (ticks_iff named.supported _).mpr rfl⟩
    rw [parsed, Except.ok.injEq] at same
    rw [same]
    exact (ticks_iff named.supported _).mpr rfl
  have exact := parse_exact value.addressable
  refine ⟨?_, counted value, exact.refused, ?_⟩
  · constructor
    · rintro ⟨ticks, parsed⟩
      obtain ⟨time, named, -⟩ := (exact.ok_iff ticks).mp parsed
      exact ⟨time, named⟩
    · rintro ⟨time, named⟩
      exact ⟨_, (exact.ok_iff _).mpr ⟨time, named, (ticks_iff named.supported _).mpr rfl⟩⟩
  · intro other ticks otherTicks time otherTime named otherNamed parsed otherParsed
    have first := counted value ticks time parsed named
    have second := counted other otherTicks otherTime otherParsed otherNamed
    constructor
    · rw [← Int.cast_inj (α := Rat), first, second]
      exact (mul_left_inj' (by norm_num)).symm
    · rw [← Int.cast_lt (R := Rat), first, second]
      exact (mul_lt_mul_iff_left₀ (by norm_num)).symm

end Grammar

end ProviderCatalog

end RustyFleet

import RustyFleet.Hub.WindowsHotspot
import RustyFleet.Support.Calendar
import RustyFleet.Support.CheckedInt
import RustyFleet.Support.FixedText

namespace RustyFleet

namespace Deadlines

open Calendar

section Dates

theorem era_split (dayOfEra : Nat) (within : dayOfEra < 146097) :
    ∃ century cycle year day, century ≤ 3 ∧ cycle ≤ 24 ∧ year ≤ 3 ∧ day ≤ 365 ∧
      (day = 365 → year = 3 ∧ (cycle < 24 ∨ century = 3)) ∧
      dayOfEra = 36524 * century + 1461 * cycle + 365 * year + day := by
  have centuries : ∃ century day, century ≤ 3 ∧ day ≤ 36524 ∧ (day = 36524 → century = 3) ∧
      dayOfEra = 36524 * century + day :=
    ⟨min (dayOfEra / 36524) 3, dayOfEra - 36524 * min (dayOfEra / 36524) 3, by omega, by omega, by omega,
      by omega⟩
  obtain ⟨century, dayOfCentury, centuryBound, dayBound, last, rfl⟩ := centuries
  have years : ∃ year day, year ≤ 3 ∧ day ≤ 365 ∧ (day = 365 → year = 3) ∧
      dayOfCentury % 1461 = 365 * year + day :=
    ⟨min (dayOfCentury % 1461 / 365) 3, dayOfCentury % 1461 - 365 * min (dayOfCentury % 1461 / 365) 3,
      by omega, by omega, by omega, by omega⟩
  obtain ⟨year, day, yearBound, dayOfYear, leap, split⟩ := years
  have cycles := Nat.div_add_mod dayOfCentury 1461
  refine ⟨century, dayOfCentury / 1461, year, day, centuryBound, by omega, yearBound, dayOfYear, ?_, by omega⟩
  intro long
  have final := leap long
  refine ⟨final, ?_⟩
  omega

theorem yearOfEra_eq {century cycle year day : Nat} (centuryBound : century ≤ 3) (cycleBound : cycle ≤ 24)
    (yearBound : year ≤ 3) (dayBound : day ≤ 365)
    (leap : day = 365 → year = 3 ∧ (cycle < 24 ∨ century = 3)) (dayOfEra : Nat)
    (same : dayOfEra = 36524 * century + 1461 * cycle + 365 * year + day) :
    (dayOfEra - dayOfEra / 1460 + dayOfEra / 36524 - dayOfEra / 146096) / 365 =
      100 * century + 4 * cycle + year := by
  have hundreds : dayOfEra / 36524 = century + dayOfEra / 146096 := by
    have short : 1461 * cycle + 365 * year + day < 36524 ∨
        century = 3 ∧ 1461 * cycle + 365 * year + day = 36524 := by omega
    rcases short with short | ⟨rfl, full⟩
    · have whole : dayOfEra / 36524 = century := by omega
      have none : dayOfEra / 146096 = 0 := by omega
      omega
    · have total : dayOfEra = 146096 := by omega
      rw [total]
  have quarters : dayOfEra / 1460 = 25 * century + cycle +
      (24 * century + cycle + 365 * year + day) / 1460 := by omega
  have borrowed : (24 * century + cycle + 365 * year + day) / 1460 = 0 ∨
      (24 * century + cycle + 365 * year + day) / 1460 = 1 := by omega
  rcases borrowed with none | one
  · rw [quarters, hundreds, none]
    omega
  · rw [quarters, hundreds, one]
    omega

theorem year_quotients {century cycle year : Nat} (centuryBound : century ≤ 3) (cycleBound : cycle ≤ 24)
    (yearBound : year ≤ 3) (era : Nat) :
    (100 * century + 4 * cycle + year + era * 400) / 4 = 25 * century + cycle + 100 * era ∧
      (100 * century + 4 * cycle + year + era * 400) / 100 = century + 4 * era ∧
      (100 * century + 4 * cycle + year + era * 400) / 400 = era := by
  omega

theorem march_start (year : Nat) :
    daysBeforeYear year + daysBeforeMonth year 3 + year / 100 = 365 * year + year / 4 + year / 400 + 60 := by
  have start := daysBeforeYear_eq year
  have spring : daysBeforeMonth year 3 = 31 + monthLength year 2 := by
    simp only [daysBeforeMonth, monthLength]
  rw [spring]
  simp only [monthLength]
  by_cases leap : leapYear year
  · rw [if_pos leap]
    unfold leapYear at leap
    omega
  · rw [if_neg leap]
    unfold leapYear at leap
    omega

theorem january_start (year : Nat) :
    daysBeforeYear (year + 1) = daysBeforeYear year + daysBeforeMonth year 3 + 306 := by
  have december : daysBeforeMonth year 13 = daysBeforeMonth year 3 + 306 := rfl
  rw [daysBeforeYear, ← daysBeforeMonth_year, december, Nat.add_assoc]

def marchDate (year day : Nat) : Date :=
  let monthPrime := (5 * day + 2) / 153
  let month := if monthPrime < 10 then monthPrime + 3 else monthPrime - 9
  ⟨year + if month ≤ 2 then 1 else 0, month, day - (153 * monthPrime + 2) / 5 + 1⟩

theorem month_formula (year : Nat) {monthPrime : Nat} (bounded : monthPrime ≤ 9) :
    daysBeforeMonth year (monthPrime + 3) = daysBeforeMonth year 3 + (153 * monthPrime + 2) / 5 ∧
      monthLength year (monthPrime + 3) = (153 * (monthPrime + 1) + 2) / 5 - (153 * monthPrime + 2) / 5 := by
  have cases : monthPrime = 0 ∨ monthPrime = 1 ∨ monthPrime = 2 ∨ monthPrime = 3 ∨ monthPrime = 4 ∨
      monthPrime = 5 ∨ monthPrime = 6 ∨ monthPrime = 7 ∨ monthPrime = 8 ∨ monthPrime = 9 := by omega
  rcases cases with rfl | rfl | rfl | rfl | rfl | rfl | rfl | rfl | rfl | rfl <;> exact ⟨rfl, rfl⟩

theorem day_formula {day monthPrime : Nat} (same : (5 * day + 2) / 153 = monthPrime) :
    (153 * monthPrime + 2) / 5 ≤ day ∧ day < (153 * (monthPrime + 1) + 2) / 5 := by
  omega

theorem marchDate_spec (year day : Nat) (bounded : day ≤ 365) (leap : day = 365 → leapYear (year + 1)) :
    (marchDate year day).Valid ∧
      (marchDate year day).number = daysBeforeYear year + daysBeforeMonth year 3 + day := by
  have months : (5 * day + 2) / 153 ≤ 11 := by omega
  generalize numbered : (5 * day + 2) / 153 = monthPrime at months
  obtain ⟨reached, before⟩ := day_formula numbered
  by_cases spring : monthPrime ≤ 9
  · obtain ⟨start, length⟩ := month_formula year spring
    have date : marchDate year day = ⟨year, monthPrime + 3, day - (153 * monthPrime + 2) / 5 + 1⟩ := by
      simp only [marchDate, numbered, if_pos (show monthPrime < 10 by omega),
        if_neg (show ¬ monthPrime + 3 ≤ 2 by omega), Nat.add_zero]
    rw [date]
    refine ⟨⟨?_, ?_, ?_, ?_⟩, ?_⟩
    · exact Nat.le_add_left 1 (monthPrime + 2)
    · exact Nat.add_le_add_right spring 3
    · exact Nat.le_add_left 1 _
    · simp only [length]
      omega
    · simp only [Date.number, start]
      omega
  · have start := january_start year
    have winter : monthPrime = 10 ∨ monthPrime = 11 := by omega
    rcases winter with rfl | rfl
    · have date : marchDate year day = ⟨year + 1, 1, day - 306 + 1⟩ := by
        simp only [marchDate, numbered]
        rfl
      have january : monthLength (year + 1) 1 = 31 := rfl
      have first : daysBeforeMonth (year + 1) 1 = 0 := rfl
      rw [date]
      refine ⟨⟨Nat.le_refl 1, Nat.le_add_left 1 11, Nat.le_add_left 1 _, ?_⟩, ?_⟩
      · simp only [january]
        omega
      · simp only [Date.number, first, start]
        omega
    · have date : marchDate year day = ⟨year + 1, 2, day - 337 + 1⟩ := by
        simp only [marchDate, numbered]
        rfl
      have february : day - 337 + 1 ≤ monthLength (year + 1) 2 := by
        simp only [monthLength]
        by_cases last : day = 365
        · rw [if_pos (leap last)]
          omega
        · split <;> omega
      have first : daysBeforeMonth (year + 1) 2 = 31 := rfl
      rw [date]
      refine ⟨⟨Nat.le_succ 1, Nat.le_add_left 2 10, Nat.le_add_left 1 _, february⟩, ?_⟩
      simp only [Date.number, first, start]
      omega

def dateOf (days : Nat) : Date := ⟨(civilDate days).1, (civilDate days).2.1, (civilDate days).2.2⟩

theorem dateOf_eq_marchDate (days : Nat) : ∃ year day, day ≤ 365 ∧ (day = 365 → leapYear (year + 1)) ∧
    days + 719468 + 60 = daysBeforeYear year + daysBeforeMonth year 3 + day ∧
    dateOf days = marchDate year day := by
  have within : (days + 719468) % 146097 < 146097 := Nat.mod_lt _ (by decide)
  obtain ⟨century, cycle, yearOfCycle, day, centuryBound, cycleBound, yearBound, dayBound, leap, split⟩ :=
    era_split ((days + 719468) % 146097) within
  have yearOfEra := yearOfEra_eq centuryBound cycleBound yearBound dayBound leap _ split
  have eras := Nat.div_add_mod (days + 719468) 146097
  have dayOfEra : days + 719468 - (days + 719468) / 146097 * 146097 = (days + 719468) % 146097 := by omega
  have same : dateOf days =
      marchDate (100 * century + 4 * cycle + yearOfCycle + (days + 719468) / 146097 * 400) day := by
    have dayOfYear : (days + 719468) % 146097 - (365 * (100 * century + 4 * cycle + yearOfCycle) +
        (100 * century + 4 * cycle + yearOfCycle) / 4 - (100 * century + 4 * cycle + yearOfCycle) / 100) =
        day := by
      have quotients := year_quotients centuryBound cycleBound yearBound 0
      rw [Nat.zero_mul, Nat.add_zero] at quotients
      rw [quotients.1, quotients.2.1, split]
      omega
    simp only [dateOf, civilDate, dayOfEra, yearOfEra, dayOfYear]
    rfl
  clear yearOfEra dayOfEra
  generalize (days + 719468) / 146097 = era at eras same
  refine ⟨_, day, dayBound, ?_, ?_, same⟩
  · intro long
    obtain ⟨rfl, century⟩ := leap long
    unfold leapYear
    omega
  · have start := march_start (100 * century + 4 * cycle + yearOfCycle + era * 400)
    obtain ⟨fourth, hundredth, whole⟩ := year_quotients centuryBound cycleBound yearBound era
    rw [fourth, hundredth, whole] at start
    omega

theorem dateOf_spec (days : Nat) : (dateOf days).Valid ∧ (dateOf days).number = unixEpoch + days := by
  obtain ⟨year, day, bounded, leap, counted, same⟩ := dateOf_eq_marchDate days
  obtain ⟨valid, number⟩ := marchDate_spec year day bounded leap
  have epoch : unixEpoch = 719528 := by
    have start := daysBeforeYear_eq 1970
    unfold unixEpoch
    omega
  rw [same]
  refine ⟨valid, ?_⟩
  omega

end Dates

section Moments

def momentOf (value : Nat) : Moment where
  date := dateOf (value / 1000 / 86400)
  hour := value / 1000 % 86400 / 3600
  minute := value / 1000 % 86400 % 3600 / 60
  second := value / 1000 % 86400 % 60
  millisecond := value % 1000

theorem momentOf_valid (value : Nat) : (momentOf value).Valid where
  date := (dateOf_spec (value / 1000 / 86400)).1
  hour := by
    simp only [momentOf]
    omega
  minute := by
    simp only [momentOf]
    omega
  second := by
    simp only [momentOf]
    omega
  millisecond := by
    simp only [momentOf]
    omega

theorem momentOf_unixMs (value : Nat) : (momentOf value).unixMs = value := by
  have number := (dateOf_spec (value / 1000 / 86400)).2
  simp only [Moment.unixMs, momentOf, number]
  omega

/-- The first moment whose year takes five digits. -/
def yearTenThousand : Moment := ⟨⟨10000, 1, 1⟩, 0, 0, 0, 0⟩

theorem yearTenThousand_number : yearTenThousand.date.number = daysBeforeYear 10000 := by
  simp only [Date.number, yearTenThousand, daysBeforeMonth, monthLength, Nat.add_zero, Nat.sub_self]

theorem year_bounded (value : Nat) (early : (value : Int) < yearTenThousand.unixMs) :
    (momentOf value).date.year ≤ 9999 := by
  by_cases bounded : (momentOf value).date.year ≤ 9999
  · exact bounded
  · have start := daysBeforeYear_mono (show 10000 ≤ (momentOf value).date.year by omega)
    have least : daysBeforeYear (momentOf value).date.year ≤ (momentOf value).date.number := by
      rw [Date.number, Nat.add_assoc]
      exact Nat.le_add_right _ _
    rw [← momentOf_unixMs value] at early
    unfold Moment.unixMs at early
    rw [yearTenThousand_number] at early
    simp only [yearTenThousand] at early
    omega

def fields (moment : Moment) : List Nat :=
  [moment.date.year, moment.date.month, moment.date.day, moment.hour, moment.minute, moment.second,
    moment.millisecond]

theorem fields_lt {first later : Moment} (valid : first.Valid) (validLater : later.Valid)
    (order : first.unixMs < later.unixMs) : fields first < fields later := by
  have hour := valid.hour
  have minute := valid.minute
  have second := valid.second
  have millisecond := valid.millisecond
  have hourLater := validLater.hour
  have minuteLater := validLater.minute
  have secondLater := validLater.second
  have millisecondLater := validLater.millisecond
  simp only [fields, List.cons_lt_cons_iff, List.not_lt_nil, and_false, or_false]
  by_cases dates : first.date.number < later.date.number
  · rcases date_lt_of_number valid.date validLater.date dates with year | ⟨year, month | ⟨month, day⟩⟩
    · exact .inl year
    · exact .inr ⟨year, .inl month⟩
    · exact .inr ⟨year, .inr ⟨month, .inl day⟩⟩
  · have same : first.date.number = later.date.number := by
      unfold Moment.unixMs at order
      omega
    have date := date_eq_of_number valid.date validLater.date same
    unfold Moment.unixMs at order
    rw [same] at order
    refine .inr ⟨congrArg _ date, .inr ⟨congrArg _ date, .inr ⟨congrArg _ date, ?_⟩⟩⟩
    omega

def layout : FixedText.Layout :=
  [(4, ['-']), (2, ['-']), (2, ['T']), (2, [':']), (2, [':']), (2, ['.']), (3, ['0', '0', '0', '0', 'Z'])]

theorem monthLength_le (year month : Nat) : monthLength year month ≤ 31 := by
  unfold monthLength
  split
  · split <;> decide
  all_goals decide

theorem fields_fit {moment : Moment} (valid : moment.Valid) (year : moment.date.year ≤ 9999) :
    FixedText.Fits layout (fields moment) := by
  have month := valid.date.month_le
  have day := Nat.le_trans valid.date.day_le (monthLength_le _ _)
  have hour := valid.hour
  have minute := valid.minute
  have second := valid.second
  have millisecond := valid.millisecond
  refine .cons ?_ (.cons ?_ (.cons ?_ (.cons ?_ (.cons ?_ (.cons ?_ (.cons ?_ .nil))))))
  all_goals
    dsimp only [Nat.reducePow]
    omega

def textOf (moment : Moment) : String := String.ofList (FixedText.render layout (fields moment))

/-- The instant that a deadline text names. -/
def decode (text : String) : Option Int :=
  match FixedText.read layout text.toList with
  | some [year, month, day, hour, minute, second, millisecond] =>
    some (Moment.unixMs ⟨⟨year, month, day⟩, hour, minute, second, millisecond⟩)
  | _ => none

theorem decode_textOf {moment : Moment} (valid : moment.Valid) (year : moment.date.year ≤ 9999) :
    decode (textOf moment) = some moment.unixMs := by
  rw [decode, textOf, String.toList_ofList, FixedText.read_render layout _ (fields_fit valid year)]
  rfl

theorem textOf_lt {first later : Moment} (valid : first.Valid) (validLater : later.Valid)
    (year : first.date.year ≤ 9999) (yearLater : later.date.year ≤ 9999)
    (order : first.unixMs < later.unixMs) : textOf first < textOf later := by
  have written := FixedText.render_lt layout (fields_fit valid year) (fields_fit validLater yearLater)
    (fields_lt valid validLater order)
  show (textOf first).toList < (textOf later).toList
  rw [textOf, textOf, String.toList_ofList, String.toList_ofList]
  exact written

theorem zeroPadded_digits (width value : Nat) (bounded : value < 10 ^ (width + 1)) :
    (zeroPadded (width + 1) value).toList = FixedText.digits (width + 1) value := by
  rw [← FixedText.padded_eq_digits width value bounded]
  simp only [zeroPadded, Nat.toString_eq_ofList_toDigits, String.toList_append, String.toList_ofList,
    String.length_ofList]

theorem unixMsToRfc3339_eq (value : Nat) (year : (momentOf value).date.year ≤ 9999) :
    unixMsToRfc3339 value = .ok (textOf (momentOf value)) := by
  have nonnegative : ¬ (value : Int) < 0 := Int.not_lt.mpr (Int.natCast_nonneg value)
  have valid := momentOf_valid value
  have month := valid.date.month_le
  have day := Nat.le_trans valid.date.day_le (monthLength_le _ _)
  have hour := valid.hour
  have minute := valid.minute
  have second := valid.second
  have millisecond := valid.millisecond
  have yearText := zeroPadded_digits 3 _ (Nat.lt_of_le_of_lt year (by decide))
  have monthText := zeroPadded_digits 1 _ (Nat.lt_of_le_of_lt month (by decide))
  have dayText := zeroPadded_digits 1 _ (Nat.lt_of_le_of_lt day (by decide))
  have hourText := zeroPadded_digits 1 _ (Nat.lt_trans hour (by decide))
  have minuteText := zeroPadded_digits 1 _ (Nat.lt_trans minute (by decide))
  have secondText := zeroPadded_digits 1 _ (Nat.lt_trans second (by decide))
  have millisecondText := zeroPadded_digits 2 _ millisecond
  have written : unixMsToRfc3339 value = .ok
      (zeroPadded 4 (momentOf value).date.year ++ "-" ++ zeroPadded 2 (momentOf value).date.month ++ "-" ++
        zeroPadded 2 (momentOf value).date.day ++ "T" ++ zeroPadded 2 (momentOf value).hour ++ ":" ++
        zeroPadded 2 (momentOf value).minute ++ ":" ++ zeroPadded 2 (momentOf value).second ++ "." ++
        zeroPadded 3 (momentOf value).millisecond ++ "0000Z") := by
    unfold unixMsToRfc3339
    rw [rejectIf, errorIf, if_neg nonnegative]
    rfl
  rw [written]
  apply congrArg
  apply String.toList_injective
  simp only [String.toList_append, yearText, monthText, dayText, hourText, minuteText, secondText,
    millisecondText, List.append_assoc, textOf, String.toList_ofList, layout, fields, FixedText.render]
  rfl

end Moments

section Arithmetic

def i64 (value : Int) : Option Int := Checked.fit i64Min i64Max value

def civilDateChecked (days : Int) : Option (Int × Int × Int) := do
  let z ← i64 (days + 719468)
  let era ← i64 (z.tdiv 146097)
  let eraDays ← i64 (era * 146097)
  let dayOfEra ← i64 (z - eraDays)
  let fourYears ← i64 (dayOfEra.tdiv 1460)
  let withoutFourYears ← i64 (dayOfEra - fourYears)
  let centuries ← i64 (dayOfEra.tdiv 36524)
  let withCenturies ← i64 (withoutFourYears + centuries)
  let eras ← i64 (dayOfEra.tdiv 146096)
  let corrected ← i64 (withCenturies - eras)
  let yearOfEra ← i64 (corrected.tdiv 365)
  let eraYears ← i64 (era * 400)
  let marchYear ← i64 (yearOfEra + eraYears)
  let commonDays ← i64 (365 * yearOfEra)
  let leapDays ← i64 (yearOfEra.tdiv 4)
  let yearDays ← i64 (commonDays + leapDays)
  let centuryYears ← i64 (yearOfEra.tdiv 100)
  let earlierDays ← i64 (yearDays - centuryYears)
  let dayOfYear ← i64 (dayOfEra - earlierDays)
  let fiveDays ← i64 (5 * dayOfYear)
  let shifted ← i64 (fiveDays + 2)
  let monthPrime ← i64 (shifted.tdiv 153)
  let monthDays ← i64 (153 * monthPrime)
  let roundedDays ← i64 (monthDays + 2)
  let earlierMonths ← i64 (roundedDays.tdiv 5)
  let dayIndex ← i64 (dayOfYear - earlierMonths)
  let day ← i64 (dayIndex + 1)
  let month ← i64 (monthPrime + if monthPrime < 10 then 3 else -9)
  let year ← i64 (marchYear + if month ≤ 2 then 1 else 0)
  return (year, month, day)

def unixMsToRfc3339Checked (value : Int) : Option (HubResult String) :=
  if value < 0 then
    some (refuse "windows_hotspot_deadline_invalid" "provider deadline precedes the Unix epoch")
  else do
    let seconds ← i64 (value.tdiv 1000)
    let milliseconds ← i64 (value.tmod 1000)
    let days ← i64 (seconds.tdiv 86400)
    let secondsInDay ← i64 (seconds.tmod 86400)
    let (year, month, day) ← civilDateChecked days
    let hour ← i64 (secondsInDay.tdiv 3600)
    let secondsInHour ← i64 (secondsInDay.tmod 3600)
    let minute ← i64 (secondsInHour.tdiv 60)
    let second ← i64 (secondsInDay.tmod 60)
    return .ok (zeroPadded 4 year.toNat ++ "-" ++ zeroPadded 2 month.toNat ++ "-" ++
      zeroPadded 2 day.toNat ++ "T" ++ zeroPadded 2 hour.toNat ++ ":" ++ zeroPadded 2 minute.toNat ++ ":" ++
      zeroPadded 2 second.toNat ++ "." ++ zeroPadded 3 milliseconds.toNat ++ "0000Z")

theorem i64_step {value : Int} {result : Type} {rest : Int → Option result} {final : Option result}
    (number : Nat) (same : value = number) (bounded : number < 2 ^ 63) (goes : rest number = final) :
    (i64 value >>= rest) = final := by
  have fits : i64 value = some (number : Int) := by
    apply Checked.fit_eq ⟨?_, ?_⟩ same
    · unfold i64Min
      omega
    · unfold i64Max
      omega
  rw [fits]
  exact goes

theorem yearOfEra_bounds (dayOfEra : Nat) (within : dayOfEra < 146097) :
    let yearOfEra := (dayOfEra - dayOfEra / 1460 + dayOfEra / 36524 - dayOfEra / 146096) / 365
    yearOfEra < 400 ∧ yearOfEra / 100 ≤ 365 * yearOfEra + yearOfEra / 4 ∧
      365 * yearOfEra + yearOfEra / 4 - yearOfEra / 100 ≤ dayOfEra ∧
      dayOfEra - (365 * yearOfEra + yearOfEra / 4 - yearOfEra / 100) ≤ 365 := by
  intro yearOfEra
  obtain ⟨century, cycle, year, day, centuryBound, cycleBound, yearBound, dayBound, leap, split⟩ :=
    era_split dayOfEra within
  have found : yearOfEra = 100 * century + 4 * cycle + year :=
    yearOfEra_eq centuryBound cycleBound yearBound dayBound leap _ split
  have quotients := year_quotients centuryBound cycleBound yearBound 0
  rw [Nat.zero_mul, Nat.add_zero] at quotients
  rw [found, quotients.1, quotients.2.1, split]
  omega

theorem tdiv_cast (number divisor : Nat) :
    (number : Int).tdiv (divisor : Int) = ((number / divisor : Nat) : Int) := rfl

theorem tmod_cast (number divisor : Nat) :
    (number : Int).tmod (divisor : Int) = ((number % divisor : Nat) : Int) := rfl

theorem month_cast (monthPrime : Nat) :
    ((monthPrime : Int) + if (monthPrime : Int) < 10 then 3 else -9) =
      ((if monthPrime < 10 then monthPrime + 3 else monthPrime - 9 : Nat) : Int) := by
  split <;> split <;> omega

theorem year_cast (marchYear month : Nat) :
    ((marchYear : Int) + if (month : Int) ≤ 2 then 1 else 0) =
      ((marchYear + if month ≤ 2 then 1 else 0 : Nat) : Int) := by
  split <;> split <;> omega

theorem civilDateChecked_eq (days : Nat) (bounded : days < 2 ^ 60) :
    civilDateChecked days =
      some (((civilDate days).1 : Int), ((civilDate days).2.1 : Int), ((civilDate days).2.2 : Int)) := by
  unfold civilDateChecked civilDate
  dsimp only
  refine i64_step (days + 719468) (by rfl) (by omega) ?_
  generalize counted : days + 719468 = z
  refine i64_step (z / 146097) (by rfl) (by omega) ?_
  refine i64_step (z / 146097 * 146097) (by rfl) (by omega) ?_
  refine i64_step (z - z / 146097 * 146097) (by omega) (by omega) ?_
  have within : z - z / 146097 * 146097 < 146097 := by omega
  have eraBound : z / 146097 < 2 ^ 50 := by omega
  generalize z - z / 146097 * 146097 = dayOfEra at within
  generalize z / 146097 = era at eraBound
  have bounds := yearOfEra_bounds dayOfEra within
  refine i64_step (dayOfEra / 1460) (by rfl) (by omega) ?_
  refine i64_step (dayOfEra - dayOfEra / 1460) (by omega) (by omega) ?_
  refine i64_step (dayOfEra / 36524) (by rfl) (by omega) ?_
  refine i64_step (dayOfEra - dayOfEra / 1460 + dayOfEra / 36524) (by rfl) (by omega) ?_
  refine i64_step (dayOfEra / 146096) (by rfl) (by omega) ?_
  refine i64_step (dayOfEra - dayOfEra / 1460 + dayOfEra / 36524 - dayOfEra / 146096) (by omega) (by omega) ?_
  refine i64_step ((dayOfEra - dayOfEra / 1460 + dayOfEra / 36524 - dayOfEra / 146096) / 365) (by rfl) (by omega) ?_
  dsimp only at bounds
  generalize (dayOfEra - dayOfEra / 1460 + dayOfEra / 36524 - dayOfEra / 146096) / 365 = yearOfEra at bounds
  obtain ⟨yearBound, centuryYears, earlier, dayBound⟩ := bounds
  refine i64_step (era * 400) (by rfl) (by omega) ?_
  refine i64_step (yearOfEra + era * 400) (by rfl) (by omega) ?_
  refine i64_step (365 * yearOfEra) (by rfl) (by omega) ?_
  refine i64_step (yearOfEra / 4) (by rfl) (by omega) ?_
  refine i64_step (365 * yearOfEra + yearOfEra / 4) (by rfl) (by omega) ?_
  refine i64_step (yearOfEra / 100) (by rfl) (by omega) ?_
  refine i64_step (365 * yearOfEra + yearOfEra / 4 - yearOfEra / 100) (by omega) (by omega) ?_
  refine i64_step (dayOfEra - (365 * yearOfEra + yearOfEra / 4 - yearOfEra / 100)) (by omega) (by omega) ?_
  generalize dayOfEra - (365 * yearOfEra + yearOfEra / 4 - yearOfEra / 100) = dayOfYear at dayBound
  refine i64_step (5 * dayOfYear) (by rfl) (by omega) ?_
  refine i64_step (5 * dayOfYear + 2) (by rfl) (by omega) ?_
  refine i64_step ((5 * dayOfYear + 2) / 153) (by rfl) (by omega) ?_
  have reached := (@day_formula dayOfYear _ rfl).1
  have months : (5 * dayOfYear + 2) / 153 ≤ 11 := by omega
  generalize (5 * dayOfYear + 2) / 153 = monthPrime at reached months
  refine i64_step (153 * monthPrime) (by rfl) (by omega) ?_
  refine i64_step (153 * monthPrime + 2) (by rfl) (by omega) ?_
  refine i64_step ((153 * monthPrime + 2) / 5) (by rfl) (by omega) ?_
  refine i64_step (dayOfYear - (153 * monthPrime + 2) / 5) (by omega) (by omega) ?_
  refine i64_step (dayOfYear - (153 * monthPrime + 2) / 5 + 1) (by rfl) (by omega) ?_
  refine i64_step (if monthPrime < 10 then monthPrime + 3 else monthPrime - 9) (month_cast monthPrime)
    (by split <;> omega) ?_
  generalize (if monthPrime < 10 then monthPrime + 3 else monthPrime - 9) = month
  refine i64_step (yearOfEra + era * 400 + if month ≤ 2 then 1 else 0) (year_cast _ month)
    (by split <;> omega) ?_
  rfl

theorem unixMsToRfc3339Checked_eq (value : Nat) (bounded : (value : Int) ≤ i64Max) :
    unixMsToRfc3339Checked value = some (unixMsToRfc3339 value) := by
  have nonnegative : ¬ (value : Int) < 0 := Int.not_lt.mpr (Int.natCast_nonneg value)
  unfold i64Max at bounded
  unfold unixMsToRfc3339Checked unixMsToRfc3339
  rw [if_neg nonnegative, rejectIf, errorIf, if_neg nonnegative, Int.toNat_natCast]
  dsimp only
  refine i64_step (value / 1000) (tdiv_cast value 1000) (by omega) ?_
  refine i64_step (value % 1000) (tmod_cast value 1000) (by omega) ?_
  generalize value % 1000 = milliseconds
  have few : value / 1000 < 2 ^ 60 := by omega
  generalize value / 1000 = seconds at few
  refine i64_step (seconds / 86400) (tdiv_cast seconds 86400) (by omega) ?_
  refine i64_step (seconds % 86400) (tmod_cast seconds 86400) (by omega) ?_
  rw [civilDateChecked_eq _ (by omega)]
  have short : seconds % 86400 < 86400 := Nat.mod_lt _ (by decide)
  generalize civilDate (seconds / 86400) = date
  generalize seconds % 86400 = secondsInDay at short
  refine i64_step (secondsInDay / 3600) (tdiv_cast secondsInDay 3600) (by omega) ?_
  refine i64_step (secondsInDay % 3600) (tmod_cast secondsInDay 3600) (by omega) ?_
  refine i64_step (secondsInDay % 3600 / 60) (tdiv_cast (secondsInDay % 3600) 60) (by omega) ?_
  refine i64_step (secondsInDay % 60) (tmod_cast secondsInDay 60) (by omega) ?_
  obtain ⟨year, month, day⟩ := date
  dsimp only [Int.toNat_natCast]
  rfl

end Arithmetic

/-- The deadline text is the calendar: it shows the one valid moment of its value, reads back as that value,
sorts as the values do, and no intermediate result overflows. -/
theorem deadline_text_is_calendar :
    (∀ value : Int, 0 ≤ value → value < yearTenThousand.unixMs →
      ∃ moment : Moment, moment.Valid ∧ moment.unixMs = value ∧
        (∀ other : Moment, other.Valid → other.unixMs = value → other = moment) ∧
        unixMsToRfc3339 value = .ok (textOf moment) ∧ decode (textOf moment) = some value) ∧
    (∀ first later : Int, 0 ≤ first → first < yearTenThousand.unixMs → 0 ≤ later →
      later < yearTenThousand.unixMs → ∀ firstText laterText, unixMsToRfc3339 first = .ok firstText →
        unixMsToRfc3339 later = .ok laterText → (firstText < laterText ↔ first < later)) ∧
    ∀ value : Int, 0 ≤ value → value ≤ i64Max →
      unixMsToRfc3339Checked value = some (unixMsToRfc3339 value) := by
  refine ⟨?_, ?_, ?_⟩
  · intro value nonnegative early
    obtain ⟨value, rfl⟩ := Int.eq_ofNat_of_zero_le nonnegative
    have valid := momentOf_valid value
    have shows := momentOf_unixMs value
    have year := year_bounded value early
    have decoded := decode_textOf valid year
    rw [shows] at decoded
    refine ⟨momentOf value, valid, shows, ?_, unixMsToRfc3339_eq value year, decoded⟩
    intro other validOther same
    exact moment_eq_of_unixMs validOther valid (same.trans shows.symm)
  · intro first later nonnegative early nonnegativeLater earlyLater firstText laterText written writtenLater
    obtain ⟨first, rfl⟩ := Int.eq_ofNat_of_zero_le nonnegative
    obtain ⟨later, rfl⟩ := Int.eq_ofNat_of_zero_le nonnegativeLater
    have year := year_bounded first early
    have yearLater := year_bounded later earlyLater
    have ordered {a b : Nat} (yearA : (momentOf a).date.year ≤ 9999) (yearB : (momentOf b).date.year ≤ 9999)
        (order : (a : Int) < b) : textOf (momentOf a) < textOf (momentOf b) := by
      apply textOf_lt (momentOf_valid a) (momentOf_valid b) yearA yearB
      rw [momentOf_unixMs, momentOf_unixMs]
      exact order
    cases (unixMsToRfc3339_eq first year).symm.trans written
    cases (unixMsToRfc3339_eq later yearLater).symm.trans writtenLater
    constructor
    · intro before
      rcases Int.lt_trichotomy first later with less | same | more
      · exact less
      · rw [Int.ofNat.inj same] at before
        exact absurd before (String.lt_irrefl _)
      · exact absurd before (String.lt_asymm (ordered yearLater year more))
    · exact ordered year yearLater
  · intro value nonnegative bounded
    obtain ⟨value, rfl⟩ := Int.eq_ofNat_of_zero_le nonnegative
    exact unixMsToRfc3339Checked_eq value bounded

theorem leap_day_text : ∃ moment : Moment, moment.Valid ∧ moment.unixMs = 951868799999 ∧
    unixMsToRfc3339 951868799999 = .ok (textOf moment) ∧ textOf moment = "2000-02-29T23:59:59.9990000Z" := by
  have early : (951868799999 : Int) < yearTenThousand.unixMs := by
    have start := daysBeforeYear_eq 10000
    have epoch := daysBeforeYear_eq 1970
    unfold Moment.unixMs unixEpoch
    rw [yearTenThousand_number]
    simp only [yearTenThousand]
    omega
  obtain ⟨moment, valid, shows, unique, written, decoded⟩ :=
    deadline_text_is_calendar.1 951868799999 (by decide) early
  have text : unixMsToRfc3339 951868799999 = .ok "2000-02-29T23:59:59.9990000Z" := by decide
  have same := Except.ok.inj (text.symm.trans written)
  exact ⟨moment, valid, shows, written, same.symm⟩

end Deadlines

end RustyFleet

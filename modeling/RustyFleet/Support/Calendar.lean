import Mathlib.Order.Monotone.Basic
import Mathlib.Tactic.Common

/-! The proleptic Gregorian calendar, its days counted from the first day of the year zero. -/

namespace Calendar

def leapYear (year : Nat) : Prop := year % 4 = 0 ∧ (year % 100 ≠ 0 ∨ year % 400 = 0)

instance (year : Nat) : Decidable (leapYear year) := inferInstanceAs (Decidable (_ ∧ _))

def yearLength (year : Nat) : Nat := if leapYear year then 366 else 365

def monthLength (year : Nat) : Nat → Nat
  | 2 => if leapYear year then 29 else 28
  | 1 | 3 | 5 | 7 | 8 | 10 | 12 => 31
  | 4 | 6 | 9 | 11 => 30
  | _ => 0

def daysBeforeYear : Nat → Nat
  | 0 => 0
  | year + 1 => daysBeforeYear year + yearLength year

def daysBeforeMonth (year : Nat) : Nat → Nat
  | 0 => 0
  | month + 1 => daysBeforeMonth year month + monthLength year month

structure Date where
  year : Nat
  month : Nat
  day : Nat
deriving DecidableEq, Repr

structure Date.Valid (date : Date) : Prop where
  month_pos : 1 ≤ date.month
  month_le : date.month ≤ 12
  day_pos : 1 ≤ date.day
  day_le : date.day ≤ monthLength date.year date.month

def Date.number (date : Date) : Nat :=
  daysBeforeYear date.year + daysBeforeMonth date.year date.month + (date.day - 1)

theorem daysBeforeYear_eq (year : Nat) :
    daysBeforeYear year + (year + 99) / 100 = 365 * year + (year + 3) / 4 + (year + 399) / 400 := by
  induction year with
  | zero => rfl
  | succ year ih =>
    rw [daysBeforeYear, yearLength]
    by_cases leap : leapYear year
    · rw [if_pos leap]
      unfold leapYear at leap
      omega
    · rw [if_neg leap]
      unfold leapYear at leap
      omega

theorem daysBeforeMonth_mono (year : Nat) {first later : Nat} (order : first ≤ later) :
    daysBeforeMonth year first ≤ daysBeforeMonth year later :=
  monotone_nat_of_le_succ (fun _ => Nat.le_add_right _ _) order

theorem daysBeforeYear_mono {first later : Nat} (order : first ≤ later) :
    daysBeforeYear first ≤ daysBeforeYear later :=
  monotone_nat_of_le_succ (fun _ => Nat.le_add_right _ _) order

theorem daysBeforeMonth_year (year : Nat) : daysBeforeMonth year 13 = yearLength year := by
  simp only [daysBeforeMonth, monthLength, yearLength]
  split <;> rfl

section Order

variable {first later : Date}

theorem Date.Valid.in_month (valid : later.Valid) :
    later.number < daysBeforeYear later.year + daysBeforeMonth later.year (later.month + 1) := by
  have positive := valid.day_pos
  have within := valid.day_le
  rw [number, daysBeforeMonth]
  omega

theorem Date.Valid.in_year (valid : later.Valid) : later.number < daysBeforeYear (later.year + 1) := by
  have day := valid.in_month
  have month := daysBeforeMonth_mono later.year (Nat.add_le_add_right valid.month_le 1)
  rw [daysBeforeMonth_year] at month
  rw [daysBeforeYear]
  omega

theorem number_lt_of_year (valid : first.Valid) (order : first.year < later.year) :
    first.number < later.number := by
  have within := valid.in_year
  have years := daysBeforeYear_mono (Nat.lt_iff_add_one_le.mp order)
  have least : daysBeforeYear later.year ≤ later.number := by
    rw [Date.number, Nat.add_assoc]
    exact Nat.le_add_right _ _
  omega

theorem number_lt_of_month (valid : first.Valid) (sameYear : first.year = later.year)
    (order : first.month < later.month) : first.number < later.number := by
  have within := valid.in_month
  have months := daysBeforeMonth_mono first.year (Nat.lt_iff_add_one_le.mp order)
  have least : daysBeforeYear later.year + daysBeforeMonth later.year later.month ≤ later.number :=
    Nat.le_add_right _ _
  rw [← sameYear] at least
  omega

theorem date_lt_of_number (valid : first.Valid) (validLater : later.Valid)
    (order : first.number < later.number) :
    first.year < later.year ∨ first.year = later.year ∧ (first.month < later.month ∨
      first.month = later.month ∧ first.day < later.day) := by
  rcases Nat.lt_trichotomy first.year later.year with before | same | after
  · exact .inl before
  · refine .inr ⟨same, ?_⟩
    rcases Nat.lt_trichotomy first.month later.month with before | sameMonth | after
    · exact .inl before
    · refine .inr ⟨sameMonth, ?_⟩
      have positive := valid.day_pos
      rw [Date.number, Date.number, same, sameMonth] at order
      omega
    · exact absurd order (Nat.lt_asymm (number_lt_of_month validLater same.symm after))
  · exact absurd order (Nat.lt_asymm (number_lt_of_year validLater after))

theorem date_eq_of_number (valid : first.Valid) (validLater : later.Valid)
    (same : first.number = later.number) : first = later := by
  rcases Nat.lt_trichotomy first.year later.year with before | sameYear | after
  · exact absurd same (Nat.ne_of_lt (number_lt_of_year valid before))
  · rcases Nat.lt_trichotomy first.month later.month with before | sameMonth | after
    · exact absurd same (Nat.ne_of_lt (number_lt_of_month valid sameYear before))
    · have positive := valid.day_pos
      have positiveLater := validLater.day_pos
      have sameDay : first.day = later.day := by
        rw [Date.number, Date.number, sameYear, sameMonth] at same
        omega
      cases first
      cases later
      simp_all
    · exact absurd same.symm (Nat.ne_of_lt (number_lt_of_month validLater sameYear.symm after))
  · exact absurd same.symm (Nat.ne_of_lt (number_lt_of_year validLater after))

end Order

/-- The days from the first of the year zero to the first of January 1970. -/
def unixEpoch : Nat := daysBeforeYear 1970

structure Moment where
  date : Date
  hour : Nat
  minute : Nat
  second : Nat
  millisecond : Nat
deriving DecidableEq, Repr

structure Moment.Valid (moment : Moment) : Prop where
  date : moment.date.Valid
  hour : moment.hour < 24
  minute : moment.minute < 60
  second : moment.second < 60
  millisecond : moment.millisecond < 1000

/-- Milliseconds since the Unix epoch, without leap seconds. -/
def Moment.unixMs (moment : Moment) : Int :=
  ((((moment.date.number : Int) - unixEpoch) * 24 + moment.hour) * 60 + moment.minute) * 60000 +
    moment.second * 1000 + moment.millisecond

theorem moment_eq_of_unixMs {first later : Moment} (valid : first.Valid) (validLater : later.Valid)
    (same : first.unixMs = later.unixMs) : first = later := by
  have hour := valid.hour
  have minute := valid.minute
  have second := valid.second
  have millisecond := valid.millisecond
  have hourLater := validLater.hour
  have minuteLater := validLater.minute
  have secondLater := validLater.second
  have millisecondLater := validLater.millisecond
  unfold Moment.unixMs at same
  have sameDate := date_eq_of_number valid.date validLater.date (by omega)
  obtain ⟨date, _, _, _, _⟩ := first
  obtain ⟨dateLater, _, _, _, _⟩ := later
  simp only at *
  subst sameDate
  simp only [Moment.mk.injEq, true_and]
  omega

end Calendar

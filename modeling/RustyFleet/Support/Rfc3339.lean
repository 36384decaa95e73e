import Mathlib.Algebra.Order.Field.Rat
import Mathlib.Algebra.Ring.Nat
import Mathlib.Data.Rat.Cast.Order
import Mathlib.Tactic.FieldSimp
import Mathlib.Tactic.Ring
import RustyFleet.Support.Calendar
import RustyFleet.Support.DigitBytes

/-! Texts at positions of a byte string, and the date-times of the RFC 3339 grammar. -/

section Positions

variable {α : Type}

/-- The part stands in the text from the position on. -/
def StandsAt (text : List α) (position : Nat) (part : List α) : Prop := part <+: text.drop position

namespace StandsAt

variable {text front back part : List α} {position : Nat}

theorem iff_take : StandsAt text position part ↔ (text.drop position).take part.length = part := by
  rw [StandsAt, List.prefix_iff_eq_take]
  exact eq_comm

theorem single {item : α} : StandsAt text position [item] ↔ text[position]? = some item := by
  rw [iff_take, List.length_singleton, List.take_one, List.head?_drop]
  cases text[position]? with
  | none => simp
  | some other => simp

theorem drop_eq_append : text.drop position = front ++ back ↔
    StandsAt text position front ∧ text.drop (position + front.length) = back := by
  rw [← List.drop_drop]
  constructor
  · intro same
    rw [same]
    exact ⟨⟨back, same.symm⟩, List.drop_left⟩
  · rintro ⟨⟨rest, same⟩, behind⟩
    rw [← same, List.drop_left] at behind
    rw [← same, behind]

theorem append : StandsAt text position (front ++ back) ↔
    StandsAt text position front ∧ StandsAt text (position + front.length) back := by
  constructor
  · rintro ⟨rest, same⟩
    rw [List.append_assoc] at same
    obtain ⟨first, second⟩ := drop_eq_append.mp same.symm
    exact ⟨first, rest, second.symm⟩
  · rintro ⟨first, rest, same⟩
    refine ⟨rest, ?_⟩
    rw [List.append_assoc]
    exact (drop_eq_append.mpr ⟨first, same.symm⟩).symm

theorem within (stands : StandsAt text position part) (nonempty : part ≠ []) :
    position + part.length ≤ text.length := by
  have length := stands.length_le
  have positive := List.length_pos_iff.mpr nonempty
  rw [List.length_drop] at length
  omega

theorem whole (ends : position + part.length = text.length) :
    text.drop position = part ↔ StandsAt text position part := by
  rw [iff_take, List.take_of_length_le]
  rw [List.length_drop]
  omega

theorem run_iff (belongs : α → Bool) (run text : List α) :
    run = text.takeWhile belongs ↔ run <+: text ∧ run.all belongs = true ∧
      ∀ item, text[run.length]? = some item → belongs item = false := by
  induction text generalizing run with
  | nil =>
    rw [List.takeWhile_nil, List.prefix_nil]
    constructor
    · rintro rfl
      exact ⟨rfl, rfl, by simp⟩
    · exact And.left
  | cons first rest ih =>
    by_cases member : belongs first = true
    · rw [List.takeWhile_cons_of_pos member]
      cases run with
      | nil => simp [member]
      | cons head tail =>
        rw [List.cons.injEq, ih tail, List.cons_prefix_cons, List.length_cons, List.getElem?_cons_succ,
          List.all_cons, Bool.and_eq_true]
        constructor
        · rintro ⟨rfl, stands, all, ends⟩
          exact ⟨⟨rfl, stands⟩, ⟨member, all⟩, ends⟩
        · rintro ⟨⟨rfl, stands⟩, ⟨-, all⟩, ends⟩
          exact ⟨rfl, stands, all, ends⟩
    · rw [List.takeWhile_cons_of_neg member]
      cases run with
      | nil => simp [member]
      | cons head tail =>
        constructor
        · intro empty
          cases empty
        · rintro ⟨stands, all, -⟩
          rw [List.cons_prefix_cons] at stands
          rw [List.all_cons, Bool.and_eq_true, stands.1] at all
          exact absurd all.1 member

end StandsAt

end Positions

namespace Rfc3339

open DigitBytes

inductive Offset
  | zulu (small : Bool)
  | numeric (negative : Bool) (hours minutes : Nat)

def Offset.Valid : Offset → Prop
  | zulu _ => True
  | numeric _ hours minutes => hours ≤ 23 ∧ minutes ≤ 59

def Offset.text : Offset → List UInt8
  | zulu small => [if small then 122 else 90]
  | numeric negative hours minutes =>
    [if negative then 45 else 43] ++ (write 2 hours ++ ([58] ++ write 2 minutes))

/-- The minutes by which local time is ahead. -/
def Offset.minutes : Offset → Int
  | zulu _ => 0
  | numeric negative hours minutes =>
    if negative then -((hours * 60 + minutes : Nat) : Int) else ((hours * 60 + minutes : Nat) : Int)

/-- The fraction is kept as its written digits. -/
structure DateTime where
  date : Calendar.Date
  hour : Nat
  minute : Nat
  second : Nat
  smallT : Bool
  fraction : List UInt8
  offset : Offset

namespace DateTime

structure Valid (time : DateTime) : Prop where
  year : time.date.year ≤ 9999
  date : time.date.Valid
  hour : time.hour ≤ 23
  minute : time.minute ≤ 59
  second : time.second ≤ 60
  fraction : time.fraction.all isDigit = true
  offset : time.offset.Valid

def header (time : DateTime) : List UInt8 :=
  write 4 time.date.year ++ ([45] ++ (write 2 time.date.month ++ ([45] ++ (write 2 time.date.day ++
    ([if time.smallT then 116 else 84] ++ (write 2 time.hour ++ ([58] ++ (write 2 time.minute ++ ([58] ++
      write 2 time.second)))))))))

end DateTime

def fractionText (fraction : List UInt8) : List UInt8 := if fraction = [] then [] else 46 :: fraction

namespace DateTime

def text (time : DateTime) : List UInt8 := time.header ++ (fractionText time.fraction ++ time.offset.text)

/-- The seconds before the fraction, from the Unix epoch in universal time. -/
def wholeSeconds (time : DateTime) : Int :=
  ((time.date.number : Int) - Calendar.unixEpoch) * 86400 +
    ((time.hour * 3600 + time.minute * 60 + time.second : Nat) : Int) - time.offset.minutes * 60

/-- The instant in seconds from the Unix epoch; second 60 is the second that follows. -/
def instant (time : DateTime) : Rat :=
  time.wholeSeconds + (read time.fraction : Rat) / 10 ^ time.fraction.length

@[simp] theorem header_length (time : DateTime) : time.header.length = 19 := by
  simp [header]

theorem text_iff (time : DateTime) (bytes : List UInt8) :
    time.text = bytes ↔ StandsAt bytes 0 time.header ∧ StandsAt bytes 19 (fractionText time.fraction) ∧
      bytes.drop (19 + (fractionText time.fraction).length) = time.offset.text := by
  have whole : bytes.drop 0 = time.header ++ (fractionText time.fraction ++ time.offset.text) ↔ _ :=
    StandsAt.drop_eq_append
  rw [List.drop_zero, header_length, Nat.zero_add, StandsAt.drop_eq_append] at whole
  rw [← whole, text]
  exact eq_comm

end DateTime

theorem Offset.minutes_bounds {offset : Offset} (valid : offset.Valid) :
    -1440 < offset.minutes ∧ offset.minutes < 1440 := by
  cases offset with
  | zulu small =>
    show -1440 < (0 : Int) ∧ (0 : Int) < 1440
    decide
  | numeric negative hours minutes =>
    have bounds : hours ≤ 23 ∧ minutes ≤ 59 := valid
    simp only [Offset.minutes]
    split <;> omega

theorem Offset.text_length_pos (offset : Offset) : 0 < offset.text.length := by
  cases offset <;> simp [text]

end Rfc3339

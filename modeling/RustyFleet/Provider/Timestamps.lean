import RustyFleet.Contracts.Violation
import RustyFleet.Support.DigitBytes

namespace RustyFleet

namespace ProviderCatalog

structure CatalogError where
  code : String
  message : String
deriving DecidableEq, Repr

/-- How a catalog function ends without a result: with its error, or stopped by Rust's checks. -/
inductive CatalogFault
  | refused (error : CatalogError)
  | panicked
deriving DecidableEq, Repr

abbrev CatalogResult := Except CatalogFault

def refuse {α : Type} (error : CatalogError) : CatalogResult α := .error (.refused error)

def timestampError : CatalogError where
  code := "descriptor_timestamp_rejected"
  message := "descriptor timestamp is not an exact supported RFC3339 instant"

section Arithmetic

/-- A result of unsigned arithmetic, which must not leave the type. -/
def unsigned (bits value : Nat) : CatalogResult Nat := if value < 2 ^ bits then .ok value else .error .panicked

def usize (value : Nat) : CatalogResult Nat := unsigned 64 value

def u32 (value : Nat) : CatalogResult Nat := unsigned 32 value

/-- Unsigned subtraction. -/
def difference (left right : Nat) : CatalogResult Nat :=
  if right ≤ left then .ok (left - right) else .error .panicked

def signed (bits : Nat) (value : Int) : CatalogResult Int :=
  if -2 ^ (bits - 1) ≤ value ∧ value < 2 ^ (bits - 1) then .ok value else .error .panicked

def i64 (value : Int) : CatalogResult Int := signed 64 value

def i128 (value : Int) : CatalogResult Int := signed 128 value

end Arithmetic

section Digits

/-- `bytes.get(start..stop)`. -/
def getRange (bytes : List UInt8) (start stop : Nat) : Option (List UInt8) :=
  if start ≤ stop ∧ stop ≤ bytes.length then some ((bytes.drop start).take (stop - start)) else none

/-- `bytes[start..stop]`. -/
def indexRange (bytes : List UInt8) (start stop : Nat) : CatalogResult (List UInt8) :=
  match getRange bytes start stop with
  | some slice => .ok slice
  | none => .error .panicked

def pushDigit (value : Nat) (byte : UInt8) : CatalogResult Nat := do
  let tens ← u32 (value * 10)
  let digit ← difference byte.toNat 48
  u32 (tens + digit)

def parseDigits (bytes : List UInt8) (start count : Nat) : CatalogResult Nat := do
  let stop ← usize (start + count)
  match getRange bytes start stop with
  | none => refuse timestampError
  | some slice => if ¬ slice.all DigitBytes.isDigit then refuse timestampError else slice.foldlM pushDigit 0

/-- The loop that moves the cursor over the digits ahead of it. -/
def skipDigits : List UInt8 → Nat → CatalogResult Nat
  | [], cursor => .ok cursor
  | byte :: ahead, cursor =>
    if DigitBytes.isDigit byte then do
      let next ← usize (cursor + 1)
      skipDigits ahead next
    else .ok cursor

end Digits

section Calendar

def isMultipleOf (value divisor : Nat) : Bool := value % divisor == 0

def daysInMonth (year month : Nat) : Nat :=
  if month ∈ [1, 3, 5, 7, 8, 10, 12] then 31
  else if month ∈ [4, 6, 9, 11] then 30
  else if month = 2 then
    if isMultipleOf year 400 || isMultipleOf year 4 && !isMultipleOf year 100 then 29 else 28
  else 0

/-- The dividend of the era, so that the division rounds down. -/
def eraDividend (adjustedYear : Int) : CatalogResult Int :=
  if adjustedYear ≥ 0 then .ok adjustedYear else i64 (adjustedYear - 399)

def daysFromCivil (year month day : Int) : CatalogResult Int := do
  let adjustedYear ← i64 (year - if month ≤ 2 then 1 else 0)
  let eraYear ← eraDividend adjustedYear
  let era ← i64 (eraYear.tdiv 400)
  let eraStart ← i64 (era * 400)
  let yearOfEra ← i64 (adjustedYear - eraStart)
  let adjustedMonth ← i64 (month + if month > 2 then -3 else 9)
  let monthDays ← i64 (153 * adjustedMonth)
  let roundedDays ← i64 (monthDays + 2)
  let earlierMonths ← i64 (roundedDays.tdiv 5)
  let dayAfter ← i64 (earlierMonths + day)
  let dayOfYear ← i64 (dayAfter - 1)
  let commonDays ← i64 (yearOfEra * 365)
  let leapDays ← i64 (yearOfEra.tdiv 4)
  let julianDays ← i64 (commonDays + leapDays)
  let centuries ← i64 (yearOfEra.tdiv 100)
  let earlierYears ← i64 (julianDays - centuries)
  let dayOfEra ← i64 (earlierYears + dayOfYear)
  let eraDays ← i64 (era * 146097)
  let days ← i64 (eraDays + dayOfEra)
  i64 (days - 719468)

end Calendar

section Timestamp

/-- Whether the fraction has no digit, too many, or a digit finer than a tick. -/
def fractionRejected (bytes : List UInt8) (start cursor digits : Nat) : CatalogResult Bool :=
  if digits = 0 ∨ digits > 32 then pure true
  else if digits > 7 then do
    let finer ← usize (start + 7)
    let slice ← indexRange bytes finer cursor
    pure (slice.any (· ≠ 48))
  else pure false

/-- `fraction_ticks *= 10`, so often. -/
def scaleTicks : Nat → Int → CatalogResult Int
  | 0, ticks => .ok ticks
  | count + 1, ticks => do
    let scaled ← i128 (ticks * 10)
    scaleTicks count scaled

/-- The cursor behind the optional fraction, and the ticks it counts. -/
def parseFraction (bytes : List UInt8) : CatalogResult (Nat × Int) :=
  if bytes[19]? = some 46 then do
    let start ← usize (19 + 1)
    let cursor ← skipDigits (bytes.drop start) start
    let digits ← difference cursor start
    let rejected ← fractionRejected bytes start cursor digits
    if rejected then refuse timestampError
    else do
      let tickDigits := min digits 7
      let ticks ← parseDigits bytes start tickDigits
      let fractionTicks ← scaleTicks (7 - tickDigits) ticks
      return (cursor, fractionTicks)
  else pure (19, 0)

def parseNumericOffset (bytes : List UInt8) (cursor : Nat) (negative : Bool) : CatalogResult Int := do
  let colon ← usize (cursor + 3)
  if bytes[colon]? ≠ some 58 then refuse timestampError
  else do
    let hourStart ← usize (cursor + 1)
    let hours ← parseDigits bytes hourStart 2
    let minuteStart ← usize (cursor + 4)
    let minutes ← parseDigits bytes minuteStart 2
    if hours > 23 ∨ minutes > 59 then refuse timestampError
    else do
      let hourMinutes ← u32 (hours * 60)
      let value ← u32 (hourMinutes + minutes)
      if negative then i64 (-(value : Int)) else pure (value : Int)

def parseOffset (bytes : List UInt8) (cursor : Nat) : CatalogResult Int :=
  match bytes[cursor]? with
  | none => refuse timestampError
  | some sign =>
    if sign = 90 ∨ sign = 122 then do
      let stop ← usize (cursor + 1)
      if stop = bytes.length then pure 0 else refuse timestampError
    else if sign = 43 ∨ sign = 45 then do
      let stop ← usize (cursor + 6)
      if stop = bytes.length then parseNumericOffset bytes cursor (sign = 45) else refuse timestampError
    else refuse timestampError

def instantTicks (year month day hour minute second : Nat) (offsetMinutes fractionTicks : Int) :
    CatalogResult Int := do
  let leap := if second = 60 then 1 else 0
  let normalizedSecond := if second = 60 then 59 else second
  let days ← daysFromCivil year month day
  let daySeconds ← i128 (days * 86400)
  let hourSeconds ← u32 (hour * 3600)
  let minuteSeconds ← u32 (minute * 60)
  let clockSeconds ← u32 (hourSeconds + minuteSeconds)
  let secondsOfDay ← u32 (clockSeconds + normalizedSecond)
  let wholeSeconds ← i128 (daySeconds + secondsOfDay)
  let localSeconds ← i128 (wholeSeconds + leap)
  let offsetSeconds ← i128 (offsetMinutes * 60)
  let utcSeconds ← i128 (localSeconds - offsetSeconds)
  let ticks ← i128 (utcSeconds * 10000000)
  i128 (ticks + fractionTicks)

/-- The bytes are those of a string, so fewer than an address space. -/
def parseRfc3339Ticks (bytes : List UInt8) : CatalogResult Int :=
  if bytes.length < 20 ∨ bytes[4]? ≠ some 45 ∨ bytes[7]? ≠ some 45 ∨
      ¬ (bytes[10]? = some 84 ∨ bytes[10]? = some 116) ∨ bytes[13]? ≠ some 58 ∨ bytes[16]? ≠ some 58 then
    refuse timestampError
  else do
    let year ← parseDigits bytes 0 4
    let month ← parseDigits bytes 5 2
    let day ← parseDigits bytes 8 2
    let hour ← parseDigits bytes 11 2
    let minute ← parseDigits bytes 14 2
    let second ← parseDigits bytes 17 2
    if ¬ (1 ≤ month ∧ month ≤ 12) ∨ day = 0 ∨ day > daysInMonth year month ∨ hour > 23 ∨ minute > 59 ∨
        second > 60 then
      refuse timestampError
    else do
      let (cursor, fractionTicks) ← parseFraction bytes
      let offsetMinutes ← parseOffset bytes cursor
      instantTicks year month day hour minute second offsetMinutes fractionTicks

end Timestamp

end ProviderCatalog

end RustyFleet

import SqlTemplate.Text.Digits

/-!
# Dates and times

Days of the proleptic Gregorian calendar, times of day to the nanosecond, and offsets from
universal time. Timestamps with an offset keep the local reading, and are equal when they name one
instant.
-/

namespace SqlTemplate

open Text (paddedDecimal)

/-! ## Dates -/

/-- Whether a year has a leap day. -/
def isLeapYear (year : Int) : Bool :=
  year % 4 == 0 && (year % 100 != 0 || year % 400 == 0)

/-- The number of days of a month. -/
def daysInMonth (year : Int) (month : Nat) : Nat :=
  match month with
  | 2 => if isLeapYear year then 29 else 28
  | 4 | 6 | 9 | 11 => 30
  | _ => 31

/-- Whether year, month and day name a day of the supported years. -/
def IsDay (year : Int) (month day : Nat) : Prop :=
  (-9999 ≤ year ∧ year ≤ 9999) ∧ (1 ≤ month ∧ month ≤ 12) ∧
    1 ≤ day ∧ day ≤ daysInMonth year month

instance (year : Int) (month day : Nat) : Decidable (IsDay year month day) :=
  inferInstanceAs (Decidable (_ ∧ _))

/-- A day. -/
structure Date where
  year : Int
  month : Nat
  day : Nat
  isDay : IsDay year month day
  deriving DecidableEq

namespace Date

/-- The day with the given parts, if there is one. -/
def ofParts? (year : Int) (month day : Nat) : Option Date :=
  if isDay : IsDay year month day then some ⟨year, month, day, isDay⟩ else none

/-- The number of days before the first of January of a year, counted from the year 1. -/
def daysBeforeYear (year : Int) : Int :=
  let y := year - 1
  365 * y + y / 4 - y / 100 + y / 400

/-- The number of the day, counted from the first of January of the year 1. -/
def number (d : Date) : Int :=
  let months : Nat := ((List.range' 1 (d.month - 1)).map (daysInMonth d.year)).foldl (· + ·) 0
  daysBeforeYear d.year + months + d.day - 1

/-- Year, month and day; the year has at least four digits. -/
def text (d : Date) : String :=
  (if d.year < 0 then "-" else "") ++ paddedDecimal 4 d.year.natAbs ++
    "-" ++ paddedDecimal 2 d.month ++ "-" ++ paddedDecimal 2 d.day

end Date

/-! ## Times of day -/

/-- The nanoseconds of a second. -/
abbrev nanosecondsPerSecond : Nat := 1000000000

/-- A time of day. -/
structure Time where
  hour : Nat
  minute : Nat
  second : Nat
  nanosecond : Nat
  inDay : hour < 24 ∧ minute < 60 ∧ second < 60 ∧ nanosecond < nanosecondsPerSecond
  deriving DecidableEq

namespace Time

/-- The time of day with the given parts, if there is one. -/
def ofParts? (hour minute second nanosecond : Nat) : Option Time :=
  if inDay : hour < 24 ∧ minute < 60 ∧ second < 60 ∧ nanosecond < nanosecondsPerSecond then
    some ⟨hour, minute, second, nanosecond, inDay⟩
  else
    none

/-- The nanoseconds since midnight. -/
def nanoseconds (t : Time) : Nat :=
  ((t.hour * 60 + t.minute) * 60 + t.second) * nanosecondsPerSecond + t.nanosecond

/-- Hour, minute, second and fraction. The hour has no zeros in front, the fraction none at its end
but keeps one digit. -/
def text (t : Time) : String :=
  let digits := (paddedDecimal 9 t.nanosecond).toList
  let fraction := (digits.reverse.dropWhile (· == '0')).reverse
  toString t.hour ++ ":" ++ paddedDecimal 2 t.minute ++ ":" ++ paddedDecimal 2 t.second ++ "." ++
    if fraction.isEmpty then "0" else String.ofList fraction

end Time

/-! ## Timestamps -/

/-- A day and a time of day. -/
structure Timestamp where
  date : Date
  time : Time
  deriving DecidableEq

/-- A distance from universal time, less than 26 hours; its parts have one sign. -/
structure UtcOffset where
  negative : Bool
  hours : Nat
  minutes : Nat
  seconds : Nat
  isOffset : hours < 26 ∧ minutes < 60 ∧ seconds < 60
  deriving DecidableEq

namespace UtcOffset

/-- The offset with the given parts, if they have one sign and are in range. -/
def ofParts? (hours minutes seconds : Int) : Option UtcOffset :=
  if (0 ≤ hours ∧ 0 ≤ minutes ∧ 0 ≤ seconds) ∨ (hours ≤ 0 ∧ minutes ≤ 0 ∧ seconds ≤ 0) then
    if isOffset : hours.natAbs < 26 ∧ minutes.natAbs < 60 ∧ seconds.natAbs < 60 then
      some ⟨hours < 0 || minutes < 0 || seconds < 0, hours.natAbs, minutes.natAbs,
        seconds.natAbs, isOffset⟩
    else
      none
  else
    none

/-- A number with the sign of the offset. -/
def signed (o : UtcOffset) (n : Nat) : Int :=
  if o.negative then -n else n

/-- The offset in seconds. -/
def total (o : UtcOffset) : Int :=
  o.signed ((o.hours * 60 + o.minutes) * 60 + o.seconds)

/-- The sign, and hours, minutes and seconds of two digits each. -/
def text (o : UtcOffset) : String :=
  (if o.negative then "-" else "+") ++
    ":".intercalate [paddedDecimal 2 o.hours, paddedDecimal 2 o.minutes, paddedDecimal 2 o.seconds]

end UtcOffset

/-- A local day and time of day, and the offset of the place. -/
structure ZonedTimestamp where
  wall : Timestamp
  offset : UtcOffset
  deriving DecidableEq

namespace ZonedTimestamp

/-- The instant in nanoseconds of universal time. -/
def instant (z : ZonedTimestamp) : Int :=
  (z.wall.date.number * 86400 - z.offset.total) * nanosecondsPerSecond + z.wall.time.nanoseconds

end ZonedTimestamp

end SqlTemplate

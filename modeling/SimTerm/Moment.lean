import SimTerm.Double
import SimTerm.Text.Quoted
/-!
# Moments

Points in time on the proleptic Gregorian calendar, to the second, and instants counted in
microseconds from the start of 1970. There is one time zone.

## Main definitions

* `Moment`: A date and a time of day.
* `Moment.dayNumber`: Days since the start of 1970.
* `Moment.longText`, `Moment.isoText`, `Moment.dateText`: The written forms.
* `Instant`: Microseconds since the start of 1970.
* `Instant.ofSeconds`, `Instant.ofDouble`: The instant that a number of seconds names.
* `Instant.stamp`: The written form, to the millisecond.
-/

namespace SimTerm

/-- A date and a time of day. -/
structure Moment where
  /-- The year. -/
  year : Nat
  /-- The month, from 1. -/
  month : Nat
  /-- The day of the month, from 1. -/
  day : Nat
  /-- The hour of the day. -/
  hour : Nat
  /-- The minute of the hour. -/
  minute : Nat
  /-- The second of the minute. -/
  second : Nat
deriving Repr, DecidableEq, Inhabited

namespace Moment

/-- Days from the start of 1970 to a date. Years are counted from March on, so that the leap
day comes last. -/
def dayNumber (m : Moment) : Int :=
  let y : Int := if m.month ≤ 2 then (m.year : Int) - 1 else m.year
  let era := y.fdiv 400
  let yearOfEra := y - era * 400
  let shifted := (m.month + 9) % 12
  let dayOfYear : Int := (153 * shifted + 2) / 5 + m.day - 1
  let dayOfEra := yearOfEra * 365 + yearOfEra / 4 - yearOfEra / 100 + dayOfYear
  era * 146097 + dayOfEra - 719468

/-- The date that lies a number of days after the start of 1970, at midnight. -/
def ofDayNumber (days : Int) : Int × Nat × Nat :=
  let z := days + 719468
  let era := z.fdiv 146097
  let dayOfEra := z - era * 146097
  let yearOfEra :=
    (dayOfEra - dayOfEra / 1460 + dayOfEra / 36524 - dayOfEra / 146096) / 365
  let dayOfYear := dayOfEra - (365 * yearOfEra + yearOfEra / 4 - yearOfEra / 100)
  let shifted := (5 * dayOfYear + 2) / 153
  let day := dayOfYear - (153 * shifted + 2) / 5 + 1
  let month := if shifted < 10 then shifted + 3 else shifted - 9
  let year := yearOfEra + era * 400 + (if month ≤ 2 then 1 else 0)
  (year, month.toNat, day.toNat)

/-- The names of the days of the week, from Sunday. -/
def weekdayNames : List String := ["Sun", "Mon", "Tue", "Wed", "Thu", "Fri", "Sat"]

/-- The names of the months. -/
def monthNames : List String :=
  ["Jan", "Feb", "Mar", "Apr", "May", "Jun", "Jul", "Aug", "Sep", "Oct", "Nov", "Dec"]

/-- The day of the week; the first day of 1970 was a Thursday. -/
def weekdayName (m : Moment) : String :=
  weekdayNames.getD ((m.dayNumber + 4).emod 7).toNat ""

/-- The name of the month. -/
def monthName (m : Moment) : String := monthNames.getD (m.month - 1) ""

/-- Two digits. -/
def twoDigits (n : Nat) : String := Text.paddedText 2 n

/-- The time of day. -/
def timeText (m : Moment) : String :=
  twoDigits m.hour ++ ":" ++ twoDigits m.minute ++ ":" ++ twoDigits m.second

/-- Week day, month, day, year and time of day. -/
def longText (m : Moment) : String :=
  m.weekdayName ++ " " ++ m.monthName ++ " " ++ twoDigits m.day ++ " " ++ toString m.year ++
    " " ++ m.timeText

/-- Month, day and year. -/
def dateText (m : Moment) : String :=
  twoDigits m.month ++ "/" ++ twoDigits m.day ++ "/" ++ toString m.year

/-- The calendar date, largest unit first. -/
def calendarText (m : Moment) : String :=
  Text.paddedText 4 m.year ++ "-" ++ twoDigits m.month ++ "-" ++ twoDigits m.day

/-- Date and time of day, largest unit first. -/
def isoText (m : Moment) : String := m.calendarText ++ "T" ++ m.timeText

/-- Whether a year has a 29th of February. -/
def isLeapYear (year : Nat) : Bool :=
  year % 4 == 0 && (year % 100 != 0 || year % 400 == 0)

/-- The number of days of a month. -/
def daysInMonth (year month : Nat) : Nat :=
  if month == 2 then (if isLeapYear year then 29 else 28)
  else if month == 4 || month == 6 || month == 9 || month == 11 then 30 else 31

/-- Whether there is such a date, in the years 1 to 9999. -/
def isDate (year month day : Nat) : Bool :=
  1 ≤ year && year ≤ 9999 && 1 ≤ month && month ≤ 12 && 1 ≤ day && day ≤ daysInMonth year month

end Moment

/-- Microseconds since the start of 1970. -/
structure Instant where
  /-- The count, negative before 1970. -/
  micros : Int
deriving Repr, DecidableEq

namespace Instant

/-- Why a number of seconds names no instant. -/
inductive Fault where
  /-- The year is not one of 1 to 9999, or the number is no number. -/
  | outOfRange
  /-- The number does not fit the machine's count of seconds. -/
  | tooLarge
deriving Repr, DecidableEq

/-- A whole number nearest to a ratio with a sign, a half going to the even neighbour. -/
def roundSigned (negative : Bool) (num den : Nat) : Int :=
  Double.signed negative (Double.roundRatio num den)

/-- The microseconds of a number of seconds. The fraction of the second is scaled as a
double and then rounded, a half going to the even neighbour. -/
def microsOfDouble : Double → Except Fault Int
  | .nan => .error .outOfRange
  | .infinite _ => .error .tooLarge
  | .finite n m e =>
    let r := Double.magnitude m e
    let whole := r.1 / r.2
    match Double.mulNat (Double.ofRatio n (r.1 % r.2) r.2) 1000000 with
    | .finite n' m' e' =>
      let f := Double.magnitude m' e'
      .ok (Double.signed n whole * 1000000 + roundSigned n' f.1 f.2)
    | _ => .error .outOfRange

/-- Keeps the instants of the years 1 to 9999. -/
def inCalendar (micros : Int) : Except Fault Instant :=
  let seconds := micros.fdiv 1000000
  if seconds < -62135596800 ∨ 253402300799 < seconds then
    if seconds < -9223372036854775808 ∨ 9223372036854775807 < seconds then .error .tooLarge
    else .error .outOfRange
  else .ok ⟨micros⟩

/-- The instant that a whole number of seconds since the start of 1970 names. -/
def ofSeconds (seconds : Int) : Except Fault Instant := inCalendar (seconds * 1000000)

/-- The instant that a number of seconds with a fraction names. -/
def ofDouble (seconds : Double) : Except Fault Instant :=
  match microsOfDouble seconds with
  | .error e => .error e
  | .ok micros => inCalendar micros

/-- The instant of a moment. -/
def ofMoment (m : Moment) : Instant :=
  ⟨(m.dayNumber * 86400 + ((m.hour * 60 + m.minute) * 60 + m.second : Nat)) * 1000000⟩

/-- The date and the time of day that an instant lies in. -/
def moment (i : Instant) : Moment :=
  let seconds := i.micros.fdiv 1000000
  let days := seconds.fdiv 86400
  let rest := (seconds - days * 86400).toNat
  let (year, month, day) := Moment.ofDayNumber days
  ⟨year.toNat, month, day, rest / 3600, rest / 60 % 60, rest % 60⟩

/-- The written form, to the millisecond; what is below is cut off. -/
def stamp (i : Instant) : String :=
  let m := i.moment
  let micros := (i.micros - i.micros.fdiv 1000000 * 1000000).toNat
  toString m.year ++ "-" ++ Moment.twoDigits m.month ++ "-" ++ Moment.twoDigits m.day ++ " " ++
    m.timeText ++ "." ++ Text.paddedText 3 (micros / 1000)

end Instant

end SimTerm

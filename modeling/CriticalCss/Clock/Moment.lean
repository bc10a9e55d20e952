/-!
# Moments and their zones

A moment is a count of seconds since 1970-01-01T00:00:00 in universal time,
a count of nanoseconds within that second, and the zone it is read in. Its
civil fields (year, month, day, hour, minute, second, weekday, day of the
year) are those of the proleptic Gregorian calendar at the zone's offset,
computed from the day number by the usual era arithmetic: an era of 400
years has 146097 days, and counting years from March puts the leap day at
the end of the year.

The zones are universal time, the local zone, which has no offset here and
is abbreviated `UTC`, and fixed zones of a name and an offset, such as a
parsed `-0700` or `MST` gives.

## Main definitions

* `Zone`: where a moment is read.
* `Moment`: seconds and nanoseconds since the epoch, and a zone.
* `Civil`: the calendar fields of a moment; `Moment.civil` computes them.
* `monthName`, `weekdayName`: the English names.
-/

namespace CriticalCss.Clock

/-- Where a moment is read. -/
inductive Zone where
  /-- Universal time. -/
  | utc
  /-- The system's local zone: no offset, abbreviated `UTC`. -/
  | system
  /-- A fixed zone: a name, possibly empty, and an offset in seconds east. -/
  | fixed (name : String) (offset : Int)
  deriving BEq, Repr, Inhabited

/-- The offset of a zone in seconds east of universal time. -/
def Zone.offset : Zone → Int
  | .fixed _ off => off
  | _ => 0

/-- The name of a zone as a location: `UTC`, `Local` or its own. -/
def Zone.name : Zone → String
  | .utc => "UTC"
  | .system => "Local"
  | .fixed n _ => n

/-- A moment: whole seconds since the epoch in universal time, the
nanoseconds after them, and the zone it is read in. -/
structure Moment where
  seconds : Int
  nanos : Nat := 0
  zone : Zone := .utc
  deriving BEq, Repr, Inhabited

/-- The seconds of a moment's wall clock: its seconds moved by the zone's
offset. -/
def Moment.localSeconds (t : Moment) : Int := t.seconds + t.zone.offset

/-- The calendar fields of a moment. Months run from 1 to 12, weekdays from
0 (Sunday) to 6, days of the year from 1. -/
structure Civil where
  year : Int
  month : Nat
  day : Nat
  hour : Nat
  minute : Nat
  second : Nat
  weekday : Nat
  yearDay : Nat
  deriving BEq, Repr

/-- Whether a year of the proleptic Gregorian calendar has a leap day. -/
def isLeapYear (y : Int) : Bool :=
  y % 4 == 0 && (y % 100 != 0 || y % 400 == 0)

/-- Days before the first of each month in a common year. -/
def daysBeforeMonth : List Nat := [0, 31, 59, 90, 120, 151, 181, 212, 243, 273, 304, 334]

/-- Year, month and day of the day numbered `z` from 1970-01-01. -/
def dateOfDays (z : Int) : Int × Nat × Nat :=
  let z := z + 719468
  let era := z / 146097
  let doe := z - era * 146097
  let yoe := (doe - doe / 1460 + doe / 36524 - doe / 146096) / 365
  let doy := doe - (365 * yoe + yoe / 4 - yoe / 100)
  let mp := (5 * doy + 2) / 153
  let d := doy - (153 * mp + 2) / 5 + 1
  let m := if mp < 10 then mp + 3 else mp - 9
  let y := yoe + era * 400 + (if m ≤ 2 then 1 else 0)
  (y, m.toNat, d.toNat)

/-- The calendar fields of a moment, at its zone's offset. -/
def Moment.civil (t : Moment) : Civil :=
  let days := t.localSeconds / 86400
  let secs := (t.localSeconds % 86400).toNat
  let (y, m, d) := dateOfDays days
  let leap := if isLeapYear y && m > 2 then 1 else 0
  { year := y, month := m, day := d
    hour := secs / 3600, minute := secs % 3600 / 60, second := secs % 60
    weekday := ((days + 4) % 7).toNat
    yearDay := daysBeforeMonth.getD (m - 1) 0 + d + leap }

/-- The English name of a month numbered from 1, or `%!Month(n)` outside
1 to 12. -/
def monthName (m : Nat) : String :=
  match m with
  | 1 => "January" | 2 => "February" | 3 => "March" | 4 => "April"
  | 5 => "May" | 6 => "June" | 7 => "July" | 8 => "August"
  | 9 => "September" | 10 => "October" | 11 => "November" | 12 => "December"
  | n => "%!Month(" ++ toString n ++ ")"

/-- The English name of a weekday numbered from 0 (Sunday). -/
def weekdayName (d : Nat) : String :=
  match d with
  | 0 => "Sunday" | 1 => "Monday" | 2 => "Tuesday" | 3 => "Wednesday"
  | 4 => "Thursday" | 5 => "Friday" | 6 => "Saturday"
  | n => "%!Weekday(" ++ toString n ++ ")"

/-- Nanoseconds since the epoch. -/
def Moment.unixNanos (t : Moment) : Int := t.seconds * 1000000000 + t.nanos

end CriticalCss.Clock

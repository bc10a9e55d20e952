import CriticalCss.Clock.Moment
/-!
# Arithmetic on moments

Moments are moved by durations in nanoseconds, compared, cut down to a
multiple of a duration and moved by calendar steps.

The count of seconds a moment carries is kept within 64 bits counted from
the first day of year one: moving a moment past either end stops there.
Truncating and rounding count multiples of the duration from that first
day too, not from the epoch, so that a duration that does not divide a day
gives the same cuts in every year.

## Main definitions

* `Moment.addNanos`: a moment moved by a duration.
* `Moment.diff`: the duration from one moment to another, held to 64 bits.
* `Moment.truncate`, `Moment.round`: a moment cut to a multiple.
* `Moment.addDate`: a moment moved by years, months and days.
-/

namespace CriticalCss.Clock

/-- Seconds from the first day of year one to the epoch. -/
def yearOneToEpoch : Int := 62135596800

/-- The largest 64-bit signed integer. -/
def int64Max : Int := Int.pow 2 63 - 1

/-- The zero moment: the start of year one, in universal time. -/
def Moment.zero : Moment := { seconds := -yearOneToEpoch }

/-- Seconds since the first day of year one. -/
def Moment.sinceYearOne (t : Moment) : Int := t.seconds + yearOneToEpoch

/-- A moment moved by whole seconds, stopping at the ends of the 64-bit
count from year one. -/
def Moment.addSeconds (t : Moment) (d : Int) : Moment :=
  let sum := t.sinceYearOne + d
  let ext := if sum > int64Max then int64Max else if sum < -int64Max then -int64Max else sum
  { t with seconds := ext - yearOneToEpoch }

/-- A moment moved by a duration in nanoseconds. -/
def Moment.addNanos (t : Moment) (d : Int) : Moment :=
  let dsec := d.tdiv 1000000000
  let nsec := (t.nanos : Int) + d.tmod 1000000000
  let (dsec, nsec) :=
    if nsec ≥ 1000000000 then (dsec + 1, nsec - 1000000000)
    else if nsec < 0 then (dsec - 1, nsec + 1000000000)
    else (dsec, nsec)
  { (t.addSeconds dsec) with nanos := nsec.toNat }

/-- The duration from `u` to `t` in nanoseconds, held to the 64-bit range. -/
def Moment.diff (t u : Moment) : Int :=
  let d := (t.seconds - u.seconds) * 1000000000 + ((t.nanos : Int) - u.nanos)
  if d > int64Max then int64Max else if d < -(Int.pow 2 63) then -(Int.pow 2 63) else d

/-- How two moments compare: -1, 0 or 1. -/
def Moment.compare (t u : Moment) : Int :=
  if t.seconds < u.seconds || (t.seconds == u.seconds && t.nanos < u.nanos) then -1
  else if t.seconds == u.seconds && t.nanos == u.nanos then 0 else 1

/-- The remainder of a moment, counted in nanoseconds from year one, by a
positive duration. -/
def Moment.remainder (t : Moment) (d : Int) : Int :=
  (t.sinceYearOne * 1000000000 + t.nanos) % d

/-- A moment cut down to a multiple of a duration; a duration that is not
positive leaves it. -/
def Moment.truncate (t : Moment) (d : Int) : Moment :=
  if d ≤ 0 then t else t.addNanos (-(t.remainder d))

/-- A moment rounded to the nearest multiple of a duration, halves up; a
duration that is not positive leaves it. -/
def Moment.round (t : Moment) (d : Int) : Moment :=
  if d ≤ 0 then t
  else
    let r := t.remainder d
    if r + r < d then t.addNanos (-r) else t.addNanos (d - r)

/-- The day number from 1970-01-01 of a date, months beyond 12 or below 1
carried into the year. -/
def daysOfDate (year : Int) (month : Int) (day : Int) : Int :=
  let m0 := month - 1
  let y := year + m0.fdiv 12
  let m := (m0.fmod 12).toNat + 1
  let yy := if m ≤ 2 then y - 1 else y
  let era := yy.fdiv 400
  let yoe := yy - era * 400
  let mp : Int := if m > 2 then (m : Int) - 3 else (m : Int) + 9
  let doy := (153 * mp + 2) / 5
  let doe := yoe * 365 + yoe / 4 - yoe / 100 + doy
  era * 146097 + doe - 719468 + day - 1

/-- A moment moved by years, months and days on the calendar of its zone,
the time of day and the zone kept; overflowing months and days carry into
the next unit. -/
def Moment.addDate (t : Moment) (years months days : Int) : Moment :=
  let c := t.civil
  let dayNumber := daysOfDate (c.year + years) ((c.month : Int) + months) ((c.day : Int) + days)
  let secsOfDay := (c.hour * 3600 + c.minute * 60 + c.second : Nat)
  { seconds := dayNumber * 86400 + secsOfDay - t.zone.offset, nanos := t.nanos, zone := t.zone }

end CriticalCss.Clock

import CriticalCss.Template.Json
import CriticalCss.Clock.Arithmetic
import CriticalCss.Clock.Parse
import CriticalCss.Clock.TimeZone
import CriticalCss.Text.Duration
/-!
# Moments, durations and their methods

The date helpers and the methods of moments, months, weekdays, durations
and time zones.

A date helper takes a moment, or an integer counted as seconds since the
epoch; times are written in universal time. Any other value would stand
for the current time, which a run does not have, and the helper fails.
`toDate` reads a text by a layout, in the local zone unless the text names
one, and gives the zero moment when it does not read; `mustToDate` fails
with the reason instead.

Methods are called as fields: `.Time.Year`, `.Time.Add 1`. A method with
results that cannot be used in a template (`Date`, `Zone`) exists but fails
when called.

## Main definitions

* `durationOfSeconds`, `roughDuration`: the texts of `duration` and
  `durationRound`.
* `dateFunctions`: the table of date helpers.
* `methodOf`, `hiddenFields`: the methods and unexported fields of values.
-/

namespace CriticalCss.Template

open CriticalCss.Clock
open CriticalCss.Text

/-- The moment a date helper reads a value as: a moment, or seconds since
the epoch. -/
def momentOf? : Value → Option Moment
  | .moment t => some t
  | .int n | .int64 n => some { seconds := n }
  | _ => none

/-- The failure of a helper that would need the current time. -/
def noCurrentTime {α : Type} : CallM α := callFail "the current time is not available"

/-- A date helper: the moment written by a layout, in the zone of a name
(universal time for a name the database does not hold). -/
def dateText (layout : String) (v : Value) (zone : String) : CallM Value :=
  match momentOf? v with
  | some t => pure (.str ((t.inZoneNamed zone).format layout))
  | none => noCurrentTime

/-- The text of `duration`: a count of seconds, from an `int64` or a decimal
text (held to 64 bits), as a duration; any other value is zero. -/
def durationOfSeconds (v : Value) : String :=
  let n : Int := match v with
    | .str s =>
      let (neg, ds) := match s.toList with
        | '-' :: r => (true, r) | '+' :: r => (false, r) | cs => (false, cs)
      match digitsValue? ds with
      | some m =>
        let x : Int := if neg then -(m : Int) else m
        if x < leastInt64 then leastInt64 else if x > maxInt64 then maxInt64 else x
      | none => 0
    | .int64 n => n
    | _ => 0
  durationText (wrap64 (n * 1000000000))

/-- The text of `durationRound`: a duration written as its largest whole
unit among years of 365 days, months of 30 days, days, hours, minutes and
seconds. -/
def roughDuration (d : Int) : String :=
  let u := if d < 0 then (-d).toNat else d.toNat
  let second := 1000000000
  let minute := 60 * second
  let hour := 60 * minute
  let day := 24 * hour
  if u > 365 * day then toString (u / (365 * day)) ++ "y"
  else if u > 30 * day then toString (u / (30 * day)) ++ "mo"
  else if u > day then toString (u / day) ++ "d"
  else if u > hour then toString (u / hour) ++ "h"
  else if u > minute then toString (u / minute) ++ "m"
  else if u > second then toString (u / second) ++ "s"
  else "0s"

/-- The moment argument at a place. -/
def momentArg (args : List Value) (i : Nat) : Moment :=
  match args[i]? with
  | some (.moment t) => t
  | _ => { seconds := 0 }

/-- The date helpers. -/
def dateFunctions : List (String × Function) :=
  let modify (must : Bool) : Function :=
    { params := [.string, .moment], results := if must then .withError else .one,
      run := fun args =>
        let t := momentArg args 1
        match readDuration (strArg args 0) with
        | .ok d => pure (.moment (t.addNanos d))
        | .error e => if must then callFail (e.message (strArg args 0)) else pure (.moment t) }
  [("date", { params := [.string, .any], run := fun args => dateText (strArg args 0) (args.getD 1 .none) "UTC" }),
   ("dateInZone", { params := [.string, .any, .string],
                    run := fun args => dateText (strArg args 0) (args.getD 1 .none) (strArg args 2) }),
   ("date_in_zone", { params := [.string, .any, .string],
                      run := fun args => dateText (strArg args 0) (args.getD 1 .none) (strArg args 2) }),
   ("htmlDate", { params := [.any], run := fun args => dateText "2006-01-02" (args.getD 0 .none) "UTC" }),
   ("htmlDateInZone", { params := [.any, .string],
                        run := fun args => dateText "2006-01-02" (args.getD 0 .none) (strArg args 1) }),
   ("dateModify", modify false),
   ("date_modify", modify false),
   ("mustDateModify", modify true),
   ("must_date_modify", modify true),
   ("duration", pureFn [.any] fun args => .str (durationOfSeconds (args.headD .none))),
   ("durationRound", { params := [.any],
                       run := fun args =>
                         match args.headD .none with
                         | .str s => pure (.str (roughDuration ((readDuration s).toOption.getD 0)))
                         | .int64 n => pure (.str (roughDuration n))
                         | .moment _ => noCurrentTime
                         | _ => pure (.str "0s") }),
   ("unixEpoch", pureFn [.moment] fun args => .str (toString (momentArg args 0).seconds)),
   ("now", { params := [], run := fun _ => noCurrentTime }),
   ("ago", { params := [.any], run := fun _ => noCurrentTime }),
   ("toDate", pureFn [.string, .string] fun args =>
      .moment ((Moment.parse (strArg args 0) (strArg args 1)).toOption.getD Moment.zero)),
   ("mustToDate", { params := [.string, .string], results := .withError,
                    run := fun args => match Moment.parse (strArg args 0) (strArg args 1) with
                      | .ok t => pure (.moment t)
                      | .error e => callFail e.text }),
   ("hello", pureFn [] fun _ => .str "Hello!"),
   ("fail", { params := [.string], results := .withError, run := fun args => callFail (strArg args 0) })]

/-- Bytes as a list value. -/
def byteList (bs : List UInt8) : Value := Value.exactList .uint8 (bs.map fun b => .uint8 b.toNat)

/-- The bytes of a list value of bytes. -/
def bytesOfList : Value → List UInt8
  | .list _ items _ _ => items.map fun | .uint8 n => n.toUInt8 | _ => 0
  | _ => []

/-- The RFC 3339 text of a moment, or why it has none, naming the
method. -/
def rfc3339Text (method : String) (t : Moment) : Except String String :=
  match t.rfc3339 with
  | .ok s => .ok s
  | .error e => .error ("Time." ++ method ++ ": " ++ e)

/-- The binary form of a moment: a version byte, the seconds since year one
and the nanoseconds big-endian, then the zone's offset in minutes as two
bytes (all ones for universal time), and the seconds of the offset as a
third byte, under version 2, when it has some. An offset of minus one
minute would read as universal time and is refused. -/
def momentBinary (t : Moment) : Except String (List UInt8) :=
  let off := t.zone.offset
  let minutes := off.tdiv 60
  let universal := t.zone == .utc
  if !universal && (minutes < -32768 || minutes == -1 || minutes > 32767) then
    .error "Time.MarshalBinary: unexpected zone offset"
  else
    let sec := t.sinceYearOne % (Int.pow 2 64)
    let secBytes := (List.range 8).map fun i => (sec / Int.pow 2 (8 * (7 - i)) % 256).toNat.toUInt8
    let nsBytes := (List.range 4).map fun i => (t.nanos / Nat.pow 2 (8 * (3 - i)) % 256).toUInt8
    let marker := (if universal then -1 else minutes) % 65536
    let extra := if universal || off.tmod 60 == 0 then [] else [(off.tmod 60 % 256).toNat.toUInt8]
    let version : UInt8 := if extra.isEmpty then 1 else 2
    .ok ([version] ++ secBytes ++ nsBytes ++ [(marker / 256).toNat.toUInt8, (marker % 256).toNat.toUInt8] ++ extra)

/-- A method of no arguments giving a value. -/
def constMethod (v : Value) : Option Function := some (pureFn [] fun _ => v)

/-- A method giving bytes or an error. -/
def bytesMethod (params : List ParamType) (f : List Value → Except String (List UInt8)) : Option Function :=
  some { params, results := .withError,
         run := fun args => match f args with
           | .ok bs => pure (byteList bs)
           | .error e => callFail e }

/-- The methods of a moment. -/
def momentMethod (t : Moment) (name : String) : Option Function :=
  let c := t.civil
  match name with
  | "Add" => some (pureFn [.duration] fun args => .moment (t.addNanos (intArg args 0)))
  | "AddDate" => some (pureFn [.int, .int, .int] fun args =>
      .moment (t.addDate (intArg args 0) (intArg args 1) (intArg args 2)))
  | "After" => some (pureFn [.moment] fun args => .bool ((t.compare (momentArg args 0)) == 1))
  | "AppendBinary" => bytesMethod [.slice .uint8] fun args => (momentBinary t).map (bytesOfList (args.headD .none) ++ ·)
  | "AppendFormat" => some (pureFn [.slice .uint8, .string] fun args =>
      byteList (bytesOfList (args.headD .none) ++ (t.format (strArg args 1)).toUTF8.toList))
  | "AppendText" => bytesMethod [.slice .uint8] fun args =>
      (rfc3339Text "MarshalText" t).map fun s => bytesOfList (args.headD .none) ++ s.toUTF8.toList
  | "Before" => some (pureFn [.moment] fun args => .bool ((t.compare (momentArg args 0)) == -1))
  | "Clock" | "Date" => some { params := [], results := .many 3, run := fun _ => pure .none }
  | "Compare" => some (pureFn [.moment] fun args => .int (t.compare (momentArg args 0)))
  | "Day" => constMethod (.int c.day)
  | "Equal" => some (pureFn [.moment] fun args => .bool (t.compare (momentArg args 0) == 0))
  | "Format" => some (pureFn [.string] fun args => .str (t.format (strArg args 0)))
  | "GoString" => constMethod (.str (goSyntaxOf t))
  | "GobEncode" | "MarshalBinary" => bytesMethod [] fun _ => momentBinary t
  | "Hour" => constMethod (.int c.hour)
  | "ISOWeek" | "Zone" => some { params := [], results := .badSecond "int", run := fun _ => pure .none }
  | "ZoneBounds" => some { params := [], results := .badSecond "time.Time", run := fun _ => pure .none }
  | "In" => some { params := [.location],
                   run := fun args => match args.headD .none with
                     | .location z => pure (.moment { t with zone := z })
                     | _ => callFail "time: missing Location in call to Time.In" }
  | "IsDST" => constMethod (.bool false)
  | "IsZero" => constMethod (.bool (t.sinceYearOne == 0 && t.nanos == 0))
  | "Local" => constMethod (.moment { t with zone := .system })
  | "UTC" => constMethod (.moment { t with zone := .utc })
  | "Location" => constMethod (.location t.zone)
  | "MarshalJSON" => bytesMethod [] fun _ =>
      match rfc3339Text "MarshalJSON" t with
      | .ok s => .ok ("\"".toUTF8.toList ++ s.toUTF8.toList ++ "\"".toUTF8.toList)
      | .error e => .error e
  | "MarshalText" => bytesMethod [] fun _ => (rfc3339Text "MarshalText" t).map fun s => s.toUTF8.toList
  | "Minute" => constMethod (.int c.minute)
  | "Month" => constMethod (.month c.month)
  | "Nanosecond" => constMethod (.int t.nanos)
  | "Round" => some (pureFn [.duration] fun args => .moment (t.round (intArg args 0)))
  | "Second" => constMethod (.int c.second)
  | "String" => constMethod (.str t.text)
  | "Sub" => some (pureFn [.moment] fun args => .duration (t.diff (momentArg args 0)))
  | "Truncate" => some (pureFn [.duration] fun args => .moment (t.truncate (intArg args 0)))
  | "Unix" => constMethod (.int64 t.seconds)
  | "UnixMicro" => constMethod (.int64 (wrap64 (t.unixNanos.fdiv 1000)))
  | "UnixMilli" => constMethod (.int64 (wrap64 (t.unixNanos.fdiv 1000000)))
  | "UnixNano" => constMethod (.int64 (wrap64 t.unixNanos))
  | "Weekday" => constMethod (.weekday c.weekday)
  | "Year" => constMethod (.int c.year)
  | "YearDay" => constMethod (.int c.yearDay)
  | _ => none

/-- A duration rounded to the nearest multiple of `m`, halves away from
zero, held to the 64-bit range; a multiple that is not positive leaves it. -/
def roundDuration (d m : Int) : Int :=
  if m ≤ 0 then d
  else
    let r := d.tmod m
    if d < 0 then
      let r := -r
      if r + r < m then d + r
      else if d - m + r ≥ leastInt64 then d - m + r else leastInt64
    else if r + r < m then d - r
    else if d + m - r ≤ maxInt64 then d + m - r else maxInt64

/-- A whole part and a remainder of a duration in binary64 units. -/
def durationIn (d unit : Int) : Float :=
  floatOfInt (d.tdiv unit) + floatOfInt (d.tmod unit) / floatOfInt unit

/-- The methods of a duration. -/
def durationMethod (d : Int) (name : String) : Option Function :=
  match name with
  | "Abs" => constMethod (.duration (if d ≥ 0 then d else if d == leastInt64 then maxInt64 else -d))
  | "Hours" => constMethod (.float (durationIn d 3600000000000))
  | "Microseconds" => constMethod (.int64 (d.tdiv 1000))
  | "Milliseconds" => constMethod (.int64 (d.tdiv 1000000))
  | "Minutes" => constMethod (.float (durationIn d 60000000000))
  | "Nanoseconds" => constMethod (.int64 d)
  | "Round" => some (pureFn [.duration] fun args => .duration (roundDuration d (intArg args 0)))
  | "Seconds" => constMethod (.float (durationIn d 1000000000))
  | "String" => constMethod (.str (durationText d))
  | "Truncate" => some (pureFn [.duration] fun args =>
      let m := intArg args 0
      .duration (if m ≤ 0 then d else d - d.tmod m))
  | _ => none

/-- The method of a value with a name, as a function of the remaining
arguments. -/
def methodOf (v : Value) (name : String) : Option Function :=
  match v with
  | .moment t => momentMethod t name
  | .duration d => durationMethod d name
  | .month m => if name == "String" then constMethod (.str (monthName m)) else none
  | .weekday d => if name == "String" then constMethod (.str (weekdayName d)) else none
  | .location z => if name == "String" then constMethod (.str z.name) else none
  | _ => none

/-- Fields of a value's type that exist but may not be read. -/
def hiddenFields (v : Value) : List String :=
  match v with
  | .moment _ => ["wall", "ext", "loc"]
  | .location _ => ["name", "zone", "tx", "extend", "cacheStart", "cacheEnd", "cacheZone"]
  | _ => []

end CriticalCss.Template

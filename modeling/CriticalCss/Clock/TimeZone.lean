import CriticalCss.Clock.Moment
import CriticalCss.Clock.ZoneTable
/-!
# Zones of the time zone database

A zone of the database has kinds of local time, each an offset east of
universal time with an abbreviation, and a history of the instants at
which it changes from one kind to another. Before its first change a zone
keeps its first kind that is not summer time; from its last change on it
follows a rule written as the `TZ` environment variable writes one, such as
`CET-1CEST,M3.5.0,M10.5.0/3`: a standard abbreviation and offset, and
possibly a summer abbreviation and offset with the days and times at which
summer time starts and ends each year. The offsets of the rule count hours
west, so they are negated.

A rule's change days are the `n`th day of a year counted from zero (leap
days counted), the `Jn`th day counted from one with leap days never
counted, or `Mm.w.d`: weekday `d` of week `w` of month `m`, week 5 being
the last. The year is that of the instant in universal time, and a change
whose time comes before the other in that year means summer time spans the
turn of the year.

## Main definitions

* `LocalTimeType`: a kind of local time.
* `TzRule`: a rule in the syntax of `TZ`, with `TzRule.parse?` and
  `TzRule.at`.
* `ZoneRules`: a zone's kinds, changes and rule; `ZoneRules.lookup` gives
  the abbreviation and offset in force at an instant.
* `zoneRulesNamed?`: the zone of a name in the database.
* `Moment.inZoneNamed`: a moment seen in the zone of a name.
-/

namespace CriticalCss.Clock

/-- A kind of local time: its offset in seconds east of universal time,
whether it is summer time, and its abbreviation. -/
structure LocalTimeType where
  offset : Int
  isDst : Bool
  abbreviation : String
  deriving Inhabited, Repr

/-- The day of a year on which a zone changes to or from summer time. -/
inductive DayRule where
  /-- Day `n` from 1 to 365, February 29 never counted. -/
  | julian (n : Nat)
  /-- Day `n` from 0 to 365, February 29 counted. -/
  | dayOfYear (n : Nat)
  /-- Weekday `weekday` (0 is Sunday) of week `week` (5 is the last) of a month. -/
  | monthWeekDay (month week weekday : Nat)
  deriving Repr

/-- A change to or from summer time: its day and its time of day in local
seconds, which may pass midnight either way. -/
structure ChangeRule where
  day : DayRule
  time : Int
  deriving Repr

/-- A rule in the syntax of `TZ`: standard time, and summer time with its
start and end when there is one. -/
structure TzRule where
  std : String
  stdOffset : Int
  summer : Option (String × Int × ChangeRule × ChangeRule) := none
  deriving Repr

/-! ## Reading a rule -/

/-- A number of decimal digits from `lo` to `hi` and the text after it. -/
def tzNumber (lo hi : Nat) (cs : List Char) : Option (Nat × List Char) :=
  let ds := cs.takeWhile Char.isDigit
  let n := ds.foldl (fun n c => n * 10 + (c.toNat - '0'.toNat)) 0
  if ds.isEmpty || n < lo || n > hi then none else some (n, cs.drop ds.length)

/-- An abbreviation: at least three characters up to a digit, sign or
comma, or anything between `<` and `>`. -/
def tzName (cs : List Char) : Option (String × List Char) :=
  match cs with
  | [] => none
  | '<' :: rest =>
    let name := rest.takeWhile (· != '>')
    if name.length == rest.length then none else some (String.ofList name, rest.drop (name.length + 1))
  | _ =>
    let name := cs.takeWhile fun c => !(c.isDigit || c == ',' || c == '-' || c == '+')
    if name.length < 3 then none else some (String.ofList name, cs.drop name.length)

/-- A signed time `h[:mm[:ss]]` in seconds, hours up to a week, and the
text after it. -/
def tzOffset (cs : List Char) : Option (Int × List Char) := do
  let (neg, cs) := match cs with
    | '+' :: rest => (false, rest)
    | '-' :: rest => (true, rest)
    | _ => (false, cs)
  let sign (n : Nat) : Int := if neg then -(n : Int) else n
  let (h, cs) ← tzNumber 0 (24 * 7) cs
  match cs with
  | ':' :: rest =>
    let (m, cs) ← tzNumber 0 59 rest
    match cs with
    | ':' :: rest =>
      let (s, cs) ← tzNumber 0 59 rest
      return (sign (h * 3600 + m * 60 + s), cs)
    | _ => return (sign (h * 3600 + m * 60), cs)
  | _ => return (sign (h * 3600), cs)

/-- A change rule: its day, then `/` and a time, two o'clock when none is
given. -/
def tzChange (cs : List Char) : Option (ChangeRule × List Char) := do
  let (day, cs) ← match cs with
    | 'J' :: rest => (tzNumber 1 365 rest).map fun (n, r) => (DayRule.julian n, r)
    | 'M' :: rest => do
      let (m, r) ← tzNumber 1 12 rest
      let r ← match r with | '.' :: r => some r | _ => none
      let (w, r) ← tzNumber 1 5 r
      let r ← match r with | '.' :: r => some r | _ => none
      let (d, r) ← tzNumber 0 6 r
      pure (DayRule.monthWeekDay m w d, r)
    | _ => (tzNumber 0 365 cs).map fun (n, r) => (DayRule.dayOfYear n, r)
  match cs with
  | '/' :: rest =>
    let (time, cs) ← tzOffset rest
    return ({ day, time }, cs)
  | _ => return ({ day, time := 7200 }, cs)

/-- A rule read from its text; `none` when it is malformed. Summer time
without its own offset is an hour ahead of standard time, and summer time
without change rules changes on the second Sunday of March and the first
Sunday of November. -/
def TzRule.parse? (text : String) : Option TzRule := do
  let (std, cs) ← tzName text.toList
  let (off, cs) ← tzOffset cs
  let stdOffset := -off
  match cs with
  | [] | ',' :: _ => return { std, stdOffset }
  | _ =>
    let (dst, cs) ← tzName cs
    let (dstOffset, cs) ← match cs with
      | [] | ',' :: _ => some (stdOffset + 3600, cs)
      | _ => (tzOffset cs).map fun (o, r) => (-o, r)
    let cs := if cs.isEmpty then ",M3.2.0,M11.1.0".toList else cs
    let cs ← match cs with
      | ',' :: r | ';' :: r => some r
      | _ => none
    let (start, cs) ← tzChange cs
    let cs ← match cs with | ',' :: r => some r | _ => none
    let (stop, cs) ← tzChange cs
    if cs.isEmpty then return { std, stdOffset, summer := some (dst, dstOffset, start, stop) }
    else none

/-! ## Applying a rule -/

/-- The days of a month of a year. -/
def monthLength (month : Nat) (year : Int) : Nat :=
  if month == 2 && isLeapYear year then 29
  else daysBeforeMonth.getD month 365 - daysBeforeMonth.getD (month - 1) 0

/-- The day of the month, counted from zero, of a day rule's weekday in
the given week: later weeks while they stay in the month. -/
def weekDayOfMonth (month year : Int) (first : Int) : Nat → Int
  | 0 => first
  | k + 1 =>
    if first + 7 ≥ monthLength month.toNat year then first
    else weekDayOfMonth month year (first + 7) k

/-- The second of a year, in universal time, at which a change happens,
the local time being `offset` seconds east. -/
def ChangeRule.secondOfYear (r : ChangeRule) (year : Int) (offset : Int) : Int :=
  let day : Int := match r.day with
    | .julian n => (n - 1 : Int) + (if isLeapYear year && n ≥ 60 then 1 else 0)
    | .dayOfYear n => n
    | .monthWeekDay m w d =>
      -- the weekday of the first of the month, by Zeller's congruence
      let m1 : Int := (m + 9) % 12 + 1
      let yy0 : Int := if m ≤ 2 then year - 1 else year
      let yy1 := yy0.tdiv 100
      let yy2 := yy0.tmod 100
      let dow := ((26 * m1 - 2).tdiv 10 + 1 + yy2 + yy2.tdiv 4 + yy1.tdiv 4 - 2 * yy1).tmod 7
      let dow := if dow < 0 then dow + 7 else dow
      let first := if (d : Int) - dow < 0 then (d : Int) - dow + 7 else (d : Int) - dow
      weekDayOfMonth m year first (w - 1) + daysBeforeMonth.getD (m - 1) 0 +
        (if isLeapYear year && m > 2 then 1 else 0)
  day * 86400 + r.time - offset

/-- The abbreviation and offset a rule gives at an instant. -/
def TzRule.at (r : TzRule) (sec : Int) : String × Int :=
  match r.summer with
  | none => (r.std, r.stdOffset)
  | some (dst, dstOffset, start, stop) =>
    let (year, _, _) := dateOfDays (sec / 86400)
    let yearStart := daysBeforeYear year
    let ySec := ((sec / 86400) - yearStart) * 86400 + sec.tmod 86400
    let startSec := start.secondOfYear year r.stdOffset
    let stopSec := stop.secondOfYear year dstOffset
    if stopSec < startSec then
      -- summer time spans the turn of the year
      if ySec < stopSec || ySec ≥ startSec then (dst, dstOffset) else (r.std, r.stdOffset)
    else if ySec < startSec || ySec ≥ stopSec then (r.std, r.stdOffset) else (dst, dstOffset)
where
  /-- The day number of January 1 of a year, counted from 1970-01-01. -/
  daysBeforeYear (y : Int) : Int :=
    let y := y - 1
    365 * (y - 1969) + (y.fdiv 4 - 492) - (y.fdiv 100 - 19) + (y.fdiv 400 - 4)

/-! ## Zones -/

/-- A zone of the database: its kinds of local time, its changes as
instants with the kind changed to, and its rule after the last change. -/
structure ZoneRules where
  types : Array LocalTimeType
  changes : Array (Int × Nat)
  rule : String
  deriving Inhabited

/-- The index of the last change at or before `sec`, searched by halving
between `lo` and `hi`, when the change at `lo` is at or before it. -/
def lastChangeAtMost (changes : Array (Int × Nat)) (sec : Int) (lo hi : Nat) : Nat :=
  if h : lo + 1 < hi then
    let mid := (lo + hi) / 2
    if (changes.getD mid (0, 0)).1 ≤ sec then lastChangeAtMost changes sec mid hi
    else lastChangeAtMost changes sec lo mid
  else lo
termination_by hi - lo
decreasing_by all_goals omega

/-- The kind a zone is in before its first change: the first kind when no
change leads to it, else the last kind before the first change's that is
not summer time if that one is, else the first kind that is not summer
time, else the first. -/
def ZoneRules.firstKind (z : ZoneRules) : Nat :=
  if !(z.changes.any (·.2 == 0)) then 0
  else
    let beforeFirst : Option Nat := match z.changes[0]? with
      | some (_, k) =>
        if (z.types.getD k default).isDst then
          ((List.range k).reverse.find? fun i => !(z.types.getD i default).isDst)
        else none
      | none => none
    match beforeFirst with
    | some i => i
    | none => ((List.range z.types.size).find? fun i => !(z.types.getD i default).isDst).getD 0

/-- The abbreviation and offset in force in a zone at an instant. A zone
with no changes follows its rule at all times. -/
def ZoneRules.lookup (z : ZoneRules) (sec : Int) : String × Int :=
  let kind (i : Nat) : String × Int :=
    let t := z.types.getD i default
    (t.abbreviation, t.offset)
  let byRule (fallback : String × Int) : String × Int :=
    match TzRule.parse? z.rule with
    | some r => if z.rule.isEmpty then fallback else r.at sec
    | none => fallback
  if z.types.isEmpty then ("UTC", 0)
  else match z.changes[0]? with
    | none => byRule (kind 0)
    | some (first, _) =>
      if sec < first then kind z.firstKind
      else
        let i := lastChangeAtMost z.changes sec 0 z.changes.size
        let here := kind (z.changes.getD i (0, 0)).2
        if i + 1 == z.changes.size then byRule here else here

/-! ## Reading the table -/

/-- A signed base-36 number and the text after it. -/
def base36Prefix (cs : List Char) : Int × List Char :=
  let (neg, cs) := match cs with
    | '-' :: rest => (true, rest)
    | _ => (false, cs)
  let digit (c : Char) : Option Nat :=
    if c.isDigit then some (c.toNat - '0'.toNat)
    else if 'a' ≤ c && c ≤ 'z' then some (c.toNat - 'a'.toNat + 10)
    else none
  let ds := cs.takeWhile fun c => (digit c).isSome
  let n := ds.foldl (fun n c => n * 36 + (digit c).getD 0) 0
  (if neg then -(n : Int) else n, cs.drop ds.length)

/-- The changes of a record: each a base-36 gap from the previous instant, in quarter hours or,
marked by a `.`, in seconds, followed by the kind as a capital letter; at most `fuel` of them. -/
def readChanges : Nat → Int → List Char → List (Int × Nat)
  | 0, _, _ => []
  | _ + 1, _, [] => []
  | fuel + 1, prev, cs =>
    let (gap, rest) := base36Prefix cs
    match rest with
    | '.' :: k :: rest => (prev + gap, k.toNat - 'A'.toNat) :: readChanges fuel (prev + gap) rest
    | k :: rest =>
      (prev + 900 * gap, k.toNat - 'A'.toNat) :: readChanges fuel (prev + 900 * gap) rest
    | [] => []

/-- A kind of local time written `offset,flag,abbreviation`. -/
def readKind (text : String) : LocalTimeType :=
  match text.splitOn "," with
  | [off, dst, name] =>
    let offset := match off.toList with
      | '-' :: ds => -(((String.ofList ds).toNat?.getD 0 : Nat) : Int)
      | ds => (((String.ofList ds).toNat?.getD 0 : Nat) : Int)
    { offset, isDst := dst == "1", abbreviation := name }
  | _ => default

/-- The names and the zone of one record of the table. -/
def readRecord (record : String) : List String × ZoneRules :=
  match record.splitOn "|" with
  | [names, kinds, changes, rule] =>
    (names.splitOn " ",
     { types := ((kinds.splitOn " ").map readKind).toArray
       changes := (readChanges changes.length 0 changes.toList).toArray
       rule })
  | _ => ([], default)

/-- The path a zone name stands for: its parts between slashes, with empty
parts and `.` inside it passed over. A name whose last part is empty or
`.`, or that has a `..` anywhere or starts with a slash or backslash, names
no zone. -/
def zonePath? (name : String) : Option String :=
  let parts := name.splitOn "/"
  if name.isEmpty || (name.splitOn "..").length > 1 || name.startsWith "/" || name.startsWith "\\" then none
  else match parts.getLast? with
    | some last =>
      if last.isEmpty || last == "." then none
      else some ("/".intercalate (parts.filter fun p => !p.isEmpty && p != "."))
    | none => none

/-- The zone the database holds under a name. -/
def zoneRulesNamed? (name : String) : Option ZoneRules := do
  let path ← zonePath? name
  let record ← (zoneTableText.splitOn ";").find? fun r =>
    (((r.splitOn "|").headD "").splitOn " ").contains path
  return (readRecord record).2

/-- A moment seen in the zone of a name: universal time for the empty
name, for `UTC` and for a name the database does not hold, the local zone
for `Local`, and otherwise the database zone's abbreviation and offset at
the moment. -/
def Moment.inZoneNamed (t : Moment) (name : String) : Moment :=
  if name.isEmpty || name == "UTC" then { t with zone := .utc }
  else if name == "Local" then { t with zone := .system }
  else match zoneRulesNamed? name with
    | some z =>
      let (name, offset) := z.lookup t.seconds
      { t with zone := .fixed name offset }
    | none => { t with zone := .utc }

end CriticalCss.Clock

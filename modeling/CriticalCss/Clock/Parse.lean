import CriticalCss.Clock.Layout
import CriticalCss.Clock.Arithmetic
import CriticalCss.Text.Duration
/-!
# Reading moments by layouts

A text is read as a moment by a layout, the converse of writing: the
layout's literal text must be found in the text (a run of blanks matching
any run of blanks), and each piece reads its field. Numbers of one or two
digits are read where the piece allows either; names of months and weekdays
in any case; a fraction of a second may follow the seconds even when the
layout has none. Fields that are not read default to January, the first day
and midnight.

Hours, minutes, seconds and months out of their range, a day that the month
does not have, and a day of the year that disagrees with the month or day
are errors, and so is text left over. An offset sets a fixed zone, or the
local zone when it is zero; `Z` and `UTC` give universal time; another zone
name gives a fixed zone of that name and no offset (or the hours of
`GMT+3`), without moving the moment. Without any, the moment is in the
local zone.

## Main definitions

* `ParseFailure`: why a text is not a moment, with its message.
* `Moment.parse`: a text read as a moment by a layout.
-/

namespace CriticalCss.Clock

open CriticalCss.Text

/-- Why a text does not read as a moment by a layout: the piece of the
layout and the text where reading stopped, or a message of its own. -/
structure ParseFailure where
  /-- The whole layout. -/
  layout : String
  /-- The whole text. -/
  value : String
  /-- The piece of the layout that did not match. -/
  layoutElem : String := ""
  /-- The bytes of the text from where it did not match. -/
  valueElem : List UInt8 := []
  /-- A message of its own, which replaces the other two. -/
  message : String := ""
  deriving Repr

/-- The message of a failure to read a moment. -/
def ParseFailure.text (e : ParseFailure) : String :=
  if e.message.isEmpty then
    "parsing time " ++ durationQuote e.value ++ " as " ++ durationQuote e.layout ++
      ": cannot parse " ++ durationQuoteBytes e.valueElem ++ " as " ++ durationQuote e.layoutElem
  else "parsing time " ++ durationQuote e.value ++ e.message

/-! ## Reading pieces -/

/-- The bytes of a text after those it shares at the start with the bytes
of a character. -/
def afterSharedBytes (c : Char) (v : List Char) : List UInt8 :=
  let bs := (String.ofList v).toUTF8.toList
  bs.drop ((c.toString.toUTF8.toList.zip bs).takeWhile fun (a, b) => a == b).length

/-- The text after a literal prefix, a run of blanks in the prefix matching
any run of blanks; or the bytes of the text where it stopped matching, byte
by byte, so that a character that differs only in its last bytes stops
inside it. -/
def skipLiteral : Nat → List Char → List Char → Except (List UInt8) (List Char)
  | 0, _, v => .ok v
  | _ + 1, [], v => .ok v
  | fuel + 1, ' ' :: p, v =>
    match v with
    | c :: _ =>
      if c != ' ' then .error (String.ofList v).toUTF8.toList
      else skipLiteral fuel (p.dropWhile (· == ' ')) (v.dropWhile (· == ' '))
    | [] => skipLiteral fuel (p.dropWhile (· == ' ')) []
  | fuel + 1, c :: p, v =>
    match v with
    | d :: v' => if c == d then skipLiteral fuel p v' else .error (afterSharedBytes c v)
    | [] => .error []

/-- The value of a decimal digit. -/
def digitValue (c : Char) : Nat := c.toNat - '0'.toNat

/-- One or two digits (two when `fixed`) and the text after them. -/
def readNum (s : List Char) (fixed : Bool) : Option (Nat × List Char) :=
  match s with
  | a :: b :: rest =>
    if !a.isDigit then none
    else if b.isDigit then some (digitValue a * 10 + digitValue b, rest)
    else if fixed then none else some (digitValue a, b :: rest)
  | [a] => if a.isDigit && !fixed then some (digitValue a, []) else none
  | [] => none

/-- One to three digits (three when `fixed`) and the text after them. -/
def readNum3 (s : List Char) (fixed : Bool) : Option (Nat × List Char) :=
  let ds := (s.take 3).takeWhile Char.isDigit
  if ds.isEmpty || (fixed && ds.length != 3) then none
  else some (ds.foldl (fun n c => n * 10 + digitValue c) 0, s.drop ds.length)

/-- Whether two characters are equal, ASCII letters in either case. -/
def sameLetter (a b : Char) : Bool :=
  a == b || (a.isAlpha && b.isAlpha && a.toNat < 128 && b.toNat < 128 && a.toLower == b.toLower)

/-- The first name of a table that the text starts with, in any case: its
position and the text after it. -/
def lookupName (tab : List String) (val : List Char) : Option (Nat × List Char) :=
  let hit := (tab.zipIdx).find? fun (name, _) =>
    name.length ≤ val.length && (List.zipWith sameLetter name.toList val).all id
  hit.map fun (name, i) => (i, val.drop name.length)

/-- A signed decimal integer filling the whole text; no digits read as
zero, and a magnitude above 2^63 fails. -/
def readInt (s : List Char) : Option Int :=
  let (neg, ds) := match s with
    | '-' :: r => (true, r)
    | '+' :: r => (false, r)
    | r => (false, r)
  if !ds.all Char.isDigit then none
  else
    let n := ds.foldl (fun n c => n * 10 + digitValue c) 0
    if n > Nat.pow 2 63 then none else some (if neg then -(n : Int) else n)

/-- The nanoseconds of a fraction of `n` characters, its point first:
`none` when it does not read, and the range error for a negative one. -/
def readNanos (value : List Char) (n : Nat) : Option (Int × Option String) :=
  match value with
  | c :: _ =>
    if c != '.' && c != ',' then none
    else
      let n := min n 10
      (readInt ((value.take n).drop 1)).map fun ns =>
        if ns < 0 then (ns, some "fractional second") else (ns * Int.pow 10 (10 - n), none)
  | [] => none

/-- The length of a signed offset of hours from -23 to +23 at the start of
a text, zero when there is none. -/
def signedOffsetLength : List Char → Nat
  | s :: rest =>
    if s != '-' && s != '+' then 0
    else
      let ds := rest.takeWhile Char.isDigit
      if ds.isEmpty then 0
      else if ds.foldl (fun n c => n * 10 + digitValue c) 0 > 23 then 0
      else 1 + ds.length
  | [] => 0

/-- The length of a zone name at the start of a text: three upper-case
letters, four or five ending in `T`, `ChST`, `MeST`, `WITA`, `GMT` with an
optional offset of hours, or a bare offset of hours. -/
def zoneNameLength (value : List Char) : Option Nat :=
  if value.length < 3 then none
  else if value.take 4 == "ChST".toList || value.take 4 == "MeST".toList then some 4
  else if value.take 3 == "GMT".toList then
    some (if value.length == 3 then 3 else 3 + signedOffsetLength (value.drop 3))
  else if value.head? == some '+' || value.head? == some '-' then
    let n := signedOffsetLength value
    if n > 0 then some n else none
  else
    let upper := ((value.take 6).takeWhile fun c => 'A' ≤ c && c ≤ 'Z').length
    match upper with
    | 3 => some 3
    | 4 => if value.getD 3 ' ' == 'T' || value.take 4 == "WITA".toList then some 4 else none
    | 5 => if value.getD 4 ' ' == 'T' then some 5 else none
    | _ => none

/-! ## Reading a layout -/

/-- The fields read so far. -/
structure Reading where
  year : Int := 0
  month : Int := -1
  day : Int := -1
  yearDay : Int := -1
  hour : Int := 0
  minute : Int := 0
  second : Int := 0
  nanos : Int := 0
  /-- Whether `Z` or `UTC` was read. -/
  universal : Bool := false
  /-- The offset read, in seconds east. -/
  offset : Option Int := none
  /-- The zone name read. -/
  zoneName : String := ""
  am : Bool := false
  pm : Bool := false

/-- The outcome of reading one piece: the new fields and the rest of the
text, or a failure, either bad text or a field out of range with the text
after it. -/
inductive PieceResult where
  | ok (r : Reading) (rest : List Char)
  | bad
  | outOfRange (what : String) (rest : List Char)

/-- The names of the months. -/
def longMonthNames : List String :=
  ["January", "February", "March", "April", "May", "June", "July", "August", "September",
   "October", "November", "December"]

/-- The names of the weekdays. -/
def longDayNames : List String :=
  ["Sunday", "Monday", "Tuesday", "Wednesday", "Thursday", "Friday", "Saturday"]

/-- A numeric offset: a sign, hours, and minutes and seconds as the piece
has them, with colons where it has them. -/
def readOffset (r : Reading) (value : List Char) (colon minutes seconds : Bool) : PieceResult :=
  let parts : Option (Char × List Char × List Char × List Char × List Char) :=
    if colon && minutes && !seconds then
      if value.length < 6 || value.getD 3 ' ' != ':' then none
      else some (value.getD 0 ' ', (value.drop 1).take 2, (value.drop 4).take 2, ['0', '0'], value.drop 6)
    else if !minutes then
      if value.length < 3 then none
      else some (value.getD 0 ' ', (value.drop 1).take 2, ['0', '0'], ['0', '0'], value.drop 3)
    else if colon && seconds then
      if value.length < 9 || value.getD 3 ' ' != ':' || value.getD 6 ' ' != ':' then none
      else some (value.getD 0 ' ', (value.drop 1).take 2, (value.drop 4).take 2, (value.drop 7).take 2, value.drop 9)
    else if seconds then
      if value.length < 7 then none
      else some (value.getD 0 ' ', (value.drop 1).take 2, (value.drop 3).take 2, (value.drop 5).take 2, value.drop 7)
    else if value.length < 5 then none
    else some (value.getD 0 ' ', (value.drop 1).take 2, (value.drop 3).take 2, ['0', '0'], value.drop 5)
  match parts with
  | none => .bad
  | some (sign, h, m, s, rest) =>
    let hr := readNum h true
    let mm := if hr.isSome then readNum m true else none
    let ss := if mm.isSome then readNum s true else none
    let hv := (hr.map (·.1)).getD 0
    let mv := (mm.map (·.1)).getD 0
    let sv := (ss.map (·.1)).getD 0
    let range :=
      if sv > 60 then some "time zone offset second"
      else if mv > 60 then some "time zone offset minute"
      else if hv > 24 then some "time zone offset hour" else none
    let off : Int := ((hv * 60 + mv) * 60 + sv : Nat)
    match range with
    | some what => .outOfRange what rest
    | none =>
      if ss.isNone then .bad
      else if sign == '+' then .ok { r with offset := some off } rest
      else if sign == '-' then .ok { r with offset := some (-off) } rest
      else .bad

/-- Whether the next piece of a layout is a fraction of a second. -/
def nextIsFraction (layout : List LayoutPart) : Bool :=
  match layout.find? fun | .field _ => true | .text _ => false with
  | some (.field (.fraction ..)) => true
  | _ => false

/-- Reads one piece of a layout at the start of a text; `later` is the
layout after the piece. -/
def readPiece (r : Reading) (value : List Char) (later : List LayoutPart) : Field → PieceResult
  | .year =>
    if value.length < 2 then .bad
    else match readInt (value.take 2) with
      | some y => .ok { r with year := if y ≥ 69 then y + 1900 else y + 2000 } (value.drop 2)
      | none => .bad
  | .longYear =>
    if value.length < 4 || !(value.headD ' ').isDigit then .bad
    else match readInt (value.take 4) with
      | some y => .ok { r with year := y } (value.drop 4)
      | none => .bad
  | .month =>
    match lookupName (longMonthNames.map fun n => String.ofList (n.toList.take 3)) value with
    | some (i, rest) => .ok { r with month := i + 1 } rest
    | none => .bad
  | .longMonth =>
    match lookupName longMonthNames value with
    | some (i, rest) => .ok { r with month := i + 1 } rest
    | none => .bad
  | f@(.numMonth) | f@(.zeroMonth) =>
    match readNum value (f == .zeroMonth) with
    | some (m, rest) => if m == 0 || 12 < m then .outOfRange "month" rest else .ok { r with month := m } rest
    | none => .bad
  | .weekday =>
    match lookupName (longDayNames.map fun n => String.ofList (n.toList.take 3)) value with
    | some (_, rest) => .ok r rest
    | none => .bad
  | .longWeekday =>
    match lookupName longDayNames value with
    | some (_, rest) => .ok r rest
    | none => .bad
  | f@(.day) | f@(.underDay) | f@(.zeroDay) =>
    let value := if f == .underDay then (match value with | ' ' :: v => v | v => v) else value
    match readNum value (f == .zeroDay) with
    | some (d, rest) => .ok { r with day := d } rest
    | none => .bad
  | f@(.underYearDay) | f@(.zeroYearDay) =>
    let drop1 (v : List Char) := if f == .underYearDay then (match v with | ' ' :: w => w | w => w) else v
    match readNum3 (drop1 (drop1 value)) (f == .zeroYearDay) with
    | some (d, rest) => .ok { r with yearDay := d } rest
    | none => .bad
  | .hour =>
    match readNum value false with
    | some (h, rest) => if 24 ≤ h then .outOfRange "hour" rest else .ok { r with hour := h } rest
    | none => .bad
  | f@(.hour12) | f@(.zeroHour12) =>
    match readNum value (f == .zeroHour12) with
    | some (h, rest) => if 12 < h then .outOfRange "hour" rest else .ok { r with hour := h } rest
    | none => .bad
  | f@(.minute) | f@(.zeroMinute) =>
    match readNum value (f == .zeroMinute) with
    | some (m, rest) => if 60 ≤ m then .outOfRange "minute" rest else .ok { r with minute := m } rest
    | none => .bad
  | f@(.second) | f@(.zeroSecond) =>
    match readNum value (f == .zeroSecond) with
    | some (s, rest) =>
      if 60 ≤ s then .outOfRange "second" rest
      else
        let r := { r with second := s }
        match rest with
        | c :: d :: _ =>
          if (c == '.' || c == ',') && d.isDigit && !nextIsFraction later then
            let n := 1 + ((rest.drop 1).takeWhile Char.isDigit).length
            match readNanos rest n with
            | some (_, some what) => .outOfRange what (rest.drop n)
            | some (ns, none) => .ok { r with nanos := ns } (rest.drop n)
            | none => .bad
          else .ok r rest
        | _ => .ok r rest
    | none => .bad
  | .upperNoon =>
    match value with
    | 'P' :: 'M' :: rest => .ok { r with pm := true } rest
    | 'A' :: 'M' :: rest => .ok { r with am := true } rest
    | _ => .bad
  | .lowerNoon =>
    match value with
    | 'p' :: 'm' :: rest => .ok { r with pm := true } rest
    | 'a' :: 'm' :: rest => .ok { r with am := true } rest
    | _ => .bad
  | .offset iso colon minutes seconds =>
    match value with
    | 'Z' :: rest => if iso then .ok { r with universal := true } rest else readOffset r value colon minutes seconds
    | _ => readOffset r value colon minutes seconds
  | .zone =>
    if value.take 3 == "UTC".toList then .ok { r with universal := true } (value.drop 3)
    else match zoneNameLength value with
      | some n => .ok { r with zoneName := String.ofList (value.take n) } (value.drop n)
      | none => .bad
  | .fraction _ digits trim =>
    if !trim then
      if value.length < digits + 1 then .bad
      else match readNanos value (digits + 1) with
        | some (_, some what) => .outOfRange what (value.drop (digits + 1))
        | some (ns, none) => .ok { r with nanos := ns } (value.drop (digits + 1))
        | none => .bad
    else
      match value with
      | c :: d :: _ =>
        if (c == '.' || c == ',') && d.isDigit then
          let n := 1 + ((value.drop 1).takeWhile Char.isDigit).length
          match readNanos value n with
          | some (_, some what) => .outOfRange what (value.drop n)
          | some (ns, none) => .ok { r with nanos := ns } (value.drop n)
          | none => .bad
        else .ok r value
      | _ => .ok r value

/-- Reads the text by the pieces of a layout in order. -/
def readLayout (layout value : String) : List LayoutPart → Reading → List Char →
    Except ParseFailure Reading
  | [], r, v =>
    if v.isEmpty then .ok r
    else .error { layout, value, message := ": extra text: " ++ durationQuote (String.ofList v) }
  | .text lit :: rest, r, v =>
    match skipLiteral (lit.length + 1) lit.toList v with
    | .ok v => readLayout layout value rest r v
    | .error stop => .error { layout, value, layoutElem := lit, valueElem := stop }
  | .field f :: rest, r, v =>
    match readPiece r v rest f with
    | .ok r v => readLayout layout value rest r v
    | .outOfRange what after =>
      .error { layout, value, layoutElem := f.layoutText, valueElem := (String.ofList after).toUTF8.toList,
               message := ": " ++ what ++ " out of range" }
    | .bad => .error { layout, value, layoutElem := f.layoutText, valueElem := (String.ofList v).toUTF8.toList }

/-- The days of a month of a year. -/
def daysInMonth (month : Int) (year : Int) : Int :=
  if month == 2 then (if isLeapYear year then 29 else 28)
  else if month == 4 || month == 6 || month == 9 || month == 11 then 30 else 31

/-- The month and day of a day of the year, or the failure message. -/
def dateOfYearDay (year yday : Int) : Except String (Int × Int) :=
  let leap := isLeapYear year
  if leap && yday == 60 then .ok (2, 29)
  else
    let yday := if leap && yday > 60 then yday - 1 else yday
    if yday < 1 || yday > 365 then .error ": day-of-year out of range"
    else
      let before (m : Int) : Int := (daysBeforeMonth.getD (m - 1).toNat 365 : Nat)
      let m := (yday - 1) / 31 + 1
      let m := if before (m + 1) < yday then m + 1 else m
      .ok (m, yday - before m)

/-- A text read as a moment by a layout, in the local zone unless the text
names a zone or an offset. -/
def Moment.parse (layout value : String) : Except ParseFailure Moment := do
  let r ← readLayout layout value (parseLayout layout) {} value.toList
  let fail (msg : String) : ParseFailure := { layout, value, message := msg }
  let hour := if r.pm && r.hour < 12 then r.hour + 12 else if r.am && r.hour == 12 then 0 else r.hour
  let (month, day) ← if r.yearDay ≥ 0 then
      match dateOfYearDay r.year r.yearDay with
      | .error msg => throw (fail msg)
      | .ok (m, d) =>
        if r.month ≥ 0 && r.month != m then throw (fail ": day-of-year does not match month")
        else if r.day ≥ 0 && r.day != d then throw (fail ": day-of-year does not match day")
        else pure (m, d)
    else pure (if r.month < 0 then 1 else r.month, if r.day < 0 then 1 else r.day)
  if day < 1 || day > daysInMonth month r.year then throw (fail ": day out of range")
  let wall := daysOfDate r.year month day * 86400 + hour * 3600 + r.minute * 60 + r.second
  let nanos := r.nanos.toNat
  if r.universal then return { seconds := wall, nanos, zone := .utc }
  -- an offset of exactly one second west reads as no offset at all
  match r.offset.filter (· != -1) with
  | some off =>
    if off == 0 && (r.zoneName.isEmpty || r.zoneName == "UTC") then
      return { seconds := wall - off, nanos, zone := .system }
    else return { seconds := wall - off, nanos, zone := .fixed r.zoneName off }
  | none =>
    if r.zoneName.isEmpty then return { seconds := wall, nanos, zone := .system }
    else
      let off : Int :=
        if r.zoneName.length > 3 && r.zoneName.startsWith "GMT" then
          ((readInt (r.zoneName.toList.drop 3)).getD 0) * 3600
        else 0
      return { seconds := wall, nanos, zone := .fixed r.zoneName off }

end CriticalCss.Clock

import CriticalCss.Clock.Moment
/-!
# Layouts

A layout writes a moment by example: it is the text that the reference
moment Mon Jan 2 15:04:05 MST 2006 would be written as. Each piece of the
reference moment (`2006`, `01`, `Jan`, `15`, `PM`, `-0700`, `.000`, …) stands
for the matching field of the moment being written; everything else is
copied. Pieces are found from left to right, the first match at each place
winning, with the reference's own tie rules: `Jan` and `Mon` are pieces only
when no lower-case letter follows, a lone `1` is the month and a lone `2`
the day, and a run of `0` or `9` after a point or comma is a fraction of a
second only when no digit follows it.

Moments are written at their zone's offset: universal and local time have
offset zero and the abbreviation `UTC`, a fixed zone its own name, or its
offset when it has none.

## Main definitions

* `Field`: the pieces of a layout.
* `parseLayout`: a layout as literal text and pieces.
* `Moment.format`: a moment written by a layout.
* `Moment.rfc3339`: a moment as RFC 3339 text.
-/

namespace CriticalCss.Clock

/-- The pieces a layout may hold. -/
inductive Field where
  | longMonth | month | numMonth | zeroMonth
  | longWeekday | weekday
  | day | underDay | zeroDay | underYearDay | zeroYearDay
  | hour | hour12 | zeroHour12
  | minute | zeroMinute | second | zeroSecond
  | longYear | year
  | upperNoon | lowerNoon
  | zone
  /-- A numeric offset; `iso` writes `Z` for a zero offset, `colon` puts
  colons between the parts, `minutes` and `seconds` say which parts follow
  the hours. -/
  | offset (iso colon minutes seconds : Bool)
  /-- A fraction of a second of `digits` places after `sep`, the length of
  the run modulo 4096; `trim` drops trailing zeros, and the point with them
  when nothing is left. -/
  | fraction (sep : Char) (digits : Nat) (trim : Bool)
  deriving BEq, Repr

/-- A layout is literal text and pieces. -/
inductive LayoutPart where
  | text (s : String)
  | field (f : Field)
  deriving BEq, Repr

/-- Whether the text starts with a lower-case ASCII letter. -/
def startsLower : List Char → Bool
  | c :: _ => 'a' ≤ c && c ≤ 'z'
  | [] => false

/-- The piece at the start of the text and the text after it, if one starts
there. -/
def fieldAt (cs : List Char) : Option (Field × List Char) :=
  let lit (p : String) : Option (List Char) :=
    let pl := p.toList
    if pl.isPrefixOf cs then some (cs.drop pl.length) else none
  match cs with
  | 'J' :: _ =>
    match lit "January" with
    | some r => some (.longMonth, r)
    | none => match lit "Jan" with
      | some r => if startsLower r then none else some (.month, r)
      | none => none
  | 'M' :: _ =>
    match lit "Monday" with
    | some r => some (.longWeekday, r)
    | none => match lit "Mon" with
      | some r => if startsLower r then (lit "MST").map (.zone, ·) else some (.weekday, r)
      | none => (lit "MST").map (.zone, ·)
  | '0' :: d :: r =>
    if '1' ≤ d && d ≤ '6' then
      let f := match d with
        | '1' => Field.zeroMonth | '2' => .zeroDay | '3' => .zeroHour12
        | '4' => .zeroMinute | '5' => .zeroSecond | _ => .year
      some (f, r)
    else match d, r with
      | '0', '2' :: r => some (.zeroYearDay, r)
      | _, _ => none
  | '1' :: '5' :: r => some (.hour, r)
  | '1' :: r => some (.numMonth, r)
  | '2' :: r =>
    match lit "2006" with
    | some r => some (.longYear, r)
    | none => some (.day, r)
  | '_' :: '2' :: r =>
    if "006".toList.isPrefixOf r then none else some (.underDay, r)
  | '_' :: '_' :: '2' :: r => some (.underYearDay, r)
  | '3' :: r => some (.hour12, r)
  | '4' :: r => some (.minute, r)
  | '5' :: r => some (.second, r)
  | 'P' :: 'M' :: r => some (.upperNoon, r)
  | 'p' :: 'm' :: r => some (.lowerNoon, r)
  | '-' :: _ =>
    match lit "-070000" with
    | some r => some (.offset false false true true, r)
    | none => match lit "-07:00:00" with
      | some r => some (.offset false true true true, r)
      | none => match lit "-0700" with
        | some r => some (.offset false false true false, r)
        | none => match lit "-07:00" with
          | some r => some (.offset false true true false, r)
          | none => (lit "-07").map (.offset false false false false, ·)
  | 'Z' :: _ =>
    match lit "Z070000" with
    | some r => some (.offset true false true true, r)
    | none => match lit "Z07:00:00" with
      | some r => some (.offset true true true true, r)
      | none => match lit "Z0700" with
        | some r => some (.offset true false true false, r)
        | none => match lit "Z07:00" with
          | some r => some (.offset true true true false, r)
          | none => (lit "Z07").map (.offset true false false false, ·)
  | sep :: d :: r =>
    if (sep == '.' || sep == ',') && (d == '0' || d == '9') then
      let run := r.takeWhile (· == d)
      let rest := r.drop run.length
      -- the count of places is kept modulo 4096
      let digits := (run.length + 1) % 4096
      match rest with
      | c :: _ => if c.isDigit then none else some (.fraction sep digits (d == '9'), rest)
      | [] => some (.fraction sep digits (d == '9'), rest)
    else none
  | _ => none

/-- The layout read from left to right, literal characters gathered in
`lit` (reversed). -/
def parseLayoutFrom (lit : List Char) : List Char → List LayoutPart
  | [] => if lit.isEmpty then [] else [.text (String.ofList lit.reverse)]
  | c :: cs =>
    match fieldAt (c :: cs) with
    | some (f, rest) =>
      let tail := if _h : rest.length < (c :: cs).length then parseLayoutFrom [] rest else []
      (if lit.isEmpty then [] else [.text (String.ofList lit.reverse)]) ++ .field f :: tail
    | none => parseLayoutFrom (c :: lit) cs
  termination_by cs => cs.length
  decreasing_by all_goals simp only [List.length_cons] at *; omega

/-- A layout as literal text and pieces. -/
def parseLayout (layout : String) : List LayoutPart :=
  parseLayoutFrom [] layout.toList

/-- The decimal digits of `n`, padded with zeros to `width`. -/
def padded (width : Nat) (n : Nat) : String :=
  let s := toString n
  String.ofList (List.replicate (width - s.length) '0') ++ s

/-- An integer padded with zeros to `width`, its sign before the zeros. -/
def paddedInt (width : Nat) (n : Int) : String :=
  if n < 0 then "-" ++ padded width n.natAbs else padded width n.natAbs

/-- The fraction `nanos / 10^9` in `digits` places (at most nine) after
`sep`. A trimmed fraction drops its trailing zeros and then the separator
when nothing follows it; an untrimmed one of no places is the separator. -/
def fractionText (sep : Char) (digits : Nat) (trim : Bool) (nanos : Nat) : String :=
  if trim && (digits == 0 || nanos == 0) then ""
  else
    let all := (padded 9 nanos).toList.take digits
    if trim then
      let kept := (all.reverse.dropWhile (· == '0')).reverse
      if kept.isEmpty then "" else String.ofList (sep :: kept)
    else String.ofList (sep :: all)

/-- An offset in seconds as a sign and zero-padded hours, then minutes and
seconds as asked, separated by colons when asked. -/
def offsetText (offset : Int) (colon minutes seconds : Bool) : String :=
  let zone := offset.tdiv 60
  let sign := if zone < 0 then "-" else "+"
  -- the seconds keep their sign when the offset is less than a minute west
  let rest := if zone < 0 then -offset else offset
  let zone := zone.natAbs
  let sep := if colon then ":" else ""
  sign ++ padded 2 (zone / 60) ++ (if minutes then sep ++ padded 2 (zone % 60) else "") ++
    (if seconds then sep ++ paddedInt 2 (rest.tmod 60) else "")

/-- The abbreviation of a zone: `UTC` for universal and local time, a fixed
zone's name, or its offset when it has no name. -/
def Zone.abbreviation : Zone → String
  | .fixed n off => if n.isEmpty then offsetText off false true false else n
  | _ => "UTC"

/-- One piece of a layout, written for a moment in its zone. -/
def Field.render (t : Moment) (c : Civil) : Field → String
  | .longMonth => monthName c.month
  | .month => String.ofList ((monthName c.month).toList.take 3)
  | .numMonth => toString c.month
  | .zeroMonth => padded 2 c.month
  | .longWeekday => weekdayName c.weekday
  | .weekday => String.ofList ((weekdayName c.weekday).toList.take 3)
  | .day => toString c.day
  | .underDay => (if c.day < 10 then " " else "") ++ toString c.day
  | .zeroDay => padded 2 c.day
  | .underYearDay =>
    (if c.yearDay < 10 then "  " else if c.yearDay < 100 then " " else "") ++ toString c.yearDay
  | .zeroYearDay => padded 3 c.yearDay
  | .hour => padded 2 c.hour
  | .hour12 => toString (if c.hour % 12 == 0 then 12 else c.hour % 12)
  | .zeroHour12 => padded 2 (if c.hour % 12 == 0 then 12 else c.hour % 12)
  | .minute => toString c.minute
  | .zeroMinute => padded 2 c.minute
  | .second => toString c.second
  | .zeroSecond => padded 2 c.second
  | .longYear => paddedInt 4 c.year
  | .year => padded 2 (c.year.natAbs % 100)
  | .upperNoon => if c.hour ≥ 12 then "PM" else "AM"
  | .lowerNoon => if c.hour ≥ 12 then "pm" else "am"
  | .zone => t.zone.abbreviation
  | .offset iso colon minutes seconds =>
    if iso && t.zone.offset == 0 then "Z" else offsetText t.zone.offset colon minutes seconds
  | .fraction sep digits trim => fractionText sep digits trim t.nanos

/-- The text of a piece as a layout writes it. -/
def Field.layoutText : Field → String
  | .longMonth => "January"
  | .month => "Jan"
  | .numMonth => "1"
  | .zeroMonth => "01"
  | .longWeekday => "Monday"
  | .weekday => "Mon"
  | .day => "2"
  | .underDay => "_2"
  | .zeroDay => "02"
  | .underYearDay => "__2"
  | .zeroYearDay => "002"
  | .hour => "15"
  | .hour12 => "3"
  | .zeroHour12 => "03"
  | .minute => "4"
  | .zeroMinute => "04"
  | .second => "5"
  | .zeroSecond => "05"
  | .longYear => "2006"
  | .year => "06"
  | .upperNoon => "PM"
  | .lowerNoon => "pm"
  | .zone => "MST"
  | .offset iso colon minutes seconds =>
    let sep := if colon then ":" else ""
    (if iso then "Z07" else "-07") ++ (if minutes then sep ++ "00" else "") ++
      (if seconds then sep ++ "00" else "")
  | .fraction sep digits trim => String.ofList (sep :: List.replicate digits (if trim then '9' else '0'))

/-- A moment written by a layout. -/
def Moment.format (t : Moment) (layout : String) : String :=
  let c := t.civil
  String.join ((parseLayout layout).map fun
    | .text s => s
    | .field f => f.render t c)

/-- The default text of a moment, with nanoseconds only when there are some. -/
def Moment.text (t : Moment) : String :=
  t.format "2006-01-02 15:04:05.999999999 -0700 MST"

/-- The RFC 3339 text of a moment, or why it has none: a year outside 0 to
9999, or an offset of a whole day or more, which the format cannot hold. -/
def Moment.rfc3339 (t : Moment) : Except String String :=
  let y := t.civil.year
  if y < 0 || y > 9999 then .error "year outside of range [0,9999]"
  else if (t.zone.offset.tdiv 60).natAbs / 60 ≥ 24 then .error "timezone hour outside of range [0,23]"
  else .ok (t.format "2006-01-02T15:04:05.999999999Z07:00")

end CriticalCss.Clock

import CriticalCss.Text.Binary64
/-!
# Resolving plain scalars

A plain scalar's tag comes from its text:

* `""`, `~`, `null`, `Null`, `NULL` are null; `true`, `True`, `TRUE`,
  `false`, `False`, `FALSE` are booleans; `.inf`, `-.inf`, `+.inf` and `.nan`
  in three spellings are floats; `<<` merges a mapping.
* Text starting with a digit or a sign is a timestamp when it reads as one
  (`2001-12-14`, `2001-12-14t21:59:43.10-05:00`, `2001-12-14 21:59:43.10`),
  otherwise an integer when it reads as a 64-bit signed or unsigned integer
  with underscores left out (decimal, or with a `0x`, `0o`, `0b` or `0`
  prefix), otherwise a float when it is decimal digits with a point and an
  exponent.
* Text starting with `.` is a float when it reads as one.
* Everything else is a string.

A scalar with an explicit tag keeps that tag; when the tag is one of the
core tags its text must resolve to it, except that an integer is a float.

## Main definitions

* `shortTag`, `longTag`: the two spellings of the core tags.
* `Resolved`: the value of a resolved scalar.
* `resolve`: a scalar's tag and value.
* `isBase60Float`, `isOldBool`: texts that older readers take for numbers
  and booleans.
-/

namespace CriticalCss.Yaml

open CriticalCss.Text

/-- The prefix of the core tags. -/
def longTagPrefix : String := "tag:yaml.org,2002:"

/-- The core tags in their short spelling. -/
def nullTag : String := "!!null"
def boolTag : String := "!!bool"
def strTag : String := "!!str"
def intTag : String := "!!int"
def floatTag : String := "!!float"
def timestampTag : String := "!!timestamp"
def seqTag : String := "!!seq"
def mapTag : String := "!!map"
def binaryTag : String := "!!binary"
def mergeTag : String := "!!merge"

/-- The short spelling of a tag: `!!name` for a core tag. -/
def shortTag (tag : String) : String :=
  if tag.startsWith longTagPrefix then "!!" ++ (tag.drop longTagPrefix.length).toString else tag

/-- The long spelling of a tag. -/
def longTag (tag : String) : String :=
  if tag.startsWith "!!" then longTagPrefix ++ (tag.drop 2).toString else tag

/-- The value of a resolved scalar. -/
inductive Resolved where
  | null
  | bool (b : Bool)
  | int (n : Int)
  | uint (n : Nat)
  | float (x : Float)
  | str (s : String)
  | timestamp
  deriving Inhabited

/-- The scalars known by their whole text. -/
def knownScalars : List (String × String × Resolved) :=
  [("true", boolTag, .bool true), ("True", boolTag, .bool true), ("TRUE", boolTag, .bool true),
   ("false", boolTag, .bool false), ("False", boolTag, .bool false), ("FALSE", boolTag, .bool false),
   ("", nullTag, .null), ("~", nullTag, .null), ("null", nullTag, .null), ("Null", nullTag, .null),
   ("NULL", nullTag, .null),
   (".nan", floatTag, .float (0.0 / 0.0)), (".NaN", floatTag, .float (0.0 / 0.0)),
   (".NAN", floatTag, .float (0.0 / 0.0)),
   (".inf", floatTag, .float (1.0 / 0.0)), (".Inf", floatTag, .float (1.0 / 0.0)),
   (".INF", floatTag, .float (1.0 / 0.0)),
   ("+.inf", floatTag, .float (1.0 / 0.0)), ("+.Inf", floatTag, .float (1.0 / 0.0)),
   ("+.INF", floatTag, .float (1.0 / 0.0)),
   ("-.inf", floatTag, .float (-1.0 / 0.0)), ("-.Inf", floatTag, .float (-1.0 / 0.0)),
   ("-.INF", floatTag, .float (-1.0 / 0.0)),
   ("<<", mergeTag, .str "<<")]

/-- The kind of text a first character hints at: `M` for the known scalars,
`D` for digits, `S` for signs, `.` for floats, `N` for the empty text. -/
def resolveHint (s : String) : Option Char :=
  match s.toList with
  | [] => some 'N'
  | c :: _ =>
    if c == '+' || c == '-' then some 'S'
    else if c.isDigit then some 'D'
    else if "yYnNtTfFoO~".contains c then some 'M'
    else if c == '.' then some '.'
    else none

/-- The value of a digit in bases up to 36, or 36 for other characters. -/
def digitIn (c : Char) : Nat :=
  if c.isDigit then c.toNat - '0'.toNat
  else if 'a' ≤ c.toLower && c.toLower ≤ 'z' then c.toLower.toNat - 'a'.toNat + 10
  else 36

/-- The value of digits in a base, if all are digits of the base, there is
at least one, and the value is below `limit`. -/
def digitsIn (base limit : Nat) (cs : List Char) : Option Nat :=
  if cs.isEmpty || !cs.all (fun c => digitIn c < base) then none
  else
    let v := cs.foldl (fun acc c => acc * base + digitIn c) 0
    if v < limit then some v else none

/-- An unsigned integer with its base prefix: `0b`, `0o`, `0x` (each with at
least one digit after it) or a leading `0` for octal. -/
def unsignedBase0 (limit : Nat) (cs : List Char) : Option Nat :=
  match cs with
  | '0' :: p :: rest@(_ :: _) =>
    if p.toLower == 'b' then digitsIn 2 limit rest
    else if p.toLower == 'o' then digitsIn 8 limit rest
    else if p.toLower == 'x' then digitsIn 16 limit rest
    else if cs.length == 1 then some 0 else digitsIn 8 limit (cs.drop 1)
  | ['0'] => some 0
  | '0' :: rest => digitsIn 8 limit rest
  | _ => digitsIn 10 limit cs

/-- A signed 64-bit integer in a base, or with its base prefix when the base
is zero. -/
def signedIn (base : Nat) (s : List Char) : Option Int :=
  let (neg, cs) := match s with
    | '+' :: rest => (false, rest)
    | '-' :: rest => (true, rest)
    | _ => (false, s)
  let u := if base == 0 then unsignedBase0 (Nat.pow 2 64) cs else digitsIn base (Nat.pow 2 64) cs
  u.bind fun v =>
    if neg then (if v ≤ Nat.pow 2 63 then some (-(v : Int)) else none)
    else if v < Nat.pow 2 63 then some v else none

/-- An unsigned 64-bit integer in a base, or with its base prefix when the
base is zero. -/
def unsignedIn (base : Nat) (s : List Char) : Option Nat :=
  if base == 0 then unsignedBase0 (Nat.pow 2 64) s else digitsIn base (Nat.pow 2 64) s

/-- Whether text is decimal digits with an optional sign, point and exponent. -/
def isYamlFloat (cs : List Char) : Bool :=
  let cs := match cs with
    | '+' :: rest | '-' :: rest => rest
    | _ => cs
  let whole := cs.takeWhile Char.isDigit
  let rest := cs.drop whole.length
  let body : Option (List Char) :=
    if whole.isEmpty then
      match rest with
      | '.' :: r =>
        let f := r.takeWhile Char.isDigit
        if f.isEmpty then none else some (r.drop f.length)
      | _ => none
    else
      match rest with
      | '.' :: r => some (r.dropWhile Char.isDigit)
      | _ => some rest
  match body with
  | none => false
  | some [] => true
  | some (e :: r) =>
    if e == 'e' || e == 'E' then
      let r := match r with
        | '+' :: x | '-' :: x => x
        | _ => r
      !r.isEmpty && r.all Char.isDigit
    else false

/-- Reads one or two digits. -/
def twoDigits (cs : List Char) : Option (Nat × List Char) :=
  match cs with
  | a :: b :: rest =>
    if !a.isDigit then none
    else if b.isDigit then some ((a.toNat - 48) * 10 + (b.toNat - 48), rest)
    else some (a.toNat - 48, b :: rest)
  | [a] => if a.isDigit then some (a.toNat - 48, []) else none
  | [] => none

/-- Exactly two digits. -/
def fixedTwo (cs : List Char) : Option Nat :=
  match cs with
  | [a, b] => if a.isDigit && b.isDigit then some ((a.toNat - 48) * 10 + (b.toNat - 48)) else none
  | _ => none

/-- The days of a month of a year. -/
def daysInMonth (year : Nat) (month : Nat) : Nat :=
  if month == 2 then
    if year % 4 == 0 && (year % 100 != 0 || year % 400 == 0) then 29 else 28
  else if month == 4 || month == 6 || month == 9 || month == 11 then 30
  else 31

/-- Reads `H:M:S` with an optional fraction of a second. -/
def readClock (cs : List Char) : Option (List Char) := do
  let (h, cs) ← twoDigits cs
  if h ≥ 24 then none
  let cs ← match cs with | ':' :: r => some r | _ => none
  let (m, cs) ← twoDigits cs
  if m ≥ 60 then none
  let cs ← match cs with | ':' :: r => some r | _ => none
  let (s, cs) ← twoDigits cs
  if s ≥ 60 then none
  match cs with
  | '.' :: d :: r =>
    if d.isDigit then some ((d :: r).dropWhile Char.isDigit) else some cs
  | ',' :: d :: r =>
    if d.isDigit then some ((d :: r).dropWhile Char.isDigit) else some cs
  | _ => some cs

/-- Reads a zone: `Z`, or a sign, two digits, `:` and two digits. -/
def readZone (cs : List Char) : Option (List Char) :=
  match cs with
  | 'Z' :: r => some r
  | sgn :: h1 :: h2 :: ':' :: m1 :: m2 :: r =>
    if sgn != '+' && sgn != '-' then none
    else match fixedTwo [h1, h2], fixedTwo [m1, m2] with
      | some h, some m => if h > 24 || m > 60 then none else some r
      | _, _ => none
  | _ => none

/-- Whether text is a timestamp: a date `YYYY-M-D`, alone, or followed by
`T` or `t`, a clock and a zone, or by spaces and a clock. -/
def isTimestamp (s : String) : Bool :=
  let cs := s.toList
  let year := cs.takeWhile Char.isDigit
  if year.length != 4 then false
  else
    let date : Option (List Char) := do
      let cs ← match cs.drop 4 with | '-' :: r => some r | _ => none
      let (month, cs) ← twoDigits cs
      let cs ← match cs with | '-' :: r => some r | _ => none
      let (day, cs) ← twoDigits cs
      let y := year.foldl (fun acc c => acc * 10 + (c.toNat - 48)) 0
      if month < 1 || month > 12 || day < 1 || day > daysInMonth y month then none
      some cs
    match date with
    | none => false
    | some [] => true
    | some (c :: rest) =>
      if c == 'T' || c == 't' then
        match readClock rest >>= readZone with
        | some [] => true
        | _ => false
      else if c == ' ' then
        match readClock (rest.dropWhile (· == ' ')) with
        | some [] => true
        | _ => false
      else false

/-- Whether a tag is one that plain text can resolve to. The null tag is
among them, since a plain null scalar carries it once read. -/
def resolvableTag (tag : String) : Bool :=
  tag == "" || tag == nullTag || tag == strTag || tag == boolTag || tag == intTag || tag == floatTag ||
    tag == timestampTag

/-- The tag and value of text by its form, before checking an explicit tag. -/
def resolveText (tag : String) (s : String) : String × Resolved := Id.run do
  let some hint := resolveHint s | return (strTag, .str s)
  if tag == strTag || tag == binaryTag then return (strTag, .str s)
  if let some (_, t, v) := knownScalars.find? (·.1 == s) then return (t, v)
  if hint == '.' then
    if let some x := parseDecimal s then
      if isYamlFloat s.toList then return (floatTag, .float x)
  if hint == 'D' || hint == 'S' then
    if (tag == "" || tag == timestampTag) && isTimestamp s then return (timestampTag, .timestamp)
    let plain := s.toList.filter (· != '_')
    if let some n := signedIn 0 plain then return (intTag, .int n)
    if let some n := unsignedIn 0 plain then return (intTag, .uint n)
    if isYamlFloat plain then
      if let some x := parseDecimal (String.ofList plain) then return (floatTag, .float x)
    match plain with
    | '0' :: 'b' :: rest =>
      if let some n := signedIn 2 rest then return (intTag, .int n)
      if let some n := unsignedIn 2 rest then return (intTag, .uint n)
    | '-' :: '0' :: 'b' :: rest =>
      if let some n := signedIn 2 ('-' :: rest) then return (intTag, .int n)
    | '0' :: 'o' :: rest =>
      if let some n := signedIn 8 rest then return (intTag, .int n)
      if let some n := unsignedIn 8 rest then return (intTag, .uint n)
    | '-' :: '0' :: 'o' :: rest =>
      if let some n := signedIn 8 ('-' :: rest) then return (intTag, .int n)
    | _ => pure ()
  return (strTag, .str s)

/-- The tag and value of a scalar with a tag (empty for none): a tag outside
the core resolvable ones is kept with the text as value; otherwise the text
resolves by its form and must agree with the tag, an integer also being a
float. Fails with the reason when they disagree. -/
def resolve (tag : String) (s : String) : Except String (String × Resolved) :=
  let tag := shortTag tag
  if !resolvableTag tag then .ok (tag, .str s)
  else
    let (rtag, v) := resolveText tag s
    if tag == "" || tag == rtag || tag == strTag || tag == binaryTag then .ok (rtag, v)
    else if tag == floatTag && rtag == intTag then
      match v with
      | .int n => .ok (floatTag, .float (Float.ofInt n))
      | _ => .error ("cannot decode " ++ shortTag rtag ++ " `" ++ s ++ "` as a " ++ shortTag tag)
    else .error ("cannot decode " ++ shortTag rtag ++ " `" ++ s ++ "` as a " ++ shortTag tag)

/-- The tag plain text resolves to. -/
def resolveTag (s : String) : String := (resolveText "" s).1

/-- Whether text is a sexagesimal number such as `1:20` or `-3:25:45.5`. -/
def isBase60Float (s : String) : Bool :=
  let cs := s.toList
  match cs with
  | [] => false
  | c :: _ =>
    if !(c == '+' || c == '-' || c.isDigit) || !cs.contains ':' then false
    else
      let cs := match cs with
        | '+' :: r | '-' :: r => r
        | _ => cs
      match cs with
      | d :: rest =>
        if !d.isDigit then false
        else
          let rest := rest.dropWhile fun c => c.isDigit || c == '_'
          -- one or more groups `:` with one or two digits, the first below 6
          -- when there are two
          let rec groups (fuel : Nat) (cs : List Char) (seen : Bool) : Bool :=
            match fuel with
            | 0 => false
            | fuel + 1 =>
              match cs with
              | ':' :: a :: b :: r =>
                if a.isDigit && b.isDigit && a.toNat ≤ '5'.toNat then groups fuel r true
                else if a.isDigit then groups fuel (b :: r) true
                else false
              | [':', a] => a.isDigit
              | '.' :: r => seen && r.all fun c => c.isDigit || c == '_'
              | [] => seen
              | _ => false
          groups (rest.length + 1) rest false
      | [] => false

/-- The words that older readers take for booleans. -/
def isOldBool (s : String) : Bool :=
  ["y", "Y", "yes", "Yes", "YES", "on", "On", "ON", "n", "N", "no", "No", "NO", "off", "Off", "OFF"].contains s

end CriticalCss.Yaml

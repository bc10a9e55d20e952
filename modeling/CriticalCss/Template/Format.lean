import CriticalCss.Template.Value
import CriticalCss.Text.FloatText
import CriticalCss.Text.Duration
/-!
# Writing values

How values are written, by the verbs of a format string (`%v`, `%d`, `%q`,
`%x`, `%e`, …) with their flags (`+`, `-`, `#`, ` `, `0`), width and
precision, and by the plain printing of actions and `print`.

A value is written according to its kind: truth values by `%t` and `%v`,
integers in any base, as characters or as code points, binary64 numbers in
the decimal, exponent and hexadecimal forms, texts as they are, quoted or in
hexadecimal. Moments, months, weekdays, durations and the zone are written
by their names for the verbs that take text (`%v`, `%s`, `%q`, `%x`, `%X`)
and as numbers or records otherwise. Lists are written `[a b c]`, maps
`map[k:v …]` sorted by key, records `{a b}`, `{Name:a …}` with `%+v`, and
all of them in the syntax of the source language with `%#v`.

A verb that does not fit its value is written `%!d(string=abc)`, a missing
value `%!d(MISSING)`, a bad argument index `%!d(BADINDEX)`, a format that
ends inside a verb `%!(NOVERB)`, and values left over are listed after
`%!(EXTRA …)`.

## Main definitions

* `Spec`: the flags, width and precision of a verb.
* `printArg`: one value written by one verb.
* `sprint`, `sprintln`, `sprintf`: values written together.
* `Value.render`: the printed form of a value.
-/

namespace CriticalCss.Template

open CriticalCss.Clock
open CriticalCss.Text

/-- The flags, width and precision of a verb. `plusV` and `sharpV` are the
`+` and `#` flags of a `%v`. -/
structure Spec where
  plus : Bool := false
  minus : Bool := false
  sharp : Bool := false
  space : Bool := false
  zero : Bool := false
  plusV : Bool := false
  sharpV : Bool := false
  width : Option Nat := none
  prec : Option Nat := none

namespace Spec

/-- `n` characters of padding: zeros when padding with zeros on the left,
blanks otherwise. -/
def fill (s : Spec) (n : Nat) : String :=
  String.ofList (List.replicate n (if s.zero && !s.minus then '0' else ' '))

/-- Text padded to the width, on the left unless `-` is given. -/
def pad (s : Spec) (text : String) : String :=
  match s.width with
  | none => text
  | some w =>
    let n := text.length
    if w ≤ n then text
    else if s.minus then text ++ s.fill (w - n) else s.fill (w - n) ++ text

/-- Text padded to the width with blanks only. -/
def padBlank (s : Spec) (text : String) : String :=
  { s with zero := false }.pad text

/-- Text cut to the precision, counted in characters. -/
def truncate (s : Spec) (text : String) : String :=
  match s.prec with
  | some p => String.ofList (text.toList.take p)
  | none => text

end Spec

/-- The digits of a number in a base, in either case. -/
def digitChars (upper : Bool) (base n : Nat) : List Char :=
  (Nat.toDigits base n).map fun c => if upper then c.toUpper else c

/-- An integer of magnitude `u` in a base, with the sign, prefix, leading
zeros and padding the flags ask for. -/
def fmtInteger (s : Spec) (neg : Bool) (u base : Nat) (verb : Char) (upper : Bool) : String :=
  if s.prec == some 0 && u == 0 then String.ofList (List.replicate (s.width.getD 0) ' ')
  else
    let prec : Nat := match s.prec with
      | some p => p
      | none =>
        match s.width with
        | some w => if s.zero && !s.minus then (if neg || s.plus || s.space then w - 1 else w) else 0
        | none => 0
    let ds := digitChars upper base u
    let ds := List.replicate (prec - ds.length) '0' ++ ds
    let pre :=
      if s.sharp then
        match base with
        | 2 => "0b"
        | 8 => if ds.head? == some '0' then "" else "0"
        | 16 => if upper then "0X" else "0x"
        | _ => ""
      else ""
    let pre := (if verb == 'O' then "0o" else "") ++ pre
    let sign := if neg then "-" else if s.plus then "+" else if s.space then " " else ""
    s.padBlank (sign ++ pre ++ String.ofList ds)

/-- The character of a code point; U+FFFD for one that is not a character. -/
def runeOf (u : Nat) : Char :=
  if u > 0x10FFFF || (0xD800 ≤ u && u ≤ 0xDFFF) then '�' else Char.ofNat u

/-- A code point as `U+0041`, with the character after it for `#`. -/
def fmtUnicode (s : Spec) (u : Nat) : String :=
  let prec := match s.prec with
    | some p => if p > 4 then p else 4
    | none => 4
  let hex := digitChars true 16 u
  let hex := List.replicate (prec - hex.length) '0' ++ hex
  let valid := u ≤ 0x10FFFF && !(0xD800 ≤ u && u ≤ 0xDFFF)
  let tail := if s.sharp && valid && isPrintable (Char.ofNat u) then " '" ++ (Char.ofNat u).toString ++ "'" else ""
  s.padBlank ("U+" ++ String.ofList hex ++ tail)

/-- Bytes in hexadecimal, two digits a byte, at most `prec` bytes; `#`
adds `0x`, and a blank flag separates the bytes. -/
def fmtHexBytes (s : Spec) (bytes : List UInt8) (upper : Bool) : String :=
  let bytes := match s.prec with
    | some p => bytes.take p
    | none => bytes
  let n := bytes.length
  if n == 0 then s.fill (s.width.getD 0)
  else
    let x := if upper then "0X" else "0x"
    let width := if s.space then (if s.sharp then 4 * n else 2 * n) + (n - 1)
      else if s.sharp then 2 * n + 2 else 2 * n
    let hexByte (b : UInt8) : String := String.ofList (digitChars upper 16 (b.toNat / 16) ++ digitChars upper 16 (b.toNat % 16))
    let body := (if s.sharp then x else "") ++
      String.join (bytes.zipIdx.map fun (b, i) =>
        (if s.space && i > 0 then " " ++ (if s.sharp then x else "") else "") ++ hexByte b)
    let fillN := match s.width with
      | some w => w - width
      | none => 0
    if s.minus then body ++ s.fill fillN else s.fill fillN ++ body

/-- A text quoted: between backquotes for `#` when it can be, with only
ASCII characters for `+`, and in double quotes otherwise. -/
def fmtQuoted (s : Spec) (text : String) : String :=
  let t := s.truncate text
  if s.sharp && canBackquote t then s.pad ("\x60" ++ t ++ "\x60")
  else s.pad (if s.plus then quoteAscii t else quote t)

/-- Bytes quoted as `fmtQuoted` quotes text, cut to the precision in
characters; stray bytes are written as `\x` escapes. -/
def fmtQuotedBytes (s : Spec) (data : List UInt8) : String :=
  let runes := utf8Runes data
  let runes := match s.prec with
    | some p => runes.take p
    | none => runes
  let t := runes.flatMap (·.2)
  if utf8Valid t then fmtQuoted { s with prec := none } (decodeLossy t)
  else s.pad (quoteBytes s.plus t)

/-- The digits a `#` flag adds to a written number: a point, and zeros up
to the precision for the `g` forms. -/
def sharpDigits (verb : Char) (prec : Option Nat) (body : List Char) : List Char := Id.run do
  let mut digits : Int := 0
  if verb == 'v' || verb == 'g' || verb == 'G' || verb == 'x' then
    digits := match prec with
      | some p => p
      | none => 6
  let mut num : List Char := []
  let mut tail : List Char := []
  let mut hasPoint := false
  let mut sawNonzero := false
  let mut rest := body
  for _ in [0:body.length] do
    match rest with
    | [] => break
    | c :: more =>
      if c == '.' then
        hasPoint := true
        num := num ++ [c]
        rest := more
      else if c == 'p' || c == 'P' || ((c == 'e' || c == 'E') && verb != 'x' && verb != 'X') then
        tail := rest
        rest := []
      else
        if c != '0' then sawNonzero := true
        if sawNonzero then digits := digits - 1
        num := num ++ [c]
        rest := more
  if !hasPoint then
    if num == ['0'] then digits := digits - 1
    num := num ++ ['.']
  num := num ++ List.replicate digits.toNat '0'
  return num ++ tail

/-- A binary64 number by a verb: `prec` is the verb's own precision when
none is given. -/
def fmtFloatWith (s : Spec) (x : Float) (verb : Char) (prec : Option Nat) : String :=
  let prec := if s.prec.isSome then s.prec else prec
  let verb := if verb == 'F' then 'f' else verb
  let num := formatFloat x verb prec
  let (sign, body) : Char × List Char := match num.toList with
    | '-' :: r => ('-', r)
    | '+' :: r => ('+', r)
    | r => ('+', r)
  let sign := if s.space && sign == '+' && !s.plus then ' ' else sign
  if body.head? == some 'I' || body.head? == some 'N' then
    let text := if body.head? == some 'N' && !s.space && !s.plus then String.ofList body
      else String.ofList (sign :: body)
    s.padBlank text
  else
    let body := if s.sharp && verb != 'b' then sharpDigits verb prec body else body
    if s.plus || sign != '+' then
      match s.width with
      | some w =>
        if s.zero && !s.minus && w > body.length + 1 then
          sign.toString ++ s.fill (w - (body.length + 1)) ++ String.ofList body
        else s.pad (String.ofList (sign :: body))
      | none => String.ofList (sign :: body)
    else s.pad (String.ofList body)

/-- The precision a float verb has by default, or `none` when the verb does
not write numbers. -/
def floatVerb? (verb : Char) : Option (Char × Option Nat) :=
  match verb with
  | 'v' => some ('g', none)
  | 'b' | 'g' | 'G' | 'x' | 'X' => some (verb, none)
  | 'f' | 'F' | 'e' | 'E' => some (verb, some 6)
  | _ => none

/-- What a value has for the verbs that take text: the names of moments,
months, weekdays, durations and the zone. -/
def Value.stringer? : Value → Option String
  | .moment t => some t.text
  | .month m => some (monthName m)
  | .weekday d => some (weekdayName d)
  | .duration ns => some (durationText ns)
  | .location z => some z.name
  | _ => Option.none

/-- A zone in the syntax of the source language: the universal and local
zones by their names, any other by the name it was given. -/
def zoneSyntax : Zone → String
  | .utc => "time.UTC"
  | .system => "time.Local"
  | .fixed n _ => "time.Location(" ++ durationQuote n ++ ")"

/-- A moment in the syntax of the source language. -/
def goSyntaxOf (t : Moment) : String :=
  let c := t.civil
  "time.Date(" ++ toString c.year ++ ", time." ++ monthName c.month ++ ", " ++ toString c.day ++ ", " ++
    toString c.hour ++ ", " ++ toString c.minute ++ ", " ++ toString c.second ++ ", " ++
    toString t.nanos ++ ", " ++ zoneSyntax t.zone ++ ")"

/-- Seconds from the first day of year one to the epoch. -/
def secondsToEpoch : Int := 62135596800

mutual

/-- A value written by a verb at the top of a format. `erroring` is set
while writing the value of a verb that did not fit, where names are not
used. -/
def printArg (st : Store) : Nat → Spec → Bool → Char → Value → String
  | 0, _, _, _, _ => ""
  | fuel + 1, s, erroring, verb, v =>
    match v with
    | .none => if verb == 'T' || verb == 'v' then s.pad "<nil>" else "%!" ++ verb.toString ++ "(<nil>)"
    | _ =>
      if verb == 'T' then s.pad (s.truncate v.typeName)
      else if verb == 'p' then
        match v with
        | .map .. | .list .. => s.pad "0xc000010000"
        | _ => badVerb st fuel s verb v
      else
        match v with
        | .bool _ | .float _ | .complex .. | .int _ | .int64 _ | .uint8 _ | .str _ | .bytes _ =>
          printValue st fuel s erroring verb v 0
        | _ =>
          match handleMethods s erroring verb v with
          | some out => out
          | none => printValue st fuel s erroring verb v 0
termination_by fuel => (fuel, 0)

/-- A value written through its names when the verb takes text, or in the
syntax of the source language for `%#v`; `none` when neither applies. -/
def handleMethods (s : Spec) (erroring : Bool) (verb : Char) (v : Value) : Option String :=
  if erroring then none
  else if s.sharpV then
    match v with
    | .moment t => some (s.pad (s.truncate (goSyntaxOf t)))
    | _ => none
  else if verb == 'v' || verb == 's' || verb == 'x' || verb == 'X' || verb == 'q' then
    v.stringer?.map fun text => fmtText s verb text
  else none

/-- A text by a verb. -/
def fmtText (s : Spec) (verb : Char) (text : String) : String :=
  match verb with
  | 'v' => if s.sharpV then fmtQuoted s text else s.pad (s.truncate text)
  | 's' => s.pad (s.truncate text)
  | 'x' => fmtHexBytes s text.toUTF8.toList false
  | 'X' => fmtHexBytes s text.toUTF8.toList true
  | 'q' => fmtQuoted s text
  | _ => "%!" ++ verb.toString ++ "(string=" ++ s.pad (s.truncate text) ++ ")"

/-- A value that does not fit its verb: `%!verb(type=value)`. -/
def badVerb (st : Store) (fuel : Nat) (s : Spec) (verb : Char) (v : Value) : String :=
  "%!" ++ verb.toString ++ "(" ++ v.typeName ++ "=" ++ printArg st fuel s true 'v' v ++ ")"
termination_by (fuel, 1)

/-- A value written by a verb by its kind, `depth` levels inside lists,
maps and records. -/
def printValue (st : Store) : Nat → Spec → Bool → Char → Value → Nat → String
  | 0, _, _, _, _, _ => ""
  | fuel + 1, s, erroring, verb, v, depth =>
    let inner := if depth > 0 then handleMethods s erroring verb v else none
    match inner with
    | some out => out
    | none =>
      let bad := fun (_ : Unit) => badVerb st fuel s verb v
      let integer (neg : Bool) (u : Nat) : String :=
        match verb with
        | 'v' => if s.sharpV && !neg && v matches .uint8 _ then fmtInteger { s with sharp := true } neg u 16 verb false
          else fmtInteger s neg u 10 verb false
        | 'd' => fmtInteger s neg u 10 verb false
        | 'b' => fmtInteger s neg u 2 verb false
        | 'o' | 'O' => fmtInteger s neg u 8 verb false
        | 'x' => fmtInteger s neg u 16 verb false
        | 'X' => fmtInteger s neg u 16 verb true
        | 'c' => s.pad (runeOf (if neg then Nat.pow 2 64 - u else u)).toString
        | 'q' =>
          let r := runeOf (if neg then Nat.pow 2 64 - u else u)
          s.pad (quoteRune s.plus r)
        | 'U' => fmtUnicode s (if neg then Nat.pow 2 64 - u else u)
        | _ => bad ()
      let signed (n : Int) : String := integer (n < 0) n.natAbs
      match v with
      | .none =>
        if depth == 0 then "<invalid reflect.Value>"
        else if s.sharpV then "interface \x7b\x7d(nil)" else "<nil>"
      | .bool b =>
        if verb == 't' || verb == 'v' then s.pad (if b then "true" else "false") else bad ()
      | .int n | .int64 n | .duration n => signed n
      | .month m => signed m
      | .weekday d => signed d
      | .uint8 n => integer false n
      | .float x =>
        match floatVerb? verb with
        | some (f, p) => fmtFloatWith s x f p
        | none => bad ()
      | .complex re im =>
        match floatVerb? verb with
        | some (f, p) =>
          "(" ++ fmtFloatWith s re f p ++ fmtFloatWith { s with plus := true } im f p ++ "i)"
        | none => bad ()
      | .str text =>
        match verb with
        | 'v' | 's' | 'x' | 'X' | 'q' => fmtText s verb text
        | _ => bad ()
      | .bytes data =>
        match verb with
        | 'x' => fmtHexBytes s data false
        | 'X' => fmtHexBytes s data true
        | 'q' => fmtQuotedBytes s data
        | 'v' => if s.sharpV then fmtQuotedBytes s data else fmtText s verb (decodeLossy data)
        | 's' => fmtText s verb (decodeLossy data)
        | _ => bad ()
      | .moment t =>
        let named := s.plusV || s.sharpV
        let wall := integer false t.nanos
        let ext := signed (t.seconds + secondsToEpoch)
        let loc := match verb with
          | 'v' => if s.sharpV then "(*time.Location)(nil)" else s.pad "<nil>"
          | 'b' | 'o' | 'd' | 'x' | 'X' => fmtInteger { s with sharp := s.sharp || verb == 'd' } false 0
              (if verb == 'b' then 2 else if verb == 'o' then 8 else if verb == 'd' then 10 else 16) verb (verb == 'X')
          | _ => "%!" ++ verb.toString ++ "(*time.Location=<nil>)"
        let wall := if s.sharpV then "0x" ++ String.ofList (digitChars false 16 t.nanos) else wall
        let sep := if s.sharpV then ", " else " "
        (if s.sharpV then "time.Time" else "") ++ "\x7b" ++ (if named then "wall:" else "") ++ wall ++ sep ++
          (if named then "ext:" else "") ++ ext ++ sep ++ (if named then "loc:" else "") ++ loc ++ "\x7d"
      | .location z => s.pad z.name
      | .record name fields =>
        (if s.sharpV then name else "") ++ "\x7b" ++
          printFields st fuel s erroring verb (depth + 1) fields ++ "\x7d"
      | .list elem items isNil _ =>
        if s.sharpV then
          if isNil then v.typeName ++ "(nil)"
          else v.typeName ++ "\x7b" ++ printItems st fuel s erroring verb (depth + 1) elem ", " items ++ "\x7d"
        else "[" ++ printItems st fuel s erroring verb (depth + 1) elem " " items ++ "]"
      | .map elem ref =>
        if s.sharpV then
          if ref.isNone then v.typeName ++ "(nil)"
          else v.typeName ++ "\x7b" ++ printEntries st fuel s erroring verb (depth + 1) elem ", " (st.entries ref) ++ "\x7d"
        else "map[" ++ printEntries st fuel s erroring verb (depth + 1) elem " " (st.entries ref) ++ "]"
termination_by fuel => (fuel, 0)

/-- The fields of a record, with their names for `%+v` and `%#v`. -/
def printFields (st : Store) (fuel : Nat) (s : Spec) (erroring : Bool) (verb : Char) (depth : Nat) :
    List (String × Value) → String
  | [] => ""
  | (name, v) :: rest =>
    (if s.plusV || s.sharpV then name ++ ":" else "") ++ printValue st fuel s erroring verb v depth ++
      (if rest.isEmpty then "" else (if s.sharpV then ", " else " ") ++ printFields st fuel s erroring verb depth rest)
termination_by fields => (fuel, fields.length + 1)

/-- The elements of a list with a separator between them. -/
def printItems (st : Store) (fuel : Nat) (s : Spec) (erroring : Bool) (verb : Char) (depth : Nat)
    (elem : ValueType) (sep : String) : List Value → String
  | [] => ""
  | v :: rest =>
    printElement st fuel s erroring verb depth elem v ++
      (if rest.isEmpty then "" else sep ++ printItems st fuel s erroring verb depth elem sep rest)
termination_by items => (fuel, items.length + 2)

/-- The entries of a map, `key:value`, with a separator between them. -/
def printEntries (st : Store) (fuel : Nat) (s : Spec) (erroring : Bool) (verb : Char) (depth : Nat)
    (elem : ValueType) (sep : String) : List (String × Value) → String
  | [] => ""
  | (k, v) :: rest =>
    printValue st fuel s erroring verb (.str k) depth ++ ":" ++ printElement st fuel s erroring verb depth elem v ++
      (if rest.isEmpty then "" else sep ++ printEntries st fuel s erroring verb depth elem sep rest)
termination_by entries => (fuel, entries.length + 2)

/-- An element of a list or map; nothing in an element of any type is
written `<nil>`. -/
def printElement (st : Store) (fuel : Nat) (s : Spec) (erroring : Bool) (verb : Char) (depth : Nat)
    (elem : ValueType) (v : Value) : String :=
  match v with
  | .none => if s.sharpV then elem.name ++ "(nil)" else "<nil>"
  | _ => printValue st fuel s erroring verb v depth
termination_by (fuel, 1)

end

/-- How deep values are written inside one another. -/
def printDepth : Nat := 10000

/-- The printed form of a value, as `%v` writes it. -/
def Value.render (st : Store) (v : Value) : String :=
  printArg st printDepth {} false 'v' v

/-- Bytes cut to the precision and padded to the width, both counted in
characters. -/
def Spec.padBytes (s : Spec) (data : List UInt8) : List UInt8 :=
  let runes := utf8Runes data
  let runes := match s.prec with
    | some p => runes.take p
    | none => runes
  let body := runes.flatMap (·.2)
  match s.width with
  | none => body
  | some w =>
    let n := runes.length
    if w ≤ n then body
    else if s.minus then body ++ (s.fill (w - n)).toUTF8.toList
    else (s.fill (w - n)).toUTF8.toList ++ body

/-- A value written by a verb at the top of a format, as bytes. A text that
is not well-formed UTF-8 keeps its bytes where it is written as it is: by
`%s`, by `%v`, and inside the report of a verb that does not fit it. -/
def printArgBytes (st : Store) (s : Spec) (verb : Char) (v : Value) : List UInt8 :=
  let printed := (printArg st printDepth s false verb v).toUTF8.toList
  match v with
  | .bytes data =>
    if verb == 's' || (verb == 'v' && !s.sharpV) then s.padBytes data
    else if verb == 'x' || verb == 'X' || verb == 'q' || verb == 'T' || verb == 'v' then printed
    else ("%!" ++ verb.toString ++ "(string=").toUTF8.toList ++ s.padBytes data ++ ")".toUTF8.toList
  | _ => printed

/-- The printed form of a value as bytes: a text's own bytes, or what
`Value.render` writes. -/
def Value.renderBytes (st : Store) (v : Value) : List UInt8 :=
  match v with
  | .bytes data => data
  | _ => (v.render st).toUTF8.toList

/-- Whether a value is a text. -/
def Value.isText : Value → Bool
  | .str _ | .bytes _ => true
  | _ => false

/-- Values printed together, with a blank between two neighbours when
neither is a text. -/
def sprint (st : Store) (vs : List Value) : List UInt8 :=
  let rec go : Bool → Bool → List Value → List UInt8
    | _, _, [] => []
    | first, prevString, v :: rest =>
      (if !first && !v.isText && !prevString then [0x20] else []) ++ v.renderBytes st ++
        go false v.isText rest
  go true false vs

/-- Values printed with blanks between them and a line feed after. -/
def sprintln (st : Store) (vs : List Value) : List UInt8 :=
  [0x20].intercalate (vs.map (Value.renderBytes st)) ++ [0x0a]

/-- Whether a number is too large for a width or precision. -/
def tooLarge (n : Nat) : Bool := n > 1000000

/-- The number at the start of a format: its value if there is one, and the
text after it; a number that grows too large takes the rest of the format. -/
def parseNum (cs : List Char) : Option Nat × List Char :=
  let rec go (n : Nat) (seen : Bool) : List Char → Option Nat × List Char
    | [] => (if seen then some n else none, [])
    | c :: rest =>
      if c.isDigit then
        if tooLarge n then (none, [])
        else go (n * 10 + (c.toNat - '0'.toNat)) true rest
      else (if seen then some n else none, c :: rest)
  go 0 false cs

/-- An argument index `[n]` at the start of a format: the index counted
from zero if it is well formed, and the text after it. -/
def parseArgIndex (cs : List Char) : Option Nat × List Char :=
  if cs.length < 3 then (none, cs.drop 1)
  else
    match (cs.drop 1).idxOf? ']' with
    | some i =>
      let inside := (cs.drop 1).take i
      let after := cs.drop (i + 2)
      if inside.isEmpty || !inside.all Char.isDigit then (none, after)
      else
        match parseNum inside with
        | (some n, []) => (if n == 0 then some (Nat.pow 2 64) else some (n - 1), after)
        | _ => (none, after)
    | none => (none, cs.drop 1)

/-- The state of writing a format: the arguments, the next one to take,
whether an index reordered them, and whether the last index was good. -/
structure FormatState where
  args : Array Value
  argNum : Nat := 0
  reordered : Bool := false
  goodArgNum : Bool := true

/-- An argument index at the start of the text, if there is one: the next
argument, the text after it, and whether an index was read. -/
def FormatState.argNumber (fs : FormatState) (cs : List Char) : FormatState × List Char × Bool :=
  match cs with
  | '[' :: _ =>
    let fs := { fs with reordered := true }
    let (idx, rest) := parseArgIndex cs
    match idx with
    | some i =>
      if i < fs.args.size then ({ fs with argNum := i }, rest, true)
      else ({ fs with goodArgNum := false }, rest, true)
    | none => ({ fs with goodArgNum := false }, rest, false)
  | _ => (fs, cs, false)

/-- An argument taken as a width or precision: its value when it is an
integer that is not too large. -/
def FormatState.intArg (fs : FormatState) : FormatState × Option Int :=
  match fs.args[fs.argNum]? with
  | some v =>
    let fs := { fs with argNum := fs.argNum + 1 }
    match v.int? with
    | some n => if tooLarge n.natAbs then (fs, none) else (fs, some n)
    | none => (fs, none)
  | none => (fs, none)

/-- The flags at the start of a verb and the text after them. -/
def readFlags (s : Spec) : List Char → Spec × List Char
  | '#' :: rest => readFlags { s with sharp := true } rest
  | '0' :: rest => readFlags { s with zero := !s.minus } rest
  | '+' :: rest => readFlags { s with plus := true } rest
  | '-' :: rest => readFlags { s with minus := true, zero := false } rest
  | ' ' :: rest => readFlags { s with space := true } rest
  | rest => (s, rest)

/-- The flags of a `%v` moved to their `%v` forms. -/
def Spec.forV (s : Spec) : Spec :=
  { s with sharpV := s.sharp, sharp := false, plusV := s.plus, plus := false }

/-- A verb with an argument index, a width or a precision, after its flags:
what it writes, and the text after it. -/
def complexVerb (st : Store) (fs : FormatState) (s : Spec) (cs : List Char) :
    List UInt8 × FormatState × List Char :=
  let (fs, cs, afterIndex) := fs.argNumber cs
  -- the width
  let (fs, s, cs, afterIndex, pre) : FormatState × Spec × List Char × Bool × String :=
    match cs with
    | '*' :: rest =>
      let (fs, w) := fs.intArg
      match w with
      | some w =>
        let s := if w < 0 then { s with width := some w.natAbs, minus := true, zero := false }
          else { s with width := some w.toNat }
        (fs, s, rest, false, "")
      | none => (fs, s, rest, false, "%!(BADWIDTH)")
    | _ =>
      let (w, rest) := parseNum cs
      let fs := if afterIndex && w.isSome then { fs with goodArgNum := false } else fs
      (fs, { s with width := w }, rest, afterIndex, "")
  -- the precision
  let (fs, s, cs, afterIndex, pre) : FormatState × Spec × List Char × Bool × String :=
    match cs with
    | '.' :: r :: rs =>
      let fs := if afterIndex then { fs with goodArgNum := false } else fs
      let (fs, cs, afterIndex) := fs.argNumber (r :: rs)
      match cs with
      | '*' :: rest =>
        let (fs, p) := fs.intArg
        match p with
        | some p =>
          if p < 0 then (fs, { s with prec := none }, rest, false, pre ++ "%!(BADPREC)")
          else (fs, { s with prec := some p.toNat }, rest, false, pre)
        | none => (fs, { s with prec := none }, rest, false, pre ++ "%!(BADPREC)")
      | _ =>
        let (p, rest) := parseNum cs
        (fs, { s with prec := some (p.getD 0) }, rest, afterIndex, pre)
    | _ => (fs, s, cs, afterIndex, pre)
  let (fs, cs, _) := if !afterIndex then fs.argNumber cs else (fs, cs, afterIndex)
  match cs with
  | [] => ((pre ++ "%!(NOVERB)").toUTF8.toList, fs, [])
  | verb :: rest =>
    let (out, fs) : List UInt8 × FormatState :=
      if verb == '%' then ("%".toUTF8.toList, fs)
      else if !fs.goodArgNum then (("%!" ++ verb.toString ++ "(BADINDEX)").toUTF8.toList, fs)
      else if fs.argNum ≥ fs.args.size then (("%!" ++ verb.toString ++ "(MISSING)").toUTF8.toList, fs)
      else
        let s := if verb == 'v' || verb == 'w' then s.forV else s
        (printArgBytes st s verb (fs.args[fs.argNum]?.getD .none), { fs with argNum := fs.argNum + 1 })
    (pre.toUTF8.toList ++ out, fs, rest)

/-- The rest of a format written with the arguments, at most `fuel` verbs.
The format is read as characters, each with its bytes, so that the text
between verbs is copied byte for byte. -/
def formatLoop (st : Store) : Nat → FormatState → List (Char × List UInt8) → List UInt8 × FormatState
  | 0, fs, _ => ([], fs)
  | fuel + 1, fs, rs =>
    let lit := rs.takeWhile (·.1 != '%')
    let litBytes := lit.flatMap (·.2)
    match rs.drop lit.length with
    | [] => (litBytes, fs)
    | _ :: rs =>
      -- the runes after a part of the verb read as characters
      let after (rest : List Char) := rs.drop (rs.length - rest.length)
      let (s, cs) := readFlags {} (rs.map (·.1))
      let fs := { fs with goodArgNum := true }
      -- a lower-case verb with an argument left is written at once
      match cs with
      | c :: rest =>
        if 'a' ≤ c && c ≤ 'z' && fs.argNum < fs.args.size then
          let s := if c == 'v' || c == 'w' then s.forV else s
          let out := printArgBytes st s c (fs.args[fs.argNum]?.getD .none)
          let (more, fs) := formatLoop st fuel { fs with argNum := fs.argNum + 1 } (after rest)
          (litBytes ++ out ++ more, fs)
        else
          let (out, fs, rest) := complexVerb st fs s cs
          let (more, fs) := formatLoop st fuel fs (after rest)
          (litBytes ++ out ++ more, fs)
      | [] =>
        let (out, fs, _) := complexVerb st fs s cs
        (litBytes ++ out, fs)

/-- Values written by a format given as bytes; values left over are listed
at the end unless an index took them out of order. -/
def sprintf (st : Store) (format : List UInt8) (args : List Value) : List UInt8 :=
  let rs := utf8Runes format
  let (out, fs) := formatLoop st (rs.length + 1) { args := args.toArray } rs
  if !fs.reordered && fs.argNum < args.length then
    out ++ "%!(EXTRA ".toUTF8.toList ++ ", ".toUTF8.toList.intercalate ((args.drop fs.argNum).map fun v =>
      match v with
      | .none => "<nil>".toUTF8.toList
      | _ => (v.typeName ++ "=").toUTF8.toList ++ printArgBytes st {} 'v' v) ++ ")".toUTF8.toList
  else out

end CriticalCss.Template

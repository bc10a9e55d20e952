/-!
# Durations

A duration in nanoseconds is written the way timers print it: `0s` for zero;
below a second in the largest of `ns`, `µs` and `ms` that fits, with a
fraction; otherwise in hours, minutes and seconds, as in `1h2m3.5s`, leaving
out the leading units that are zero. Fractions have no trailing zeros.

Reading is the converse: an optional sign, then one or more numbers, each
with an optional fraction and a unit (`ns`, `us`, `µs`, `μs`, `ms`, `s`,
`m`, `h`), as in `1h30m` or `1.5s`; a lone `0` needs no unit. A fraction
is scaled to nanoseconds in binary64 arithmetic and truncated. The total must
fit in 64 bits.

## Main definitions

* `durationText`: the text of a duration.
* `parseDuration`: the nanoseconds of a duration's text.
-/

namespace CriticalCss.Text

/-- The fraction `v mod 10^prec` written after a point without trailing
zeros, nothing when it is zero, and `v / 10^prec`. -/
def fractionText (v prec : Nat) : String × Nat :=
  let frac := v % Nat.pow 10 prec
  let digits := (Nat.toDigits 10 frac)
  let digits := List.replicate (prec - digits.length) '0' ++ digits
  let trimmed := (digits.reverse.dropWhile (· == '0')).reverse
  ((if frac == 0 then "" else "." ++ String.ofList trimmed), v / Nat.pow 10 prec)

/-- The text of a duration of `ns` nanoseconds. -/
def durationText (ns : Int) : String :=
  let u := ns.natAbs
  let sign := if ns < 0 then "-" else ""
  let body :=
    if u == 0 then "0s"
    else if u < 1000 then toString u ++ "ns"
    else if u < 1000000 then
      let (f, i) := fractionText u 3
      toString i ++ f ++ "µs"
    else if u < 1000000000 then
      let (f, i) := fractionText u 6
      toString i ++ f ++ "ms"
    else
      let (f, secs) := fractionText u 9
      let s := toString (secs % 60) ++ f ++ "s"
      let mins := secs / 60
      if mins == 0 then s
      else
        let m := toString (mins % 60) ++ "m" ++ s
        let hours := mins / 60
        if hours == 0 then m else toString hours ++ "h" ++ m
  sign ++ body

/-- The nanoseconds of the units of durations. -/
def durationUnits : List (String × Nat) :=
  [("ns", 1), ("us", 1000), ("\u00B5s", 1000), ("\u03BCs", 1000), ("ms", 1000000),
   ("s", 1000000000), ("m", 60000000000), ("h", 3600000000000)]

/-- The leading digits of text as a number, `none` when it passes `2^63`,
and the rest. -/
def leadingInt (cs : List Char) : Option Nat × List Char :=
  let ds := cs.takeWhile Char.isDigit
  let v := ds.foldl (fun (acc : Option Nat) c => acc.bind fun x =>
    if x > Nat.pow 2 63 / 10 then none
    else
      let y := x * 10 + (c.toNat - '0'.toNat)
      if y > Nat.pow 2 63 then none else some y) (some 0)
  (v, cs.drop ds.length)

/-- The leading digits of a fraction: their value while it stays in range,
the power of ten it is scaled by, and the rest. -/
def leadingFraction (cs : List Char) : Nat × Float × List Char :=
  let ds := cs.takeWhile Char.isDigit
  let step := fun (st : Nat × Float × Bool) (c : Char) =>
    let (x, scale, capped) := st
    if capped then st
    else if x > (Nat.pow 2 63 - 1) / 10 then (x, scale, true)
    else
      let y := x * 10 + (c.toNat - '0'.toNat)
      if y > Nat.pow 2 63 then (x, scale, true) else (y, scale * 10, false)
  let (x, scale, _) := ds.foldl step (0, 1, false)
  (x, scale, cs.drop ds.length)

/-- Bytes in double quotes as time errors write them: quotes and
backslashes escaped, and every byte outside printable ASCII written as a
`\x` escape. -/
def durationQuoteBytes (bs : List UInt8) : String :=
  let hex := "0123456789abcdef".toList
  "\"" ++ String.join (bs.map fun b =>
    if b.toNat ≥ 0x80 || b.toNat < 0x20 then
      String.ofList ['\\', 'x', hex.getD (b.toNat / 16) '0', hex.getD (b.toNat % 16) '0']
    else
      let c := Char.ofNat b.toNat
      if c == '"' || c == '\\' then "\\" ++ c.toString else c.toString) ++ "\""

/-- A text in double quotes as duration errors write it: quotes and
backslashes escaped, and the bytes of characters outside printable ASCII
written as `\x` escapes. -/
def durationQuote (s : String) : String :=
  durationQuoteBytes s.toUTF8.toList

/-- Why a text is not a duration. -/
inductive DurationError where
  | invalid
  | missingUnit
  | unknownUnit (unit : String)

/-- The message of a text that is not a duration. -/
def DurationError.message (orig : String) : DurationError → String
  | .invalid => "time: invalid duration " ++ durationQuote orig
  | .missingUnit => "time: missing unit in duration " ++ durationQuote orig
  | .unknownUnit u => "time: unknown unit " ++ durationQuote u ++ " in duration " ++ durationQuote orig

/-- The nanoseconds of the numbers and units of a duration after its sign,
added to `total`; each round reads one number and its unit. -/
def durationTerms : Nat → Nat → List Char → Except DurationError Nat
  | _, total, [] => .ok total
  | 0, _, _ => .error .invalid
  | fuel + 1, total, cs@(c :: _) =>
    if !(c == '.' || c.isDigit) then .error .invalid
    else
      let (whole, rest) := leadingInt cs
      match whole with
      | none => .error .invalid
      | some v =>
        let pre := rest.length != cs.length
        let (f, scale, rest, post) := match rest with
          | '.' :: r =>
            let (f, scale, r') := leadingFraction r
            (f, scale, r', r'.length != r.length)
          | _ => (0, 1, rest, false)
        if !pre && !post then .error .invalid
        else
          let unitChars := rest.takeWhile fun c => !(c == '.' || c.isDigit)
          let rest := rest.drop unitChars.length
          if unitChars.isEmpty then .error .missingUnit
          else match durationUnits.lookup (String.ofList unitChars) with
          | none => .error (.unknownUnit (String.ofList unitChars))
          | some unit =>
            if v > Nat.pow 2 63 / unit then .error .invalid
            else
              let v := v * unit
              let v := if f > 0 then
                  v + (Float.ofNat f * (Float.ofNat unit / scale)).toUInt64.toNat
                else v
              if v > Nat.pow 2 63 then .error .invalid
              else
                let total := total + v
                if total > Nat.pow 2 63 then .error .invalid else durationTerms fuel total rest

/-- The nanoseconds of a duration's text, as timers read it, or why it is
not one. -/
def readDuration (s : String) : Except DurationError Int :=
  let (neg, cs) := match s.toList with
    | '-' :: rest => (true, rest)
    | '+' :: rest => (false, rest)
    | cs => (false, cs)
  if cs == ['0'] then .ok 0
  else if cs.isEmpty then .error .invalid
  else match durationTerms (cs.length + 1) 0 cs with
    | .error e => .error e
    | .ok d =>
      if neg then .ok (-(d : Int))
      else if d > Nat.pow 2 63 - 1 then .error .invalid else .ok d

/-- The nanoseconds of a duration's text, as timers read it. -/
def parseDuration (s : String) : Option Int := (readDuration s).toOption

end CriticalCss.Text

/-!
# Shortest numbers

A number of a style sheet is written in a short form with the same value: no
sign `+`, no leading or trailing zeros, no `0` before the point. Zero is `0`,
with no sign. A number whose exponent does not fit 64 bits, or whose value's
exponent would not, is kept as written.

The significant digits `d` (there are `n` of them) of a value `0.d × 10^e`
are written in one of four forms, tried in this order:

* an integer, when `n ≤ e`: the digits and `e - n` zeros, or the digits with
  the exponent `e - n` when that is three or more zeros;
* a fraction with an exponent, `.d e-|e|`, when `e < -3`, the text of `|e|`
  is shorter than that of `|e - n|`, and the number was written with a
  fraction; a number already written with its point right before its first
  significant digit keeps its text, sign and zeros included;
* a plain fraction, when the point falls at most one place further left than
  the width of the exponent `e - n`;
* otherwise the digits as an integer with the exponent `e - n`, when that is
  shorter than the number as written, and the trimmed digits with the written
  exponent when it is not.

## Main definitions

* `NumberText`: a number's text read into sign, digits and exponent.
* `NumberText.render`: the short text of a nonzero number.
* `shortNumber`: the short text of a number.
* `zeroOffset?`: where a short zero stands in the number's own text.
-/

namespace CriticalCss.Css

/-- The least exponent: the least 64-bit signed integer. -/
def exponentFloor : Int := -(Int.pow 2 63)

/-- The largest exponent: the largest 64-bit signed integer. -/
def exponentCeiling : Int := Int.pow 2 63 - 1

/-- The number of decimal digits of an integer's magnitude. -/
def digitCount (i : Int) : Nat := (toString i.natAbs).length

/-- A written exponent: an optional `+`, then an optional sign and decimal
digits, read up to the first other character; `none` without digits or
beyond 64 bits. -/
def readExponent (cs : List Char) : Option Int :=
  let cs := match cs with
    | '+' :: r => r
    | r => r
  let (neg, ds) := match cs with
    | '-' :: ds => (true, ds)
    | '+' :: ds => (false, ds)
    | ds => (false, ds)
  let ds := ds.takeWhile Char.isDigit
  if ds.isEmpty then none
  else
    let v : Int := ds.foldl (fun acc d => acc * 10 + (d.toNat - '0'.toNat)) 0
    let v := if neg then -v else v
    if v < exponentFloor || v > exponentCeiling then none else some v

/-- A number's text read into its parts. -/
structure NumberText where
  /-- The length of the whole text. -/
  length : Nat
  /-- Whether the text starts with a sign. -/
  signed : Bool
  /-- Whether the sign is `-`. -/
  neg : Bool
  /-- The digits before the point. -/
  intPart : List Char
  /-- Whether there is a point. -/
  hasPoint : Bool
  /-- The digits after the point. -/
  fracPart : List Char
  /-- The written exponent, zero when there is none. -/
  exp : Int
deriving Repr

namespace NumberText

/-- The digits after the point without trailing zeros. -/
def fracTrimmed (t : NumberText) : List Char :=
  (t.fracPart.reverse.dropWhile (· == '0')).reverse

/-- Whether a fraction is left once its trailing zeros are dropped. -/
def hasFraction (t : NumberText) : Bool :=
  t.hasPoint && !t.fracTrimmed.isEmpty

/-- Whether the point comes first once leading zeros are dropped. -/
def pointFirst (t : NumberText) : Bool :=
  t.hasPoint && t.intPart.all (· == '0')

/-- All digits in order. -/
def digits (t : NumberText) : List Char := t.intPart ++ t.fracPart

/-- Whether every digit is zero. -/
def isZero (t : NumberText) : Bool := t.digits.all (· == '0')

/-- The significant digits: no leading or trailing zeros. -/
def significand (t : NumberText) : List Char :=
  ((t.digits.dropWhile (· == '0')).reverse.dropWhile (· == '0')).reverse

/-- The exponent `e` of the digits as written, the value being
`0.d × 10^e` before the written exponent. -/
def pointExp (t : NumberText) : Int :=
  (t.intPart.length : Int) - ((t.digits.takeWhile (· == '0')).length : Int)

/-- Whether the value's exponents leave the 64-bit range. -/
def overflows (t : NumberText) : Bool :=
  let e := t.pointExp
  let n : Int := t.significand.length
  (t.exp < 0 && (e < exponentFloor - t.exp || e - n < exponentFloor - t.exp)) ||
    (0 < t.exp && (exponentCeiling - t.exp < e || exponentCeiling - t.exp < e - n))

/-- Where the integer form with a negative exponent would end, counted in
the written text: it is used when that is before the text's end. -/
def integerFormEnd (t : NumberText) (expDigits : Nat) : Nat :=
  let s0 := if t.signed then 1 else 0
  if t.pointFirst then s0 + t.intPart.length + t.significand.length + 2 + expDigits
  else
    let stop :=
      if t.hasFraction then s0 + t.intPart.length + 1 + t.fracTrimmed.length
      else s0 + (t.intPart.reverse.dropWhile (· == '0')).length
    stop - 1 + 2 + expDigits

/-- The trimmed digits as written, point included: what is kept when the
integer form would not be shorter. -/
def trimmedText (t : NumberText) : List Char :=
  if t.pointFirst then '.' :: t.fracTrimmed
  else if t.hasFraction then t.intPart.dropWhile (· == '0') ++ '.' :: t.fracTrimmed
  else t.significand

/-- Whether the short form is a fraction with an exponent: the value is
below `10^-3`, not an integer, the exponent of `0.d` is shorter than that of
the integer `d`, and the number was written with a fraction. -/
def isSmallFraction (t : NumberText) : Bool :=
  let n : Int := t.significand.length
  let e := t.pointExp + t.exp
  !(n ≤ e) && e < -3 && digitCount e < digitCount (e - n) && t.hasFraction

/-- The short text of a nonzero number, without its sign. -/
def render (t : NumberText) : String :=
  let d := t.significand
  let n := d.length
  let e := t.pointExp + t.exp
  let intExp := e - n
  let lenIntExp := digitCount intExp
  if (n : Int) ≤ e then
    if (n : Int) + 3 ≤ e then String.ofList d ++ "e" ++ toString intExp
    else String.ofList (d ++ List.replicate (e - n).toNat '0')
  else if t.isSmallFraction then
    "." ++ String.ofList d ++ "e-" ++ toString e.natAbs
  else if -(lenIntExp : Int) - 1 ≤ e then
    if e ≤ 0 then String.ofList ('.' :: List.replicate e.natAbs '0' ++ d)
    else String.ofList (d.take e.toNat ++ '.' :: d.drop e.toNat)
  else if t.integerFormEnd lenIntExp < t.length then
    String.ofList d ++ "e-" ++ toString intExp.natAbs
  else String.ofList t.trimmedText ++ "e-" ++ toString t.exp.natAbs

end NumberText

/-- A number's text read into its parts; `none` when the exponent cannot
be read. -/
def readNumberText (num : String) : Option NumberText :=
  let cs := num.toList
  let (signed, neg, body) := match cs with
    | '-' :: r => (true, true, r)
    | '+' :: r => (true, false, r)
    | r => (false, false, r)
  let mant := body.takeWhile fun c => c != 'e' && c != 'E'
  let exp := if mant.length == body.length then some 0 else readExponent (body.drop (mant.length + 1))
  exp.map fun e =>
    let intPart := mant.takeWhile (· != '.')
    { length := cs.length, signed, neg, intPart,
      hasPoint := intPart.length < mant.length,
      fracPart := mant.drop (intPart.length + 1), exp := e }

/-- The short text of a number token's text. -/
def shortNumber (num : String) : String :=
  if num.length ≤ 1 then num
  else
    match readNumberText num with
    | none => num
    | some t =>
      if t.isZero then "0"
      else if t.overflows then num
      -- a small fraction already written as `.d` with an exponent keeps its text
      else if t.isSmallFraction && t.pointExp == 0 then num
      else (if t.neg then "-" else "") ++ t.render

/-- Where the zero is written when a number's short text is `0` and it is
written over the number's own text: after the sign and the leading zeros,
but at the latest on the last character before the exponent. `none` when
the short text is not `0`. -/
def zeroOffset? (num : String) : Option Nat :=
  if shortNumber num != "0" then none
  else
    let (signLen, body) : Nat × List Char := match num.toList with
      | '-' :: r | '+' :: r => (1, r)
      | r => (0, r)
    let mant := body.takeWhile fun c => c != 'e' && c != 'E'
    some (signLen + min (mant.takeWhile (· == '0')).length (mant.length - 1))

end CriticalCss.Css

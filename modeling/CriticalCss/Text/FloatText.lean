import CriticalCss.Text.Binary64

/-!
# Binary64 numbers in the printf forms

The forms in which a binary64 number is written by a format verb, each from
the exact value `M * 2^E` with integer arithmetic:

* `e`: one digit, a point, `prec` digits and an exponent of at least two
  digits (`1.500000e+00`);
* `f`: the whole part and `prec` digits after the point (`1.500000`);
* `g`: `prec` significant digits, with an exponent when it is below -4 or
  at least the precision, trailing zeros dropped;
* `b`: the significand and the binary exponent (`6755399441055744p-52`);
* `x`: a hexadecimal significand `1.8` and a binary exponent (`0x1.8p+00`).

A negative precision asks for the fewest digits that read back as the same
number; `g` then switches to an exponent at 6 digits before the point.
Rounding to a number of digits is to the nearest, ties to the even digit,
on the exact value.

## Main definitions

* `DecimalDigits`: digits and the place of the point.
* `formatFloat`: a number in one of the forms.
* `parseHexFloat`: a hexadecimal floating literal such as `0x1p-2`.
* `parseGoFloat`: a number as the standard library reads binary64 text.
* `floatOfInt`: the binary64 number nearest to an integer.
-/

namespace CriticalCss.Text

/-- Decimal digits `0.d₁d₂… × 10^point`, without trailing zeros; no digits
for zero. -/
structure DecimalDigits where
  digits : List Char
  point : Int

/-- `x / 10^k` rounded to the nearest integer, ties to even. -/
def roundScaled (x : Ratio) (k : Int) : Nat :=
  let (num, den) := if k ≥ 0 then (x.num, x.den * Nat.pow 10 k.toNat) else (x.num * Nat.pow 10 (-k).toNat, x.den)
  let q := num / den
  let r := num % den
  if 2 * r > den || (2 * r == den && q % 2 == 1) then q + 1 else q

/-- The digits of `d * 10^k`, trailing zeros dropped. -/
def digitsOf (d : Nat) (k : Int) : DecimalDigits :=
  if d == 0 then ⟨[], 0⟩
  else
    let (ds, point) := decimalDigits d k
    ⟨ds, point⟩

/-- A positive ratio rounded to `n` significant digits (at least one). -/
def significantDigits (x : Ratio) (n : Nat) : DecimalDigits :=
  let t := decimalExponent x
  let k := t - (max n 1 : Nat) + 1
  digitsOf (roundScaled x k) k

/-- A positive ratio rounded to `p` digits after the point. -/
def fixedDigits (x : Ratio) (p : Nat) : DecimalDigits :=
  digitsOf (roundScaled x (-(p : Int))) (-(p : Int))

/-- The exponent part of the `e` form: the letter, a sign and at least two
digits. -/
def exponentPart (letter : Char) (exp : Int) : String :=
  let digits := Nat.toDigits 10 exp.natAbs
  letter.toString ++ (if exp < 0 then "-" else "+") ++
    String.ofList (List.replicate (2 - digits.length) '0' ++ digits)

/-- Digits in the `e` form with `prec` digits after the point. -/
def formE (neg : Bool) (d : DecimalDigits) (prec : Nat) (letter : Char) : String :=
  let first := d.digits.headD '0'
  let rest := (d.digits.drop 1).take prec
  let frac := if prec > 0 then "." ++ String.ofList (rest ++ List.replicate (prec - rest.length) '0') else ""
  let exp := if d.digits.isEmpty then 0 else d.point - 1
  (if neg then "-" else "") ++ first.toString ++ frac ++ exponentPart letter exp

/-- Digits in the `f` form with `prec` digits after the point. -/
def formF (neg : Bool) (d : DecimalDigits) (prec : Nat) : String :=
  let whole :=
    if d.point > 0 then
      let p := d.point.toNat
      String.ofList (d.digits.take p ++ List.replicate (p - d.digits.length) '0')
    else "0"
  let digitAt (j : Int) : Char := if 0 ≤ j then d.digits.getD j.toNat '0' else '0'
  let frac := if prec > 0 then "." ++ String.ofList ((List.range prec).map fun (i : Nat) => digitAt (d.point + i)) else ""
  (if neg then "-" else "") ++ whole ++ frac

/-- The `g` form of digits: the precision asked for (`none` for the
shortest digits) decides between the `e` and `f` forms. -/
def formG (neg : Bool) (d : DecimalDigits) (prec : Option Nat) (letter : Char) : String :=
  let nd := d.digits.length
  let p := prec.getD nd
  let eprec : Int := match prec with
    | none => 6
    | some p => if p > nd && (nd : Int) ≥ d.point then nd else p
  let exp := d.point - 1
  if exp < -4 || exp ≥ eprec then
    formE neg d ((min p nd) - 1) letter
  else
    let p := if (p : Int) > d.point then nd else p
    formF neg d ((p : Int) - d.point).toNat

/-- The `b` form: the significand, `p` and the binary exponent. -/
def formB (neg : Bool) (m : Nat) (e : Int) : String :=
  (if neg then "-" else "") ++ toString m ++ "p" ++ (if e ≥ 0 then "+" else "") ++ toString e

/-- The hexadecimal digits of a number, in either case. -/
def hexDigitChar (upper : Bool) (n : Nat) : Char :=
  let c := Nat.digitChar n
  if upper then c.toUpper else c

/-- The `x` form of `m * 2^(e - 52)` with a normalised significand `m`
below `2^53`: `0x1.hhhp±dd`, rounded to `prec` hexadecimal digits when a
precision is given. -/
def formX (neg : Bool) (m : Nat) (e : Int) (prec : Option Nat) (upper : Bool) : String := Id.run do
  -- the significand with its leading bit at bit 60
  let mut mant := m * Nat.pow 2 8
  let mut exp := if m == 0 then 0 else e
  if mant != 0 then
    for _ in [0:64] do
      if mant / Nat.pow 2 60 % 2 == 1 then break
      mant := mant * 2
      exp := exp - 1
  match prec with
  | some p =>
    if p < 15 then
      let shift := 4 * p
      let extra := (mant * Nat.pow 2 shift) % Nat.pow 2 60
      mant := mant / Nat.pow 2 (60 - shift)
      if extra ||| (mant % 2) > Nat.pow 2 59 then mant := mant + 1
      mant := mant * Nat.pow 2 (60 - shift)
      if mant / Nat.pow 2 61 % 2 == 1 then
        mant := mant / 2
        exp := exp + 1
  | none => pure ()
  let lead := mant / Nat.pow 2 60 % 2
  let mut rest := (mant % Nat.pow 2 60) * 16
  let mut digits : List Char := []
  match prec with
  | none =>
    for _ in [0:16] do
      if rest % Nat.pow 2 64 == 0 then break
      digits := digits ++ [hexDigitChar upper (rest / Nat.pow 2 60 % 16)]
      rest := (rest * 16) % Nat.pow 2 64
  | some p =>
    for _ in [0:p] do
      digits := digits ++ [hexDigitChar upper (rest / Nat.pow 2 60 % 16)]
      rest := (rest * 16) % Nat.pow 2 64
  let frac := if digits.isEmpty then "" else "." ++ String.ofList digits
  let expDigits := Nat.toDigits 10 exp.natAbs
  (if neg then "-" else "") ++ "0" ++ (if upper then "X" else "x") ++ toString lead ++ frac ++
    (if upper then "P" else "p") ++ (if exp < 0 then "-" else "+") ++
    String.ofList (List.replicate (2 - expDigits.length) '0' ++ expDigits)

/-- A binary64 number in the form `fmt` (`e`, `E`, `f`, `g`, `G`, `b`,
`x`, `X`), with `prec` digits, or the fewest that read back when `prec` is
`none`. Infinities are `+Inf` and `-Inf`, the not-a-number `NaN`. -/
def formatFloat (x : Float) (fmt : Char) (prec : Option Nat) : String :=
  let (neg, biased, fraction) := floatFields x
  if biased == 2047 then
    if fraction != 0 then "NaN" else if neg then "-Inf" else "+Inf"
  else
    let (m, e) := if biased == 0 && fraction == 0 then (0, -1074) else significandOf biased fraction
    match fmt with
    | 'b' => formB neg m e
    | 'x' | 'X' =>
      let unbiased : Int := if biased == 0 then -1022 else (biased : Int) - 1023
      formX neg (if biased == 0 then fraction else fraction + Nat.pow 2 52) unbiased prec (fmt == 'X')
    | _ =>
      let exact : Ratio := binaryRatio m e
      let shortest : DecimalDigits :=
        if m == 0 then ⟨[], 0⟩
        else
          let (d, k) := shortestDecimal m e (fraction == 0 && biased > 1)
          digitsOf d k
      match fmt with
      | 'e' | 'E' =>
        let d := match prec with
          | none => shortest
          | some p => if m == 0 then ⟨[], 0⟩ else significantDigits exact (p + 1)
        formE neg d (prec.getD (shortest.digits.length - 1)) fmt
      | 'f' =>
        let d := match prec with
          | none => shortest
          | some p => if m == 0 then ⟨[], 0⟩ else fixedDigits exact p
        let p := prec.getD ((shortest.digits.length : Int) - shortest.point).toNat
        formF neg d p
      | 'g' | 'G' =>
        let letter := if fmt == 'G' then 'E' else 'e'
        match prec with
        | none => formG neg shortest none letter
        | some p =>
          let p := max p 1
          let d := if m == 0 then ⟨[], 0⟩ else significantDigits exact p
          formG neg d (some p) letter
      | c => "%" ++ c.toString

/-- The value of a hexadecimal digit of either case. -/
def hexDigitValue (c : Char) : Option Nat :=
  if '0' ≤ c && c ≤ '9' then some (c.toNat - '0'.toNat)
  else if 'a' ≤ c && c ≤ 'f' then some (c.toNat - 'a'.toNat + 10)
  else if 'A' ≤ c && c ≤ 'F' then some (c.toNat - 'A'.toNat + 10)
  else none

/-- A hexadecimal floating literal after its `0x`: hexadecimal digits with
an optional point (underscores between them ignored), then `p` and a signed
decimal exponent, rounded to the nearest binary64 number; `none` when it is
not one or is too large. -/
def parseHexFloat (neg : Bool) (cs : List Char) : Option Float :=
  let mantissa := cs.takeWhile fun c => c != 'p' && c != 'P'
  let rest := cs.drop mantissa.length
  let parts := (mantissa.filter (· != '_')).splitOn '.'
  let whole := parts.headD []
  let frac := (parts.drop 1).headD []
  if parts.length > 2 || (whole.isEmpty && frac.isEmpty) then none
  else
    let digits := (whole ++ frac).map hexDigitValue
    if digits.any Option.isNone then none
    else
      let m := digits.foldl (fun acc d => acc * 16 + d.getD 0) 0
      let e : Option Int := match rest with
        | _ :: sign :: ds =>
          let (s, ds) : Int × List Char :=
            if sign == '-' then (-1, ds) else if sign == '+' then (1, ds) else (1, sign :: ds)
          let ds := ds.filter (· != '_')
          if ds.isEmpty || !ds.all Char.isDigit then none
          else some (s * (ds.foldl (fun a c => a * 10 + (c.toNat - '0'.toNat)) 0 : Nat))
        | _ => none
      e.bind fun e =>
        let e := e - 4 * frac.length
        if m == 0 then some (floatOfFields neg 0 0)
        else if (m.log2 : Int) + e > 1100 then none
        else if (m.log2 : Int) + e < -1200 then some (floatOfFields neg 0 0)
        else if e ≥ 0 then nearestFloat neg (m * Nat.pow 2 e.toNat) 1
        else nearestFloat neg m (Nat.pow 2 (-e).toNat)

/-- Whether the underscores of a number's text stand between digits (or
after a base prefix), as the number syntax allows. -/
def underscoresOk (cs : List Char) : Bool :=
  let cs := match cs with
    | '-' :: r | '+' :: r => r
    | r => r
  let (hex, cs, saw) : Bool × List Char × Char := match cs with
    | '0' :: x :: r =>
      let l := x.toLower
      if l == 'b' || l == 'o' || l == 'x' then (l == 'x', r, '0') else (false, '0' :: x :: r, '^')
    | r => (false, r, '^')
  let rec go (saw : Char) : List Char → Bool
    | [] => saw != '_'
    | c :: rest =>
      if c.isDigit || (hex && 'a' ≤ c.toLower && c.toLower ≤ 'f') then go '0' rest
      else if c == '_' then (if saw != '0' then false else go '_' rest)
      else if saw == '_' then false
      else go '!' rest
  go saw cs

/-- Reads a number as the standard library reads binary64 text: an optional
sign, then decimal digits with an optional point and exponent, or `0x` and
hexadecimal digits with a binary exponent, underscores between digits, or
`inf`, `infinity` (signed or not) and `nan` in any case; `none` for anything
else and for a number too large. -/
def parseGoFloat (s : String) : Option Float :=
  let lower := s.toList.map Char.toLower
  let (neg, body) : Bool × List Char := match lower with
    | '-' :: r => (true, r)
    | '+' :: r => (false, r)
    | r => (false, r)
  if body == "inf".toList || body == "infinity".toList then
    some (if neg then floatOfFields true 2047 0 else floatOfFields false 2047 0)
  else if lower == "nan".toList then some (floatOfFields false 2047 1)
  else if s.toList.contains '_' && !underscoresOk s.toList then none
  else
    let cs := (s.toList.filter (· != '_'))
    let (neg, rest) : Bool × List Char := match cs with
      | '-' :: r => (true, r)
      | '+' :: r => (false, r)
      | r => (false, r)
    match rest with
    | '0' :: x :: hexDigits =>
      if x == 'x' || x == 'X' then parseHexFloat neg hexDigits
      else parseDecimal (String.ofList cs)
    | _ => parseDecimal (String.ofList cs)

/-- The binary64 number nearest to an integer, ties to even. -/
def floatOfInt (n : Int) : Float :=
  (decimalToFloat (n < 0) n.natAbs 0).getD 0

end CriticalCss.Text

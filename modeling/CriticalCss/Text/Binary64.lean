/-!
# Decimal text of binary64 numbers

A binary64 number is a sign, an 11-bit exponent and a 52-bit fraction. A
finite number is `M * 2^E` for an integer significand `M`; every conversion
here works on that exact value with integer arithmetic, so no rounding of
the runtime's floating point operations enters.

* Reading rounds the exact value of decimal text to the nearest binary64
  number, ties to the even significand; a value beyond the largest finite
  number does not read, and one below the smallest reads as zero.
* Writing gives the shortest decimal that reads back as the same number, the
  nearest such decimal when there are several, as digits with an exponent
  when the exponent is below -4 or at least 6, and as plain digits otherwise
  (`1e+06`, `100000`, `0.0001`, `1e-05`).

## Main definitions

* `parseDecimal`: a decimal text as a binary64 number.
* `shortestText`: the shortest text of a binary64 number.
* `truncateFloat`, `ceilFloat`: a finite number rounded toward zero, or up.
-/

namespace CriticalCss.Text

/-- The exponent bias. -/
def exponentBias : Int := 1075

/-- The binary64 number with a sign, a biased exponent and a fraction. -/
def floatOfFields (neg : Bool) (biased fraction : Nat) : Float :=
  Float.ofBits ((if neg then (1 : UInt64) <<< 63 else 0) ||| (biased.toUInt64 <<< 52) ||| fraction.toUInt64)

/-- The integer quotient of `num * 2^-k` by `den`, with the remainder and the
divisor. -/
def scaledQuotient (num den : Nat) (k : Int) : Nat × Nat × Nat :=
  if k ≥ 0 then
    let d := den * Nat.pow 2 k.toNat
    (num / d, num % d, d)
  else
    let n := num * Nat.pow 2 (-k).toNat
    (n / den, n % den, den)

/-- The binary64 number nearest to `num / den` (both positive), ties to even;
`none` when it is beyond the largest finite number. -/
def nearestFloat (neg : Bool) (num den : Nat) : Option Float := Id.run do
  let mut k : Int := (num.log2 : Int) - den.log2 - 52
  let mut (q, r, d) := scaledQuotient num den k
  if q ≥ Nat.pow 2 53 then
    k := k + 1
    (q, r, d) := scaledQuotient num den k
  else if q < Nat.pow 2 52 then
    k := k - 1
    (q, r, d) := scaledQuotient num den k
  if k < -1074 then
    k := -1074
    (q, r, d) := scaledQuotient num den k
  if 2 * r > d || (2 * r == d && q % 2 == 1) then q := q + 1
  if q == Nat.pow 2 53 then
    q := Nat.pow 2 52
    k := k + 1
  if q < Nat.pow 2 52 then return some (floatOfFields neg 0 q)
  let biased := k + exponentBias
  if biased ≥ 2047 then return none
  return some (floatOfFields neg biased.toNat (q - Nat.pow 2 52))

/-- The binary64 number nearest to `m * 10^e`; `none` beyond the largest
finite number. -/
def decimalToFloat (neg : Bool) (m : Nat) (e : Int) : Option Float :=
  let digits := (Nat.toDigits 10 m).length
  if m == 0 then some (floatOfFields neg 0 0)
  else if (digits : Int) + e > 400 then none
  else if (digits : Int) + e < -400 then some (floatOfFields neg 0 0)
  else if e ≥ 0 then nearestFloat neg (m * Nat.pow 10 e.toNat) 1
  else nearestFloat neg m (Nat.pow 10 (-e).toNat)

/-- The value of a run of decimal digits. -/
def digitsValue (ds : List Char) : Nat :=
  ds.foldl (fun acc c => acc * 10 + (c.toNat - '0'.toNat)) 0

/-- Reads decimal text: an optional sign, digits with an optional point (at
least one digit), and an optional exponent `e` or `E` with an optional sign
and digits. -/
def parseDecimal (s : String) : Option Float :=
  let cs := s.toList
  let (neg, cs) := match cs with
    | '-' :: rest => (true, rest)
    | '+' :: rest => (false, rest)
    | _ => (false, cs)
  let whole := cs.takeWhile Char.isDigit
  let cs := cs.drop whole.length
  let (frac, cs) := match cs with
    | '.' :: rest => (rest.takeWhile Char.isDigit, rest.drop (rest.takeWhile Char.isDigit).length)
    | _ => ([], cs)
  if whole.isEmpty && frac.isEmpty then none
  else
    let expPart : Option Int := match cs with
      | [] => some 0
      | c :: rest =>
        if c == 'e' || c == 'E' then
          let (eneg, rest) := match rest with
            | '-' :: r => (true, r)
            | '+' :: r => (false, r)
            | _ => (false, rest)
          if !rest.isEmpty && rest.all Char.isDigit then
            let v : Int := digitsValue rest
            some (if eneg then -v else v)
          else none
        else none
    match expPart with
    | none => none
    | some e => decimalToFloat neg (digitsValue (whole ++ frac)) (e - frac.length)

/-- The fields of a binary64 number: sign, biased exponent and fraction. -/
def floatFields (x : Float) : Bool × Nat × Nat :=
  let bits := x.toBits.toNat
  (bits ≥ Nat.pow 2 63, (bits / Nat.pow 2 52) % 2048, bits % Nat.pow 2 52)

/-- The significand and exponent of a finite number's magnitude, `M * 2^E`. -/
def significandOf (biased fraction : Nat) : Nat × Int :=
  if biased == 0 then (fraction, -1074) else (fraction + Nat.pow 2 52, (biased : Int) - exponentBias)

/-- A finite number rounded toward zero; `none` for infinities and NaN. -/
def truncateFloat (x : Float) : Option Int :=
  let (neg, biased, fraction) := floatFields x
  if biased == 2047 then none
  else
    let (m, e) := significandOf biased fraction
    let v : Nat := if e ≥ 0 then m * Nat.pow 2 e.toNat else m / Nat.pow 2 (-e).toNat
    some (if neg then -(v : Int) else v)

/-- A finite number rounded up; `none` for infinities and NaN. -/
def ceilFloat (x : Float) : Option Int :=
  let (neg, biased, fraction) := floatFields x
  if biased == 2047 then none
  else
    let (m, e) := significandOf biased fraction
    if e ≥ 0 then
      let v : Nat := m * Nat.pow 2 e.toNat
      some (if neg then -(v : Int) else v)
    else
      let q : Nat := m / Nat.pow 2 (-e).toNat
      some (if neg then -(q : Int) else if m % Nat.pow 2 (-e).toNat == 0 then q else q + 1)

/-- A nonnegative rational `num / den`. -/
structure Ratio where
  num : Nat
  den : Nat

/-- `a ≤ b` for ratios. -/
def Ratio.le (a b : Ratio) : Bool := a.num * b.den ≤ b.num * a.den

/-- `a < b` for ratios. -/
def Ratio.lt (a b : Ratio) : Bool := a.num * b.den < b.num * a.den

/-- `d * 10^k` as a ratio. -/
def decimalRatio (d : Nat) (k : Int) : Ratio :=
  if k ≥ 0 then ⟨d * Nat.pow 10 k.toNat, 1⟩ else ⟨d, Nat.pow 10 (-k).toNat⟩

/-- `n * 2^e` as a ratio. -/
def binaryRatio (n : Nat) (e : Int) : Ratio :=
  if e ≥ 0 then ⟨n * Nat.pow 2 e.toNat, 1⟩ else ⟨n, Nat.pow 2 (-e).toNat⟩

/-- `⌊x / 10^k⌋`. -/
def floorScaled (x : Ratio) (k : Int) : Nat :=
  if k ≥ 0 then x.num / (x.den * Nat.pow 10 k.toNat) else x.num * Nat.pow 10 (-k).toNat / x.den

/-- The decimal exponent `t` with `10^t ≤ x < 10^(t+1)`, for positive `x`. -/
def decimalExponent (x : Ratio) : Int := Id.run do
  let mut t : Int := ((x.num.log2 : Int) - x.den.log2) * 30103 / 100000
  for _ in [0:8] do
    if (decimalRatio 1 t).le x then break
    t := t - 1
  for _ in [0:8] do
    if x.lt (decimalRatio 1 (t + 1)) then break
    t := t + 1
  return t

/-- The shortest decimal `d * 10^k` inside the interval of numbers that read
back as `M * 2^E`, the nearest to it when there are two. -/
def shortestDecimal (m : Nat) (e : Int) (lowerTight : Bool) : Nat × Int := Id.run do
  let x := binaryRatio (4 * m) (e - 2)
  let low := binaryRatio (if lowerTight then 4 * m - 1 else 4 * m - 2) (e - 2)
  let high := binaryRatio (4 * m + 2) (e - 2)
  let inclusive := m % 2 == 0
  let inside (c : Ratio) : Bool :=
    if inclusive then low.le c && c.le high else low.lt c && c.lt high
  let t := decimalExponent x
  for p in [1:18] do
    let k := t - p + 1
    let d0 := floorScaled x k
    let c0 := decimalRatio d0 k
    let c1 := decimalRatio (d0 + 1) k
    let in0 := inside c0
    let in1 := inside c1
    if in0 && in1 then
      -- the nearer one; at equal distance the even one
      let below := x.num * c0.den * c1.den - c0.num * x.den * c1.den
      let above := c1.num * x.den * c0.den - x.num * c0.den * c1.den
      if below < above || (below == above && d0 % 2 == 0) then return (d0, k) else return (d0 + 1, k)
    if in0 then return (d0, k)
    if in1 then return (d0 + 1, k)
  return (floorScaled x (t - 16), t - 16)

/-- The digits of a positive decimal `d * 10^k` without trailing zeros, and
the place of the decimal point: the value is `0.digits * 10^point`. -/
def decimalDigits (d : Nat) (k : Int) : List Char × Int :=
  let ds := Nat.toDigits 10 d
  let trimmed := (ds.reverse.dropWhile (· == '0')).reverse
  (trimmed, ds.length + k)

/-- The exponent part of digits with an exponent: `e`, a sign and at least
two digits. -/
def exponentText (x : Int) : String :=
  let digits := Nat.toDigits 10 x.natAbs
  "e" ++ (if x < 0 then "-" else "+") ++ (if digits.length < 2 then "0" else "") ++ String.ofList digits

/-- The shortest text of a binary64 number: `NaN`, `+Inf` and `-Inf` for the
special values, otherwise the shortest decimal that reads back as it. -/
def shortestText (x : Float) : String :=
  let (neg, biased, fraction) := floatFields x
  let sign := if neg then "-" else ""
  if biased == 2047 then
    if fraction != 0 then "NaN" else if neg then "-Inf" else "+Inf"
  else if biased == 0 && fraction == 0 then sign ++ "0"
  else
    let (m, e) := significandOf biased fraction
    let (d, k) := shortestDecimal m e (fraction == 0 && biased > 1)
    let (ds, point) := decimalDigits d k
    let exp := point - 1
    if exp < -4 || exp ≥ 6 then
      let first := ds.headD '0'
      let rest := ds.drop 1
      sign ++ String.singleton first ++ (if rest.isEmpty then "" else "." ++ String.ofList rest) ++ exponentText exp
    else if point ≤ 0 then
      sign ++ "0." ++ String.ofList (List.replicate (-point).toNat '0' ++ ds)
    else
      let p := point.toNat
      let whole := ds.take p ++ List.replicate (p - ds.length) '0'
      let frac := ds.drop p
      sign ++ String.ofList whole ++ (if frac.isEmpty then "" else "." ++ String.ofList frac)

end CriticalCss.Text

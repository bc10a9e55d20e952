import CriticalCss.Template.Function
/-!
# Number functions

The arithmetic helpers. Integer helpers read their arguments as 64-bit
integers (texts in decimal, fractions cut toward zero) and wrap around as
64-bit arithmetic does; division by zero is an error. Binary64 helpers read
their arguments as binary64 numbers. Sequences count from a start toward a
stop by a step, never past it.

## Main definitions

* `stepRange`: the integers from a start toward a stop by a step.
* `roundTo`: a number rounded at a number of decimal places.
* `numberFunctions`: the table of number helpers.
-/

namespace CriticalCss.Template

open CriticalCss.Text

/-- The decimal integer a text spells with an optional sign, held to the
64-bit range; `none` when it is not one. -/
def parseIntClamped (s : String) : Option Int :=
  let (neg, digits) := match s.toList with
    | '+' :: rest => (false, rest)
    | '-' :: rest => (true, rest)
    | cs => (false, cs)
  (digitsValue? digits).map fun n =>
    let v : Int := if neg then -(n : Int) else n
    if v < leastInt64 then leastInt64 else if v > maxInt64 then maxInt64 else v

/-- The integer an octal text spells with an optional sign, if it is one in
the 64-bit range. -/
def parseOctal64 (s : String) : Option Int :=
  let (neg, digits) := match s.toList with
    | '+' :: rest => (false, rest)
    | '-' :: rest => (true, rest)
    | cs => (false, cs)
  if digits.isEmpty || !digits.all (fun c => '0' ≤ c && c ≤ '7') then none
  else
    let n := digits.foldl (fun a c => a * 8 + (c.toNat - '0'.toNat)) 0
    let v : Int := if neg then -(n : Int) else n
    if v < leastInt64 || v > maxInt64 then none else some v

/-- The integers from `start` toward `stop` by `step`, `stop` left out: up
when `stop` is above `start` and the step positive, down when it is below
and the step negative, none otherwise. -/
def stepRange (start stop step : Int) : List Int :=
  if stop < start then
    if step ≥ 0 then []
    else
      let count := (start - stop + (-step) - 1) / (-step)
      (List.range count.toNat).map fun (i : Nat) => start + step * (i : Int)
  else if step ≤ 0 then []
  else
    let count := (stop - start + step - 1) / step
    (List.range count.toNat).map fun (i : Nat) => start + step * (i : Int)

/-- A list of integers. -/
def intList (ns : List Int) : Value := Value.appendedList .int 0 (ns.map Value.int)

/-- The text of `seq`: its numbers separated by blanks. For one argument
the numbers from 1 to it, for two from the first to the second, and for
three from the first to the third by the second; a step pointing away from
the end gives nothing. The end is passed by one in 64-bit arithmetic, so
the least integer counted down to wraps around to the largest. -/
def seqText (params : List Int) : String :=
  let text (ns : List Int) := " ".intercalate (ns.map toString)
  match params with
  | [stop] =>
    let inc := if stop < 1 then -1 else 1
    text (stepRange 1 (wrap64 (stop + inc)) inc)
  | [start, stop] =>
    let step := if stop < start then -1 else 1
    text (stepRange start (wrap64 (stop + step)) step)
  | [start, step, stop] =>
    if stop < start then (if step > 0 then "" else text (stepRange start (wrap64 (stop - 1)) step))
    else if step < 0 then ""
    else text (stepRange start (wrap64 (stop + 1)) step)
  | _ => ""

/-- Whether the sign bit of a binary64 number is set. -/
def signBit (x : Float) : Bool := (floatFields x).1

/-- Positive infinity. -/
def posInf : Float := floatOfFields false 2047 0

/-- Negative infinity. -/
def negInf : Float := floatOfFields true 2047 0

/-- Not a number. -/
def notANumber : Float := floatOfFields false 2047 (Nat.pow 2 51)

/-- The larger of two numbers: infinity wins, then not-a-number, and
positive zero is larger than negative zero. -/
def floatMax (x y : Float) : Float :=
  if x == posInf || y == posInf then posInf
  else if x.isNaN || y.isNaN then notANumber
  else if x == 0 && y == 0 then (if signBit x then y else x)
  else if x > y then x else y

/-- The smaller of two numbers: negative infinity wins, then
not-a-number, and negative zero is smaller than positive zero. -/
def floatMin (x y : Float) : Float :=
  if x == negInf || y == negInf then negInf
  else if x.isNaN || y.isNaN then notANumber
  else if x == 0 && y == 0 then (if signBit x then x else y)
  else if x < y then x else y

/-- The fractional part of a number, with its sign. -/
def fractionalPart (x : Float) : Float :=
  x - (if x < 0 then x.ceil else x.floor)

/-- Repeated squaring on a number kept as a fraction in `[0.5, 1)` and a
binary exponent: the factor `x * 2^xe` is multiplied into `a * 2^ae` once for
each set bit of `i`, lowest first, and squared between bits. An exponent past
`4096` ends the loop, since the result is then out of range either way. -/
def squareAndMultiply : Nat → Nat → Float → Int → Float → Int → Float × Int
  | 0, _, a, ae, _, _ => (a, ae)
  | fuel + 1, i, a, ae, x, xe =>
    if i == 0 then (a, ae)
    else if xe < -4096 || 4096 < xe then (a, ae + xe)
    else
      let (a, ae) := if i % 2 == 1 then (a * x, ae + xe) else (a, ae)
      let x := x * x
      let (x, xe) := if x < 0.5 then (x + x, 2 * xe - 1) else (x, 2 * xe)
      squareAndMultiply fuel (i / 2) a ae x xe

/-- Ten to an integer power, computed as binary64 arithmetic does it: the
power is first read as a binary64 number, ten is `0.625 * 2^4`, its whole
power is built by `squareAndMultiply`, a negative power takes the
reciprocal, and the binary exponent is applied last. This is not always the
nearest binary64 number to the exact power. -/
def powerOfTen (p : Int) : Float :=
  let y := Float.ofInt p
  if y == 0 then 1
  else if y.abs ≥ 9223372036854775808 then (if y > 0 then posInf else 0)
  else
    let (a, e) := squareAndMultiply 64 y.abs.toUInt64.toNat 1 0 0.625 4
    if y < 0 then (1 / a).scaleB (-e) else a.scaleB e

/-- A number rounded at `places` decimal places: up when the part beyond is
at least `roundOn`, down otherwise. -/
def roundTo (x : Float) (places : Int) (roundOn : Float) : Float :=
  let pow := powerOfTen places
  let digit := pow * x
  let r := if fractionalPart digit ≥ roundOn then digit.ceil else digit.floor
  r / pow

/-- An integer helper on the 64-bit readings of its arguments. -/
def int64Fn (params : List ParamType) (variadic : Option ParamType) (f : List Int → Except String Int) :
    Function :=
  { params, variadic, run := fun args =>
      match f (args.map toInt64) with
      | .ok n => pure (.int64 (wrap64 n))
      | .error e => callFail e }

/-- A binary64 helper on the readings of its arguments. -/
def floatFn (params : List ParamType) (variadic : Option ParamType) (f : List Float → Float) : Function :=
  { params, variadic, run := fun args => pure (.float (f (args.map toFloat64))) }

/-- The number helpers. -/
def numberFunctions : List (String × Function) :=
  [("atoi", pureFn [.string] fun args => .int ((parseIntClamped (strArg args 0)).getD 0)),
   ("int64", pureFn [.any] fun args => .int64 (toInt64 (args.headD .none))),
   ("int", pureFn [.any] fun args => .int (toInt64 (args.headD .none))),
   ("float64", pureFn [.any] fun args => .float (toFloat64 (args.headD .none))),
   ("seq", { params := [], variadic := some .int,
             run := fun args => pure (.str (seqText (args.map fun v => v.int?.getD 0))) }),
   ("toDecimal", storeFn [.any] fun st args =>
      .int64 ((parseOctal64 ((args.headD .none).render st)).getD 0)),
   ("until", pureFn [.int] fun args =>
      let n := intArg args 0
      intList (stepRange 0 n (if n < 0 then -1 else 1))),
   ("untilStep", pureFn [.int, .int, .int] fun args =>
      intList (stepRange (intArg args 0) (intArg args 1) (intArg args 2))),
   ("add1", int64Fn [.any] none fun xs => .ok (xs.headD 0 + 1)),
   ("add", int64Fn [] (some .any) fun xs => .ok (xs.foldr (· + ·) 0)),
   ("sub", int64Fn [.any, .any] none fun xs => .ok (xs.headD 0 - xs.getD 1 0)),
   ("div", int64Fn [.any, .any] none fun xs =>
      if xs.getD 1 0 == 0 then .error "runtime error: integer divide by zero"
      else .ok ((xs.headD 0).tdiv (xs.getD 1 0))),
   ("mod", int64Fn [.any, .any] none fun xs =>
      if xs.getD 1 0 == 0 then .error "runtime error: integer divide by zero"
      else .ok ((xs.headD 0).tmod (xs.getD 1 0))),
   ("mul", int64Fn [.any] (some .any) fun xs => .ok (xs.foldl (fun a b => wrap64 (a * b)) 1)),
   ("randInt", { params := [.int, .int],
                 run := fun args =>
                   if intArg args 1 - intArg args 0 ≤ 0 then callFail "invalid argument to Intn"
                   else pure (.int (intArg args 0)) }),
   ("biggest", int64Fn [.any] (some .any) fun xs => .ok (xs.foldl max (xs.headD 0))),
   ("max", int64Fn [.any] (some .any) fun xs => .ok (xs.foldl max (xs.headD 0))),
   ("min", int64Fn [.any] (some .any) fun xs => .ok (xs.foldl min (xs.headD 0))),
   ("maxf", floatFn [.any] (some .any) fun xs => (xs.drop 1).foldl floatMax (xs.headD 0)),
   ("minf", floatFn [.any] (some .any) fun xs => (xs.drop 1).foldl floatMin (xs.headD 0)),
   ("ceil", floatFn [.any] none fun xs => (xs.headD 0).ceil),
   ("floor", floatFn [.any] none fun xs => (xs.headD 0).floor),
   ("round", { params := [.any, .int], variadic := some .float64,
               run := fun args =>
                 let roundOn : Float := match args[2]? with
                   | some (Value.float r) => r
                   | _ => 0.5
                 pure (.float (roundTo (toFloat64 (args.headD .none)) (intArg args 1) roundOn)) })]

end CriticalCss.Template

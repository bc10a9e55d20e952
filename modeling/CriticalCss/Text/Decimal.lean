/-!
# Decimal integers

Reading a decimal integer as a 64-bit signed number: an optional sign, then
at least one digit and nothing else; a value outside the range of 64-bit
integers is refused.

## Main definitions

* `parseInt64?`: the value of a decimal text, if it is one in range.
-/

namespace CriticalCss.Text

/-- The largest 64-bit signed integer. -/
def maxInt64 : Int := Int.pow 2 63 - 1

/-- The value of a run of decimal digits, if it is non-empty and all digits. -/
def digitsValue? (cs : List Char) : Option Nat :=
  if cs.isEmpty || !cs.all (fun c => '0' ≤ c && c ≤ '9') then none
  else some (cs.foldl (fun n c => n * 10 + (c.toNat - '0'.toNat)) 0)

/-- The value of a decimal text with an optional sign, if it is in the range of
64-bit signed integers. -/
def parseInt64? (s : String) : Option Int :=
  let (neg, digits) := match s.toList with
    | '+' :: rest => (false, rest)
    | '-' :: rest => (true, rest)
    | cs => (false, cs)
  match digitsValue? digits with
  | none => none
  | some n =>
    let v : Int := if neg then -(n : Int) else n
    if v < -(Int.pow 2 63) || maxInt64 < v then none else some v

end CriticalCss.Text

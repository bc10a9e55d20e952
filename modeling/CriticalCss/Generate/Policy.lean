import CriticalCss.Failure
import CriticalCss.Text.Binary64

/-!
# How many pages must succeed

A run needs `⌈total × ratio⌉` successful pages, computed in floating point
with a small allowance so that `10 × 0.7` asks for 7 pages. A ratio outside
`(0, 1]`, or not a number, counts as 1; a run with pages needs at least one.

## Main definitions

* `SuccessPolicy`: the number of pages required.
* `SuccessPolicy.ofRatio`: the policy of a number of pages and a ratio.
* `SuccessPolicy.check`: the failure of a run that fell short.
-/

namespace CriticalCss.Generate

/-- The allowance that absorbs rounding in the product. -/
def ratioEpsilon : Float := 1e-9

/-- How many pages must succeed. -/
structure SuccessPolicy where
  required : Int
deriving Repr, Inhabited, DecidableEq

namespace SuccessPolicy

/-- The least integer not below a float, clamped to the magnitudes a 64-bit
conversion keeps; zero for infinities and NaN. -/
def ceilClamped (f : Float) : Int :=
  match Text.ceilFloat f with
  | none => 0
  | some c => max (-(Int.pow 2 64 - 1)) (min c (Int.pow 2 64 - 1))

/-- The policy for `total` pages and a success ratio. -/
def ofRatio (total : Int) (ratio : Float) : SuccessPolicy :=
  let ratio := if ratio.isNaN || ratio ≤ 0 || 1 < ratio then 1 else ratio
  let required := ceilClamped (Float.ofInt total * ratio - ratioEpsilon)
  { required := if 0 < total && required < 1 then 1 else required }

/-- Whether `n` successful pages are enough. -/
def reached (p : SuccessPolicy) (n : Int) : Bool :=
  p.required ≤ n

/-- The failure of a run with `valid` successful pages and the failures of
the others, when that is not enough. -/
def check (p : SuccessPolicy) (valid : Int) (errors : List (String × Failure)) : Option Failure :=
  if p.reached valid then none else some (.threshold p.required valid errors)

end SuccessPolicy

end CriticalCss.Generate

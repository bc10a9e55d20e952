import CriticalCss.Failure

/-!
# Failed pages

The failures of pages, kept while pages are probed. Only the first failure of
a page is kept; a page with a failure is no longer valid.

## Main definitions

* `Tracker`: the pages with their first failure, in order of failure.
* `Tracker.track`, `Tracker.valid`, `Tracker.failureOf`.
-/

namespace CriticalCss.Probe

/-- The failed pages with their first failure, in order. -/
structure Tracker where
  failures : List (String × Failure) := []
deriving Repr, Inhabited

namespace Tracker

/-- The first failure of a page, if any. -/
def failureOf (t : Tracker) (url : String) : Option Failure :=
  (t.failures.find? (·.1 == url)).map (·.2)

/-- Records a failure of a page unless it already has one. -/
def track (t : Tracker) (url : String) (f : Failure) : Tracker :=
  if (t.failureOf url).isSome then t else { failures := t.failures ++ [(url, f)] }

/-- The pages without a failure, in the given order. -/
def valid (t : Tracker) (urls : List String) : List String :=
  urls.filter fun u => (t.failureOf u).isNone

end Tracker

end CriticalCss.Probe

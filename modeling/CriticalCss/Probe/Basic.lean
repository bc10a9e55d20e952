import CriticalCss.Failure
import CriticalCss.Probe.Viewport

/-!
# Probing pages

What the generator asks of a page backend: the stylesheets a page links, the
selectors that match some element of the page, and those that match an
element visible without scrolling in a viewport. Each answer may be a failure
of the page. The backend runs in a monad of its own choosing.

## Main definitions

* `Include`: a linked stylesheet.
* `Probe`: the three questions.
* `Probe.lift`: a backend asked from inside a larger monad.
-/

namespace CriticalCss.Probe

/-- A stylesheet linked from a page: its address as written and the media
attribute of the link, empty when absent. -/
structure Include where
  href : String
  media : String := ""
deriving DecidableEq, Repr

end CriticalCss.Probe

namespace CriticalCss

/-- A page backend. -/
structure Probe (m : Type → Type) where
  /-- The stylesheets a page links, in document order, each once. -/
  includes : String → m (Except Failure (List Probe.Include))
  /-- The selectors that match at least one element of a page. -/
  matchAny : String → List String → m (Except Failure (List String))
  /-- The selectors that match at least one element visible without
  scrolling in a viewport. -/
  matchAboveFold : String → Probe.Viewport → List String → m (Except Failure (List String))

end CriticalCss

namespace CriticalCss.Probe

/-- A backend asked from inside a monad its own lifts into. -/
def lift {m n : Type → Type} [MonadLiftT m n] (p : Probe m) : Probe n where
  includes page := monadLift (p.includes page)
  matchAny page selectors := monadLift (p.matchAny page selectors)
  matchAboveFold page vp selectors := monadLift (p.matchAboveFold page vp selectors)

end CriticalCss.Probe

import CriticalCss.Failure
import CriticalCss.Probe.Viewport
/-!
# What a run tells as it goes

A run of the generator tells what it does while it works: when it starts,
what it finds out about each page and stylesheet, each step of its
progress, and what it produced. The events carry the facts; how they are
written, and whether at all, is up to whoever listens.

## Main definitions

* `Event`: one thing a run tells.
-/

namespace CriticalCss.Generate

open CriticalCss.Probe

/-- One thing a run tells. -/
inductive Event where
  /-- A run starts: its pages, how many must succeed, its viewports. -/
  | started (pages : Nat) (required : Int) (viewports : Nat)
  /-- The stylesheets of a page could not be listed. -/
  | linksFailed (page : String) (failure : Failure)
  /-- A linked stylesheet is passed over: its media never apply to a screen. -/
  | skippedForMedia (href media : String)
  /-- A linked stylesheet is passed over: its address is not a url. -/
  | badHref (href : String) (failure : Failure)
  /-- A stylesheet text was read with problems it recovered from. -/
  | parsedWithProblems (bytes problems : Nat)
  /-- A new stylesheet text was filed: its url, size, rules and problems. -/
  | sheetFiled (url : String) (bytes rules problems : Nat)
  /-- A stylesheet text was filed before under its first url. -/
  | duplicate (url first : String)
  /-- A stylesheet could not be fetched or read. -/
  | sheetFailed (url : String) (failure : Failure)
  /-- A step of the run is done, of a total expected so far. -/
  | progress (step total : Int)
  /-- A page could not be probed; the next one is tried. -/
  | probeFailed (page : String) (failure : Failure)
  /-- The number of selectors above the fold of a page in a viewport. -/
  | aboveFold (page : String) (viewport : Viewport) (count : Nat)
  /-- The selectors were sorted: how many there are, above the fold,
  dangerous and critical. -/
  | resolved (selectors aboveFold dangerous critical : Nat)
  /-- A round of removing unused custom properties: its number from zero,
  the names still used and the declarations removed. -/
  | variablesPruned (round used removed : Nat)
  /-- The result could not be minified and is kept as it is. -/
  | minifyFailed (failure : Failure)
  /-- A run produced its result: its size, the stylesheets and selectors
  it kept and the warnings it gave. -/
  | finished (bytes stylesheets selectors warnings : Nat)

end CriticalCss.Generate

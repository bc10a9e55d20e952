import CriticalCss.Generate.Policy
import CriticalCss.Generate.Store
import CriticalCss.Probe.Basic
import CriticalCss.Probe.Tracker
import CriticalCss.Css.Media
import CriticalCss.Url.Resolve
import CriticalCss.Text.Space

/-!
# Generating critical css

A run takes page urls and viewports and produces the rules of the pages'
stylesheets that are needed to render what is visible without scrolling.

1. The request is checked: pages and viewports are given, viewports are
   positive and urls can be read.
2. Pages are taken in order until enough of them gave their stylesheets;
   only stylesheets that can apply to a screen are taken. A page whose
   stylesheets cannot be listed fails.
3. For each selector, the pages that include it are noted, before filters
   are applied to the stylesheets.
4. The pages that gave stylesheets are then probed in order until enough of
   them succeed: the selectors matching some element, and of those the ones
   matching an element above the fold in each viewport. A selector that
   matches a page none of whose stylesheets holds it is dangerous: its rules
   may style content they were not written for, so it is never critical.
5. The critical part of every stylesheet is joined and minified; a minifier
   failure only leaves the text unminified.

A step that does not reach the number of successful pages the policy
requires fails the run with the failures of the pages. A run whose result is
blank fails with an empty result for every valid page. A canceled call stops
the run at once.

Progress is reported after collecting and before each viewport of each
page, against a total of one step plus one per viewport of each required page,
raised when failed pages have to be replaced.

## Main definitions

* `Request`: what a run is asked.
* `Trace`: what a run found on the way.
* `Outcome`: the result, warnings, progress and page failures of a run.
* `generate`: a run, telling its events as it goes.
-/

namespace CriticalCss.Generate

open CriticalCss.Css
open CriticalCss.Probe
open CriticalCss.Text

/-- What a run is asked. -/
structure Request where
  urls : List String
  viewports : List Viewport
  filters : Filters := {}
  successRatio : Float := 1
  /-- The identifier of the run, written into its trace. -/
  runId : String := ""

/-- What a run found on the way. -/
structure Trace where
  runId : String
  validUrls : List String
  files : List SheetFile
  selectorPages : List (String × List String)
  critical : List String

/-- The result of a run: its text or failure, its warnings, its progress
reports, the page failures it recorded and its trace when it got that far. -/
structure Outcome where
  css : String := ""
  warnings : List Failure := []
  failure : Option Failure := none
  progress : List (Int × Int) := []
  tracker : Tracker := {}
  trace : Option Trace := none

/-- The reason a request cannot be run, if any. -/
def Request.problem (req : Request) : Option String :=
  if req.urls.isEmpty then some "no page urls"
  else if req.viewports.isEmpty then some "no viewports"
  else match req.viewports.find? (fun v => v.width ≤ 0 || v.height ≤ 0) with
    | some v => some ("bad viewport " ++ v.render)
    | none =>
      match req.urls.find? (fun u => (Url.parse u).toOption.isNone) with
      | some u => some ("bad page url " ++ quote u)
      | none => none

/-- Whether a link's media attribute lets the stylesheet apply to a screen. -/
def screenMedia (media : String) : Bool :=
  (trimSpace media).isEmpty || (parseMediaQueries media).any (·.useful)

/-- The absolute urls of the stylesheets of a page that can apply to a
screen, each once, in document order. -/
def stylesheetUrls (page : String) (links : List Include) : Except Failure (List String) :=
  match Url.parse page with
  | .error e => .error (.pageFailed page (urlFailure e))
  | .ok base =>
    .ok (links.foldl (fun acc link =>
      if !screenMedia link.media then acc
      else match Url.parse link.href with
        | .error _ => acc
        | .ok ref => appendNew acc (base.resolve ref).render) [])

/-- Sets the failure of a page in a map of failures. -/
def setFailure (errs : List (String × Failure)) (url : String) (f : Failure) :
    List (String × Failure) :=
  if (errs.lookup url).isSome then errs.map fun (u, g) => if u == url then (u, f) else (u, g)
  else errs ++ [(url, f)]

/-- The state of a run. -/
structure RunState where
  store : Store := {}
  tracker : Tracker := {}
  step : Int := 0
  total : Int := 0
  progress : List (Int × Int) := []

/-- One progress step. -/
def RunState.advance (s : RunState) : RunState :=
  let step := s.step + 1
  let total := max s.total step
  { s with step, total, progress := s.progress ++ [(step, total)] }

/-- What a run tells about the stylesheets a page links that it passes
over, in document order. -/
def linkEvents (links : List Include) : List Event :=
  links.filterMap fun link =>
    if !screenMedia link.media then some (.skippedForMedia link.href link.media)
    else match Url.parse link.href with
      | .error e => some (.badHref link.href (urlFailure e))
      | .ok _ => none

section

variable {m : Type → Type} [Monad m]

/-- One progress step, told to `note`. -/
def advance (note : Event → m Unit) : StateT RunState m Unit := do
  modify RunState.advance
  let s ← get
  note (.progress s.step s.total)

/-- Collects the stylesheets of pages in order until `policy` is reached.
Returns the pages collected and the failures of the others, or the failure
that stopped the run. -/
def collect (probe : Probe m) (fetch : String → m (Except Failure String)) (note : Event → m Unit)
    (policy : SuccessPolicy) : List String → List String → List (String × Failure) →
      StateT RunState m (Except Failure (List String × List (String × Failure)))
  | [], collected, errs => return .ok (collected, errs)
  | page :: rest, collected, errs => do
    let links ← probe.includes page
    match links.bind (stylesheetUrls page) with
    | .error e =>
      if e.stopsRun then return .error e
      note (.linksFailed page e)
      modify fun s => { s with tracker := s.tracker.track page e }
      collect probe fetch note policy rest collected (setFailure errs page e)
    | .ok hrefs =>
      (linkEvents (links.toOption.getD [])).forM fun ev => (note ev : StateT RunState m Unit)
      let s ← get
      match ← (s.store.addAll fetch note page hrefs : m (Except Failure Store)) with
      | .error e => return .error e
      | .ok store =>
        set { s with store }
        let collected := collected ++ [page]
        if policy.reached collected.length then return .ok (collected, errs)
        else collect probe fetch note policy rest collected errs

/-- Whether a selector comes from a stylesheet that a page includes. -/
def pagesHave (pages : List (String × List String)) (sel page : String) : Bool :=
  match pages.lookup sel with
  | some ps => ps.contains page
  | none => false

/-- Probes one page: the dangerous selectors it reveals and the selectors
above its fold in every viewport, or its failure. -/
def probePage (probe : Probe m) (note : Event → m Unit) (pages : List (String × List String))
    (viewports : List Viewport) (page : String) (selectors : List String) :
    StateT RunState m (Except Failure (List String × List String)) := do
  match ← probe.matchAny page selectors with
  | .error e => return .error e
  | .ok matched =>
    let dangerous := matched.filter fun s => !pagesHave pages s page
    let rec above : List Viewport → List String → StateT RunState m (Except Failure (List String))
      | [], acc => return .ok acc
      | vp :: vps, acc => do
        advance note
        match ← probe.matchAboveFold page vp matched with
        | .error e => return .error e
        | .ok found =>
          note (.aboveFold page vp found.length)
          above vps (acc ++ found)
    match ← above viewports [] with
    | .error e => return .error e
    | .ok found => return .ok (dangerous, found)

/-- The result of probing pages: the pages resolved, the selectors above
the fold and the dangerous ones. -/
structure Resolution where
  resolved : List String := []
  aboveFold : List String := []
  dangerous : List String := []
  errors : List (String × Failure) := []

/-- Probes pages in order until `policy` is reached, or the failure that
stopped the run. -/
def resolvePages (probe : Probe m) (note : Event → m Unit) (pages : List (String × List String))
    (viewports : List Viewport) (policy : SuccessPolicy) (selectors : List String) :
    List String → Resolution → StateT RunState m (Except Failure Resolution)
  | [], r => return .ok r
  | page :: rest, r => do
    if policy.reached r.resolved.length then return .ok r
    match ← probePage probe note pages viewports page selectors with
    | .error e =>
      if e.stopsRun then return .error e
      note (.probeFailed page e)
      modify fun s => { s with tracker := s.tracker.track page e }
      resolvePages probe note pages viewports policy selectors rest
        { r with errors := setFailure r.errors page e }
    | .ok (dangerous, above) =>
      resolvePages probe note pages viewports policy selectors rest
        { r with resolved := r.resolved ++ [page],
                 aboveFold := above.foldl appendNew r.aboveFold,
                 dangerous := dangerous.foldl appendNew r.dangerous }

/-- The body of a run after the request was checked. -/
def runChecked (probe : Probe m) (fetch : String → m (Except Failure String)) (note : Event → m Unit)
    (minify : String → Except Failure String) (req : Request) :
    StateT RunState m (Except Failure (String × List Failure) × Option Trace) := do
  let policy := SuccessPolicy.ofRatio req.urls.length req.successRatio
  modify fun s => { s with total := 1 + policy.required * req.viewports.length }
  note (.started req.urls.length policy.required req.viewports.length)
  match ← collect probe fetch note policy req.urls [] [] with
  | .error e => return (.error e, none)
  | .ok (collected, pageErrs) =>
    advance note
    let s ← get
    let validUrls := s.tracker.valid req.urls
    if let some f := policy.check validUrls.length pageErrs then return (.error f, none)
    let pages := s.store.selectorPages
    set { s with store := s.store.applyFilters req.filters }
    let selectors := pages.map (·.1)
    let start : Resolution := { errors := pageErrs }
    match ← resolvePages probe note pages req.viewports policy selectors (s.tracker.valid collected) start with
    | .error e => return (.error e, none)
    | .ok r =>
      if let some f := policy.check r.resolved.length r.errors then return (.error f, none)
      let critical := r.aboveFold.filter fun sel => !r.dangerous.contains sel
      note (.resolved selectors.length r.aboveFold.length r.dangerous.length critical.length)
      let s ← get
      let validUrls := s.tracker.valid req.urls
      (s.store.pruneEvents (critical.contains ·)).forM fun ev => (note ev : StateT RunState m Unit)
      let sheets := s.store.prunedSheets (critical.contains ·)
      let text := "\n".intercalate (sheets.map (·.css))
      let (text, minifyWarnings) := match minify text with
        | .ok minified => (minified, [])
        | .error e => (text, [Failure.minifyFailed e])
      if let some f := minifyWarnings.head? then note (.minifyFailed f)
      let trace : Trace :=
        { runId := req.runId, validUrls, files := s.store.sorted, selectorPages := pages, critical }
      if (trimSpace text).isEmpty then
        let empties := validUrls.map fun u => (u, Failure.emptyResult u)
        return (.error (.threshold policy.required validUrls.length empties), some trace)
      let warnings := s.store.errors ++ s.store.parseErrors ++ minifyWarnings
      note (.finished text.utf8ByteSize sheets.length critical.length warnings.length)
      return (.ok (text, warnings), some trace)

/-- A run: checks the request, then collects, probes and prunes, telling
`note` what happens as it goes. -/
def generate (probe : Probe m) (fetch : String → m (Except Failure String)) (note : Event → m Unit)
    (minify : String → Except Failure String) (req : Request) : m Outcome := do
  match req.problem with
  | some reason => return { failure := some (.configuration reason) }
  | none =>
    let ((result, trace), s) ← (runChecked probe fetch note minify req).run {}
    let base : Outcome := { progress := s.progress, tracker := s.tracker, trace }
    match result with
    | .ok (css, warnings) => return { base with css, warnings }
    | .error f => return { base with failure := some f }

end

end CriticalCss.Generate

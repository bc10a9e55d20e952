import CriticalCss.Probe.Devtools
import CriticalCss.Probe.Tracker
import CriticalCss.Log.Logger
import CriticalCss.Url.Basic
/-!
# Probing pages in a browser

The browser probe keeps one tab per page, opened the first time the page is
asked about and kept until the probe is cleaned up.

Opening a page adds the configured query parameters to its address, opens a
tab, sends it to the page and waits for the page to load, all within the
load timeout; then it reads the response status. A page that does not load
in time fails with a load timeout; a status of 400 or more fails with that
status; any other failure fails the page with its cause. A page that failed
to open keeps failing with the same failure, and its failure is tracked.
When the operation's own deadline passes first, the operation fails with it
and the page is tried again next time.

A script is run in a page's tab after the tab has been given the viewport
asked for, if it differs from the last one. Its result is read as the
expected type.

## Main definitions

* `BrowserSettings`, `Tab`, `BrowserProbe`, `Browsing`.
* `connect`, `includes`, `matchAny`, `matchAboveFold`, `cleanup`.
* `asProbe`: the probe as a page backend.
-/

namespace CriticalCss.Probe

open CriticalCss.Log CriticalCss.Url

/-- The fields that log a failure: its message under the key error, and the
messages of the failures it groups, if any, under errorCauses. -/
def failureFields (f : Failure) : List LogField :=
  ⟨"error", .failure f.message⟩ ::
    (if f.grouped.isEmpty then [] else [⟨"errorCauses", .failures (f.grouped.map (·.message))⟩])

/-- How the probe reaches and drives a browser. -/
structure BrowserSettings where
  /-- The address of a running browser; empty to start one. -/
  remoteUrl : String := ""
  /-- The program file to start a browser from. -/
  bin : String := ""
  headless : Bool := true
  stealth : Bool := false
  /-- How long a page may take to load, in nanoseconds. -/
  loadTimeout : Int := 60000000000
  /-- Query parameters added to every page address. -/
  getParameters : List (String × String) := []
  deriving Repr, Inhabited

/-- The tab of a page. -/
structure Tab where
  page : String
  /-- The browser's tab, once the page is open. -/
  id : Option Nat := none
  /-- The viewport last set, zero at first. -/
  viewport : Viewport := ⟨0, 0⟩
  /-- Whether opening the page was tried to the end. -/
  opened : Bool := false
  failure : Option Failure := none
  deriving Repr, Inhabited

/-- The state of the probe. -/
structure BrowserProbe where
  settings : BrowserSettings := {}
  log : Logger := Logger.nop
  /-- Whether the probe started the browser itself. -/
  launched : Bool := false
  tabs : List Tab := []
  /-- The tabs whose window object is known. -/
  windows : List Nat := []
  closed : Bool := false
  tracker : Tracker := {}
  deriving Inhabited

/-- A browser session: the browser's state, the probe, the host it logs to,
and the deadline of the current operation, in nanoseconds. -/
structure Browsing (σ : Type) where
  world : σ
  probe : BrowserProbe := {}
  host : Host := {}
  deadline : Option Int := none
  /-- Whether the current operation's deadline has passed. -/
  expired : Bool := false

/-- Steps of a browser session. -/
abbrev BrowseM (σ : Type) := StateM (Browsing σ)

variable {σ : Type}

/-- The place in the program that logs for the probe. -/
def probeSite : String := "probe/browser:1"

/-- Logs an entry through the probe's logger. -/
def note (level : Level) (message : String) (fields : List LogField := []) : BrowseM σ Unit :=
  modify fun s => { s with host := s.probe.log.log s.host level probeSite message fields }

/-- The probe's settings. -/
def settings : BrowseM σ BrowserSettings := return (← get).probe.settings

/-- Changes the probe. -/
def modifyProbe (f : BrowserProbe → BrowserProbe) : BrowseM σ Unit :=
  modify fun s => { s with probe := f s.probe }

/-- Sends a request and reads the answer: a refusal is a protocol failure,
and a request never answered ends with a deadline, the operation's own
unless the load timeout comes first for a request that `loading` is set
for. -/
def send (dt : Devtools σ) (req : Request) (loading : Bool := false) : BrowseM σ (Except Failure Answer) := do
  let s ← get
  let (world, answer) := dt.answer s.world req
  set { s with world }
  match answer with
  | .refused code message => return .error (.protocol code message)
  | .silent =>
    let own := match s.deadline with
      | some d => !loading || d ≤ s.probe.settings.loadTimeout
      | none => !loading
    if own then modify fun s => { s with expired := true }
    return .error .deadlineExceeded
  | a => return .ok a

/-- Sends requests in turn until one fails. -/
def sendAll (dt : Devtools σ) : List Request → BrowseM σ (Except Failure Unit)
  | [] => return .ok ()
  | r :: rest => do
    match ← send dt r with
    | .error f => return .error f
    | .ok _ => sendAll dt rest

/-- The address a connection to a url goes to: its host, with the default
port of the scheme when it names none. -/
def dialAddress (u : Url) : String :=
  let host := textOf u.host
  let hasPort := match lastIndexOf 0x3a u.host with
    | some i => validOptionalPort (u.host.drop i) && u.host.length > i + 1
    | none => false
  if hasPort then host else host ++ (if u.scheme == "wss" then ":443" else ":80")

/-- Connects to the configured browser, starting it first when no address
is configured. -/
def connect (dt : Devtools σ) : BrowseM σ (Except Failure Unit) := do
  let st ← settings
  let address ← if st.remoteUrl.isEmpty then do
      let s ← get
      let (world, started) := dt.launch s.world st.bin
      set { s with world }
      match started with
      | .error e => return .error (Failure.wrapped "unable to launch browser: " (.plain e))
      | .ok url =>
        modifyProbe fun p => { p with launched := true }
        note .debug "Browser launched" [⟨"url", .text url⟩, ⟨"headless", .bool st.headless⟩]
        pure (Except.ok url)
    else do
      note .debug "Connecting to remote browser" [⟨"url", .text st.remoteUrl⟩]
      pure (Except.ok st.remoteUrl)
  let fail (f : Failure) : Except Failure Unit := .error (.wrapped "unable to connect to browser: " f)
  match address with
  | .error f => return .error f
  | .ok address =>
  match Url.parse address with
  | .error e => return fail (.plain e.message)
  | .ok u =>
    let addr := dialAddress u
    if !dt.listens (← get).world addr then
      return fail (.plain ("dial tcp " ++ addr ++ ": connect: connection refused"))
    match ← send dt .discoverTargets with
    | .error f => return fail f
    | .ok _ => return .ok ()

/-- A page address with query parameters added after its own, in order of
their names. -/
def withGetParameters (page : String) (params : List (String × String)) : Except Failure String :=
  if params.isEmpty then .ok page
  else
    match Url.parse page with
    | .error e => .error (.plain e.message)
    | .ok u =>
      let sorted := params.mergeSort fun a b => a.1 ≤ b.1
      let added := "&".intercalate (sorted.map fun (k, v) => escape k .queryComponent ++ "=" ++ escape v .queryComponent)
      let query := if u.rawQuery.isEmpty then added else textOf u.rawQuery ++ "&" ++ added
      .ok { u with rawQuery := bytesOf query }.render

/-- The window size a new tab starts with. -/
def startViewport : Viewport := ⟨1280, 800⟩

/-- Opens a tab set up for a page. -/
def newTab (dt : Devtools σ) : BrowseM σ (Except Failure Nat) := do
  match ← send dt .createTarget with
  | .error f => return .error f
  | .ok (.opened tab) =>
    let setup := [Request.attach tab, .setViewport tab startViewport.width startViewport.height,
      .setTouch tab, .setUserAgent tab] ++ (if (← settings).stealth then [.addScript tab] else [])
    match ← sendAll dt setup with
    | .error f => return .error f
    | .ok _ => return .ok tab
  | .ok _ => return .error (.plain "no tab was opened")

/-- Runs a script in a tab, finding its window object first when that is
not known yet. -/
def runScript (dt : Devtools σ) (tab : Nat) (script : Script) (pairs : List (String × String))
    (loading : Bool := false) : BrowseM σ (Except Failure ScriptValue) := do
  if !(← get).probe.windows.contains tab then
    match ← send dt (.window tab) loading with
    | .error f => return .error f
    | .ok _ => modifyProbe fun p => { p with windows := tab :: p.windows }
  match ← send dt (.run tab script pairs) loading with
  | .error f => return .error f
  | .ok (.value v) => return .ok v
  | .ok (.thrown d) => return .error (.scriptThrew d)
  | .ok _ => return .ok .null

/-- Sends a tab to an address and waits for the page to load. -/
def navigate (dt : Devtools σ) (tab : Nat) (target : String) : BrowseM σ (Except Failure Unit) := do
  match ← send dt (.navigate tab target) true with
  | .error f => return .error f
  | .ok (.navigated reason) =>
    if !reason.isEmpty then return .error (.navigation reason)
    modifyProbe fun p => { p with windows := p.windows.filter (· != tab) }
    match ← runScript dt tab .load [] true with
    | .error f => return .error f
    | .ok _ => return .ok ()
  | .ok _ => return .ok ()

/-- Closes a tab, whatever the browser says. -/
def dropTab (dt : Devtools σ) (tab : Nat) : BrowseM σ Unit := do
  let _ ← send dt (.closeTab tab)

/-- Opens a page in a new tab: the tab, or why the page failed. -/
def openPage (dt : Devtools σ) (page : String) : BrowseM σ (Except Failure Nat) := do
  let st ← settings
  match withGetParameters page st.getParameters with
  | .error f => return .error (.pageFailed page f)
  | .ok target =>
  match ← newTab dt with
  | .error f => return .error (.pageFailed page f)
  | .ok tab =>
  match ← navigate dt tab target with
  | .error f =>
    dropTab dt tab
    if !(← get).expired && f matches .deadlineExceeded then
      return .error (.loadTimeout page st.loadTimeout)
    return .error (.pageFailed page f)
  | .ok _ =>
  match ← runScript dt tab .status [] with
  | .error f =>
    dropTab dt tab
    return .error (.pageFailed page f)
  | .ok v =>
    let code := v.toStatus
    if code ≥ 400 then
      dropTab dt tab
      return .error (.httpStatus page code)
    note .debug "Page loaded" [⟨"url", .text target⟩]
    return .ok tab

/-- The tab of a page, set by `f`. -/
def setTab (page : String) (f : Tab → Tab) : BrowseM σ Unit :=
  modifyProbe fun p => { p with tabs := p.tabs.map fun t => if t.page == page then f t else t }

/-- The open tab of a page, opening the page the first time. -/
def tabFor (dt : Devtools σ) (page : String) : BrowseM σ (Except Failure Tab) := do
  let p := (← get).probe
  if p.closed then return .error (.plain "browser probe is closed")
  if !p.tabs.any (·.page == page) then
    modifyProbe fun p => { p with tabs := p.tabs ++ [{ page }] }
  let t := ((← get).probe.tabs.find? (·.page == page)).getD { page }
  if !t.opened then
    match ← openPage dt page with
    | .error f =>
      if (← get).expired then return .error .deadlineExceeded
      note .warn "Unable to load page" [⟨"url", .text page⟩, ⟨"error", .failure f.message⟩]
      modifyProbe fun p => { p with tracker := p.tracker.track page f }
      setTab page fun t => { t with opened := true, failure := some f }
      return .error f
    | .ok id =>
      setTab page fun t => { t with opened := true, id := some id }
      return .ok { t with opened := true, id := some id }
  match t.failure with
  | some f => return .error f
  | none => return .ok t

/-- Runs a script in a page, in a viewport when one is given. -/
def evalIn (dt : Devtools σ) (page : String) (vp : Option Viewport) (script : Script)
    (pairs : List (String × String)) : BrowseM σ (Except Failure ScriptValue) := do
  match ← tabFor dt page with
  | .error f => return .error f
  | .ok t =>
  let tab := t.id.getD 0
  if let some v := vp then
    if v != t.viewport then
      match ← send dt (.setViewport tab v.width v.height) with
      | .error f =>
        return .error (.pageFailed page (.wrapped ("unable to set viewport " ++ v.render ++ ": ") f))
      | .ok _ => setTab page fun t => { t with viewport := v }
  match ← runScript dt tab script pairs with
  | .error f => return .error (if (← get).expired then .deadlineExceeded else .pageFailed page f)
  | .ok v => return .ok v

/-- A result read as the expected type, or the page failed with the reason. -/
def readResult {α : Type} (page : String) (read : ScriptValue → Except String α) :
    Except Failure ScriptValue → Except Failure α
  | .error f => .error f
  | .ok v => (read v).mapError fun e => .pageFailed page (.wrapped "unexpected script result: " (.plain e))

/-- The stylesheets a page links. -/
def Devtools.includes (dt : Devtools σ) (page : String) : BrowseM σ (Except Failure (List Include)) := do
  return readResult page ScriptValue.toIncludes (← evalIn dt page none .includes [])

/-- The selectors that match some element of a page. -/
def Devtools.matchAny (dt : Devtools σ) (page : String) (selectors : List String) :
    BrowseM σ (Except Failure (List String)) := do
  return readResult page ScriptValue.toTexts (← evalIn dt page none .matchAny (queryPairs selectors))

/-- The selectors that match some element of a page above the fold. -/
def Devtools.matchAboveFold (dt : Devtools σ) (page : String) (vp : Viewport) (selectors : List String) :
    BrowseM σ (Except Failure (List String)) := do
  return readResult page ScriptValue.toTexts (← evalIn dt page (some vp) .aboveFold (queryPairs selectors))

/-- Closes every open tab, and the browser when the probe started it. Later
operations fail. -/
def cleanup (dt : Devtools σ) : BrowseM σ (Except Failure Unit) := do
  let p := (← get).probe
  if p.closed then return .ok ()
  modifyProbe fun p => { p with closed := true, tabs := [] }
  let mut failures : List Failure := []
  for t in p.tabs do
    if let some tab := t.id then
      match ← send dt (.closeTab tab) with
      | .error f => failures := failures ++ [.wrapped ("unable to close page " ++ t.page ++ ": ") f]
      | .ok _ => pure ()
  if p.launched then
    match ← send dt .closeBrowser with
    | .error f => failures := failures ++ [.wrapped "unable to close browser: " f]
    | .ok _ => pure ()
  let failure : Option Failure := match failures with
    | [] => none
    | [f] => some f
    | fs => some (.combined fs)
  note .debug "Browser cleanup done" (⟨"tabs", .int p.tabs.length⟩ :: (failure.map failureFields).getD [])
  return match failure with
    | some f => .error f
    | none => .ok ()

/-- The browser probe as a page backend. -/
def asProbe (dt : Devtools σ) : Probe (BrowseM σ) where
  includes := dt.includes
  matchAny := dt.matchAny
  matchAboveFold := dt.matchAboveFold

end CriticalCss.Probe

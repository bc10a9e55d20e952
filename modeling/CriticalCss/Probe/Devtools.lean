import CriticalCss.Probe.Script
import CriticalCss.Probe.Viewport
/-!
# The browser's side of the probe

The probe drives a browser through its debugging protocol: it opens tabs,
sets their window size, sends them to pages and runs scripts in them. The
browser answers each request, refuses it with a protocol error, or never
answers at all; a request that is never answered ends when the deadline of
the operation that made it passes.

A browser is reached at an address, or started from a program file first.
Both can fail: an address where nothing listens refuses the connection, and
a program file that is missing cannot be started.

## Main definitions

* `Request`, `Answer`: what the probe asks and what it is told.
* `Devtools`: a browser as a state the requests move on.
-/

namespace CriticalCss.Probe

/-- A request to the browser; tabs are named by numbers the browser gives. -/
inductive Request where
  /-- Asks to be told of tabs as they come and go; sent on connecting. -/
  | discoverTargets
  /-- Opens a blank tab. -/
  | createTarget
  | attach (tab : Nat)
  /-- Sets the window size of a tab. -/
  | setViewport (tab : Nat) (width height : Int)
  | setTouch (tab : Nat)
  | setUserAgent (tab : Nat)
  /-- Adds a script run in every document the tab loads. -/
  | addScript (tab : Nat)
  | stopLoading (tab : Nat)
  /-- Sends a tab to a page. -/
  | navigate (tab : Nat) (url : String)
  /-- Finds the window object of a tab's page, for scripts to run on. -/
  | window (tab : Nat)
  /-- Runs a script with selectors and their query forms. -/
  | run (tab : Nat) (script : Script) (pairs : List (String × String))
  | closeTab (tab : Nat)
  | closeBrowser
  deriving Repr, Inhabited

/-- The protocol method of a request. -/
def Request.method : Request → String
  | .discoverTargets => "Target.setDiscoverTargets"
  | .createTarget => "Target.createTarget"
  | .attach _ => "Target.attachToTarget"
  | .setViewport .. => "Emulation.setDeviceMetricsOverride"
  | .setTouch _ => "Emulation.setTouchEmulationEnabled"
  | .setUserAgent _ => "Network.setUserAgentOverride"
  | .addScript _ => "Page.addScriptToEvaluateOnNewDocument"
  | .stopLoading _ => "Page.stopLoading"
  | .navigate .. => "Page.navigate"
  | .window _ => "Runtime.evaluate"
  | .run .. => "Runtime.callFunctionOn"
  | .closeTab _ => "Page.close"
  | .closeBrowser => "Browser.close"

/-- How the browser answers a request. -/
inductive Answer where
  | done
  /-- A new tab. -/
  | opened (tab : Nat)
  /-- A navigation, with the reason it failed, empty when it did not. -/
  | navigated (failure : String)
  /-- The value a script returned. -/
  | value (v : ScriptValue)
  /-- A script threw; the description of what it threw. -/
  | thrown (description : String)
  /-- The request was refused with a protocol error. -/
  | refused (code : Int) (message : String)
  /-- The request is never answered. -/
  | silent
  deriving Repr, Inhabited

/-- A browser as a state that requests move on, and the world around it:
which addresses accept connections, and which program files start a
browser, at what address. -/
structure Devtools (σ : Type) where
  answer : σ → Request → σ × Answer
  /-- Whether a `host:port` address accepts connections. -/
  listens : σ → String → Bool
  /-- Starts a browser from a program file: its address, or why it could
  not be started. -/
  launch : σ → String → σ × Except String String

end CriticalCss.Probe

import CriticalCss.Log.Logger
import CriticalCss.Config.Basic
import CriticalCss.Report
/-!
# The session of a run

A session holds what a run sets up before it works: its configuration, the
report when one is made, and its logger, with the moment it started. Until
logging is set up the session's logger writes nothing. A step of a run
that is handed no session cannot go on.

## Main definitions

* `Session`: the state a run sets up.
* `Session.logger`, `Session.uptime`.
* `Session.ofContext`: the session a step was handed.
-/

namespace CriticalCss

open CriticalCss.Config CriticalCss.Log

/-- What a run sets up before it works. -/
structure Session where
  config : Option Configuration := none
  report : Option Report := none
  log : Option Logger := none
  /-- Whether outputs that exist may be replaced. -/
  overwrite : Bool := false
  /-- The clock reading when the run started. -/
  start : Nat := 0
  deriving Inhabited

/-- A new session started now. -/
def Session.begin (h : Host) : Host × Session :=
  let (h, start) := h.now
  (h, { start })

/-- The session's logger, or one that writes nothing when logging is not
set up yet. -/
def Session.logger (s : Session) : Logger := s.log.getD Logger.nop

/-- How long the session has run, in nanoseconds. -/
def Session.uptime (h : Host) (s : Session) : Host × Int :=
  let (h, now) := h.now
  (h, (now : Int) - s.start)

/-- Why a step handed no session stops. -/
def missingSession : String := "localenv not found in context"

/-- The session a step was handed, if it was handed one. -/
def Session.ofContext : Option Session → Except String Session
  | some s => .ok s
  | none => .error missingSession

end CriticalCss

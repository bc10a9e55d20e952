import CriticalCss.Text.Duration
import CriticalCss.Text.Natural
import CriticalCss.Text.Quote

/-!
# Failures

Why a page, a stylesheet or a whole run could not be processed. A failure
either stands alone or wraps the failure that caused it, and its message
includes the cause's message. A run that did not get enough good pages
fails with the failure of every page it tried.

## Main definitions

* `Failure`: the kinds of failure.
* `Failure.message`: its text.
* `Failure.causes`: the messages of the failures it wraps, innermost last.
-/

namespace CriticalCss

open CriticalCss.Text

/-- Why something could not be processed. -/
inductive Failure where
  /-- A failure known by its message only. -/
  | plain (text : String)
  /-- A failure with context written before its cause. -/
  | wrapped (context : String) (cause : Failure)
  /-- A page served with an error status. -/
  | httpStatus (url : String) (code : Int)
  /-- A page that did not finish loading in time, in nanoseconds. -/
  | loadTimeout (url : String) (timeout : Int)
  /-- A page whose navigation or scripts failed. -/
  | pageFailed (url : String) (cause : Failure)
  /-- A stylesheet that could not be fetched or read. -/
  | fetchFailed (url : String) (cause : Failure)
  /-- A page for which no critical css was found. -/
  | emptyResult (url : String)
  /-- The minifier failed; the text is used unminified. -/
  | minifyFailed (cause : Failure)
  /-- A request that cannot be run. -/
  | configuration (reason : String)
  /-- Too few pages succeeded: the number required, the number that
  succeeded, and the failure of each page that did not. -/
  | threshold (required succeeded : Int) (errors : List (String × Failure))
  /-- A failed operation on a url: the operation, the url and the cause. -/
  | urlError (op url : String) (cause : Failure)
  /-- The run was canceled. -/
  | canceled
  /-- The run ran out of time. -/
  | deadlineExceeded
  /-- A browser refused a request with a protocol error. -/
  | protocol (code : Int) (message : String)
  /-- A browser could not go to a page, for the reason it gave. -/
  | navigation (reason : String)
  /-- A script threw in a page; what it threw. -/
  | scriptThrew (description : String)
  /-- Several failures of one step, in the order they happened. -/
  | combined (failures : List Failure)
deriving Repr, Inhabited

mutual

/-- The text of a failure. -/
def Failure.message : Failure → String
  | .plain text => text
  | .wrapped context cause => context ++ cause.message
  | .httpStatus url code => "page " ++ url ++ " returned HTTP status " ++ toString code
  | .loadTimeout url timeout => "page " ++ url ++ " did not load in " ++ durationText timeout
  | .pageFailed url cause => "unable to process page " ++ url ++ ": " ++ cause.message
  | .fetchFailed url cause => "unable to fetch css " ++ url ++ ": " ++ cause.message
  | .emptyResult url => "no critical css found for page " ++ url
  | .minifyFailed cause => "minification failed, using unminified css: " ++ cause.message
  | .configuration reason => "invalid configuration: " ++ reason
  | .threshold required succeeded errors =>
    let head :=
      if required ≤ succeeded then
        "no critical css produced by " ++ toString succeeded ++ " successful pages"
      else
        "insufficient successful pages: " ++ toString succeeded ++ " of " ++ toString required ++
          " required"
    head ++ String.join ((naturalSortOn (·.1) (entryMessages errors)).map fun (_, m) => "; " ++ m)
  | .urlError op url cause => op ++ " " ++ quote url ++ ": " ++ cause.message
  | .canceled => "context canceled"
  | .deadlineExceeded => "context deadline exceeded"
  | .protocol code message => "\x7b" ++ toString code ++ " " ++ message ++ " \x7d"
  | .navigation reason => "navigation failed: " ++ reason
  | .scriptThrew description => "eval js error: " ++ description ++ " <nil>"
  | .combined failures => combinedMessage failures

/-- The messages of several failures, separated by semicolons. -/
def combinedMessage : List Failure → String
  | [] => ""
  | [f] => f.message
  | f :: rest => f.message ++ "; " ++ combinedMessage rest

/-- The messages of the failures of pages, with their urls. -/
def entryMessages : List (String × Failure) → List (String × String)
  | [] => []
  | (url, f) :: rest => (url, f.message) :: entryMessages rest

end

/-- Whether a failure means that the run was stopped from outside. -/
def Failure.stopsRun : Failure → Bool
  | .canceled | .deadlineExceeded => true
  | _ => false

/-- The messages of the failures a failure wraps, outermost first. -/
def Failure.causes : Failure → List String
  | .wrapped _ cause | .pageFailed _ cause | .fetchFailed _ cause | .minifyFailed cause
  | .urlError _ _ cause => cause.message :: cause.causes
  | _ => []

/-- The failures a combined failure groups, in order; none for any other
failure. -/
def Failure.grouped : Failure → List Failure
  | .combined failures => failures
  | _ => []

/-- The failures of the pages of a threshold failure, in natural order of
their urls. -/
def Failure.pageFailures : Failure → List (String × Failure)
  | .threshold _ _ errors => naturalSortOn (·.1) errors
  | _ => []

end CriticalCss

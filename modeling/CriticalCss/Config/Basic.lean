import CriticalCss.Text.Path
/-!
# Configuration

The configuration of a run, as read from its YAML file:

* `generation`: the viewports to probe pages with (`WIDTHxHEIGHT`), the part
  of pages that must succeed, how many stylesheets of a page are fetched at
  once, the minifier, patterns of properties and at-rules to leave out, and
  the template of output file names;
* `fetch`: the timeout, the user agent, the size limit and cache size of
  stylesheets, an encoding forced on all of them, and request headers;
* `browser`: a running browser to connect to or a binary to launch, whether
  it is headless or stealthy, the page load timeout and query parameters
  added to every page;
* `logging`: a file log and the console log, each with a level, and for
  the file a destination and whether it is appended to or overwritten;
* `reporting`: where the debug report is written.

Durations are counted in nanoseconds and the minifier by its number. Header
values are secrets: they are shown as `<secret>`, or as nothing when empty,
and revealed only to the requests that carry them.

## Main definitions

* `Configuration` and its parts.
* `secretText`, `revealHeaders`: showing and revealing secrets.
* `appName`: the name of the program from the path it was started by.
-/

namespace CriticalCss.Config

/-- Patterns of what is left out of critical css. -/
structure FiltersConfig where
  excludeProperties : List String := []
  excludeAtRules : List String := []
  deriving Repr, Inhabited

/-- How critical css is generated. -/
structure GenerationConfig where
  viewports : List String := []
  successRatio : Float := 0
  concurrency : Int := 0
  minifier : Int := 0
  filters : FiltersConfig := {}
  outputNameTemplate : String := ""
  deriving Repr, Inhabited

/-- How stylesheets are fetched. Header values are secrets. -/
structure FetchConfig where
  timeout : Int := 0
  userAgent : String := ""
  maxSize : Int := 0
  cacheSize : Int := 0
  charset : String := ""
  headers : List (String × String) := []
  deriving Repr, Inhabited

/-- How the browser is reached and pages are loaded. -/
structure BrowserConfig where
  remoteUrl : String := ""
  bin : String := ""
  headless : Bool := false
  stealth : Bool := false
  loadTimeout : Int := 0
  getParameters : List (String × String) := []
  deriving Repr, Inhabited

/-- One log: its level, and for a file its destination and mode. -/
structure LoggerConfig where
  level : String := ""
  destination : String := ""
  mode : String := ""
  deriving Repr, Inhabited

/-- The file log and the console log. -/
structure LoggingConfig where
  file : LoggerConfig := {}
  console : LoggerConfig := {}
  deriving Repr, Inhabited

/-- Where the debug report goes. -/
structure ReporterConfig where
  destination : String := ""
  deriving Repr, Inhabited

/-- The configuration of a run. -/
structure Configuration where
  version : Int := 0
  generation : GenerationConfig := {}
  fetch : FetchConfig := {}
  browser : BrowserConfig := {}
  logging : LoggingConfig := {}
  reporting : ReporterConfig := {}
  deriving Repr, Inhabited

/-- What stands for a secret in any output. -/
def secretMark : String := "<secret>"

/-- The shown text of a secret: nothing when it is empty. -/
def secretText (s : String) : String := if s.isEmpty then "" else secretMark

/-- The headers with their values revealed; `none` when there are none. -/
def revealHeaders (headers : List (String × String)) : Option (List (String × String)) :=
  if headers.isEmpty then none else some headers

/-- The name of the program from the path it was started by: the file name
without its extension, or `critcss` when that is empty or names a test
binary. -/
def appName (argv0 : String) : String :=
  let base := Text.pathBase argv0
  let name := (base.dropEnd (Text.pathExt argv0).length).toString
  if name.isEmpty || name.endsWith ".test" then "critcss" else name

/-- The version of the program. -/
def programVersion : String := "dev"

/-- The revision the program was built from. -/
def gitHash : String := "unknown"

end CriticalCss.Config

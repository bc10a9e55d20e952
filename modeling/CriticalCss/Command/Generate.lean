import CriticalCss.Command.Line
import CriticalCss.Session
import CriticalCss.Probe.Browser
import CriticalCss.Generate.Run
import CriticalCss.Generate.Dump
import CriticalCss.Fetch.Basic
import CriticalCss.Output.Name
import CriticalCss.Url.Page
import CriticalCss.Css.Filter
import CriticalCss.Css.Minify.Kind
import CriticalCss.Config.Load
/-!
# The generate command

`generate` takes page urls and writes their critical css.

1. The urls must be absolute `http`, `https` or `file` urls; each is kept in
   its standard form.
2. The flags replace the configured viewports, success ratio and charset,
   and say whether an existing output may be replaced. A charset that the
   registry does not know is warned about and passed over.
3. The browser is reached; failing that, the command fails.
4. The run is checked, stylesheets are fetched from the pages' files, and
   the pages are probed; every event of the run is logged. The browser is
   cleaned up in every case, and a failure to clean up is warned about.
5. Warnings of the run are logged; a debug report keeps the run's trace and
   result.
6. The result goes to standard output for the destination `-`; otherwise to
   a file named by the name template, at the destination when it ends in
   `.css`, in the destination directory, or in the working directory.

The run is identified by a time-ordered UUID made from the clock.

## Main definitions

* `RunM`: steps of a run of the program.
* `eventEntry`: how an event of a run is logged.
* `generatePages`: the command.
-/

namespace CriticalCss.Command

open CriticalCss.Log CriticalCss.Probe CriticalCss.Config CriticalCss.Generate CriticalCss.Files

/-- Steps of a run of the program: its session over a browser session. -/
abbrev RunM (σ : Type) := StateT Session (BrowseM σ)

/-- Steps of a generation run: the fetcher's cache over a browser session. -/
abbrev FetchM (σ : Type) := StateT Fetch.Fetcher (BrowseM σ)

variable {σ : Type}

/-- The host. -/
def host : BrowseM σ Host := return (← get).host

/-- Replaces the host. -/
def setHost (h : Host) : BrowseM σ Unit := modify fun s => { s with host := h }

/-- Changes the host. -/
def modifyHost (f : Host → Host) : BrowseM σ Unit := modify fun s => { s with host := f s.host }

/-- Reads the clock. -/
def readClock : BrowseM σ Nat := do
  let (h, t) := (← host).now
  setHost h
  return t

/-- Writes an entry through a logger, from a place of the program. -/
def say (lg : Logger) (site : String) (level : Level) (message : String) (fields : List LogField := []) :
    BrowseM σ Unit :=
  modifyHost fun h => lg.log h level site message fields

/-- Writes text to standard output. -/
def printOut (text : String) : BrowseM σ Unit := modifyHost (·.print text)

/-- Stores data in a report. -/
def storeText (r : Report) (name text : String) : BrowseM σ Report := do
  let (h, r) := Report.storeData (← host) r name text.toUTF8.toList
  setHost h
  return r

/-- A step on the browser session taken in a run of the program. -/
def browse {α : Type} (x : BrowseM σ α) : RunM σ α := monadLift x

/-- The place the command logs from. -/
def commandSite : String := "command/generate:1"

/-- The identifier of a run started at a clock reading, as a time-ordered
UUID: the milliseconds, the version digit 7, the rest of the reading, and
the variant bits. -/
def runIdAt (nanos : Nat) : String :=
  let ms := nanos / 1000000
  let rest := nanos % 1000000
  Text.hexDigits 8 (ms / 65536 % 4294967296) ++ "-" ++ Text.hexDigits 4 (ms % 65536) ++ "-7" ++
    Text.hexDigits 3 (rest / 4096 % 4096) ++ "-8" ++ Text.hexDigits 3 (rest % 4096) ++ "-" ++
    Text.hexDigits 12 rest

/-- Which logger tells an event of a run: the run's, its stylesheet
store's, the stylesheet reader's, or the command's. -/
inductive Voice where
  | run
  | store
  | reader
  | command

/-- The place in the program each logger logs from. -/
def Voice.site : Voice → String
  | .run => "generate/run:1"
  | .store => "generate/store:1"
  | .reader => "css/parse:1"
  | .command => commandSite

/-- A field holding a count. -/
def countField (key : String) (n : Nat) : LogField := ⟨key, .int n⟩

/-- A field holding a failure. -/
def failureField (f : Failure) : LogField := ⟨"error", .failure f.message⟩

/-- How an event of a run is logged: by which logger, at which level, with
which message and fields. -/
def eventEntry : Event → Voice × Level × String × List LogField
  | .started pages required viewports =>
    (.run, .info, "Generating critical css",
      [countField "pages" pages, ⟨"required", .int required⟩, countField "viewports" viewports])
  | .linksFailed page f => (.run, .warn, "Unable to get page stylesheets", [⟨"url", .text page⟩, failureField f])
  | .skippedForMedia href media =>
    (.run, .debug, "Stylesheet skipped for media", [⟨"href", .text href⟩, ⟨"media", .text media⟩])
  | .badHref href f => (.run, .debug, "Bad stylesheet href", [⟨"href", .text href⟩, failureField f])
  | .parsedWithProblems bytes problems =>
    (.reader, .debug, "CSS parsed with errors", [countField "bytes" bytes, countField "errors" problems])
  | .sheetFiled url bytes rules problems =>
    (.store, .debug, "New css file", [⟨"url", .text url⟩, countField "bytes" bytes, countField "rules" rules,
      countField "parse errors" problems])
  | .duplicate url first =>
    (.store, .debug, "Duplicate css content", [⟨"url", .text url⟩, ⟨"original", .text first⟩])
  | .sheetFailed url f => (.store, .warn, "Unable to load css", [⟨"url", .text url⟩, failureField f])
  | .progress step total => (.command, .debug, "Progress", [⟨"step", .int step⟩, ⟨"total", .int total⟩])
  | .probeFailed page f =>
    (.run, .warn, "Unable to resolve selectors, trying next page", [⟨"url", .text page⟩, failureField f])
  | .aboveFold page vp count =>
    (.run, .debug, "Above fold selectors",
      [⟨"url", .text page⟩, ⟨"viewport", .text vp.render⟩, countField "count" count])
  | .resolved selectors above dangerous critical =>
    (.run, .debug, "Selectors resolved", [countField "selectors" selectors, countField "above fold" above,
      countField "dangerous" dangerous, countField "critical" critical])
  | .variablesPruned round used removed =>
    (.store, .debug, "Unused variables pruned",
      [countField "round" round, countField "used" used, countField "removed" removed])
  | .minifyFailed f => (.run, .warn, "Unable to minify css", [failureField f])
  | .finished bytes sheets selectors warnings =>
    (.run, .info, "Critical css generated", [countField "bytes" bytes, countField "stylesheets" sheets,
      countField "selectors" selectors, countField "warnings" warnings])

/-- The loggers of a run under the program's logger, the run's ones
telling its identifier. -/
def voices (base : Logger) (runId : String) : Voice → Logger
  | .run => (base.child "critical").withFields [⟨"run", .text runId⟩]
  | .store => ((base.child "critical").withFields [⟨"run", .text runId⟩]).child "css-store"
  | .reader => (((base.child "critical").withFields [⟨"run", .text runId⟩]).child "css-store").child "css-parser"
  | .command => base.child "generate"

/-- Logs an event of a run. -/
def tell (loggers : Voice → Logger) (ev : Event) : FetchM σ Unit :=
  let (voice, level, message, fields) := eventEntry ev
  monadLift (say (loggers voice) voice.site level message fields : BrowseM σ Unit)

/-- The files of a disk, served by path. -/
def servedFiles (d : Disk) : Fetch.FileTree :=
  { files := d.entries.filterMap fun (p, e) =>
      match e with
      | .file data => some (p, data)
      | _ => none }

/-- How a note of a fetch is logged. -/
def fetchEntry : Fetch.FetchNote → String × List LogField
  | .cached url => ("Cached css", [⟨"url", .text url⟩])
  | .detected encoding => ("Detected css encoding", [⟨"encoding", .text encoding⟩])
  | .fetched url status bytes =>
    ("Fetched css", [⟨"url", .text url⟩, countField "status" status, countField "bytes" bytes])

/-- Fetches a stylesheet from the host's files, logging what the fetch
tells. -/
def fetchSheet (lg : Logger) (url : String) : FetchM σ (Except Failure String) := do
  let f ← get
  let tree := servedFiles (← monadLift (host : BrowseM σ Host)).disk
  for note in f.notes tree url do
    let (message, fields) := fetchEntry note
    monadLift (say lg "fetch/basic:1" .debug message fields : BrowseM σ Unit)
  let (f, r) := f.fetch tree url
  set f
  return r

/-- The encoding all stylesheets are read in, when a known name is given:
an unknown name is warned about and passed over. -/
def forcedCharset (lg : Logger) (name : String) : BrowseM σ (Option Text.Encoding) := do
  let name := Text.trimSpace name
  if name.isEmpty then return none
  match Text.ianaEncoding name with
  | none =>
    say lg commandSite .warn "Unknown character set specification. Ignoring..."
      [⟨"charset", .text name⟩, ⟨"error", .failure "ianaindex: invalid encoding name"⟩]
    return none
  | some (registered, enc) =>
    say lg commandSite .debug "Forcefully decoding all stylesheets" [⟨"charset", .text registered⟩]
    return some enc

/-- Where the result goes: a destination ending in `.css`, in any case, is
the file itself; any other destination, or the working directory when it is
empty, is the directory the file goes into. -/
def outputPath (h : Host) (dst name : String) : String :=
  if (Text.pathExt dst).toLower == Output.outputExtension then h.abs dst
  else h.abs (if dst.isEmpty then name else dst ++ "/" ++ name)

/-- Saves the result at a path: an existing file is kept unless it may be
replaced, the directory is made, then the file is written. -/
def writeOutput (d : Disk) (path : String) (data : List UInt8) (overwrite : Bool) : Except String Disk := do
  if !overwrite && (d.stat path).toOption.isSome then throw ("output file already exists: " ++ path)
  let d ← (d.mkdirAll (Text.pathDir path)).mapError ("unable to create output directory: " ++ ·.message)
  (d.writeFile path data).mapError ("unable to write output: " ++ ·.message)

/-- The exclusion filters of a configuration. -/
def filtersOf (c : FiltersConfig) : Except Css.FilterError Css.Filters :=
  ({ excludeProperties := c.excludeProperties, excludeAtRules := c.excludeAtRules } : Css.FilterConfig).build

/-- The browser settings of a configuration. -/
def browserSettings (b : BrowserConfig) : BrowserSettings :=
  { remoteUrl := b.remoteUrl, bin := b.bin, headless := b.headless, stealth := b.stealth,
    loadTimeout := b.loadTimeout, getParameters := b.getParameters }

/-- Cleans the browser up, ignoring how that went. -/
def dropBrowser (dt : Devtools σ) : BrowseM σ Unit := do
  let _ ← cleanup dt

/-- Generates the critical css of pages and saves it, the browser being
ready. The browser is always cleaned up. -/
def process (dt : Devtools σ) (conf : Configuration) (forced : Option Text.Encoding) (urls : List String)
    (dst : String) : RunM σ (Except String Unit) := do
  let base := (← get).logger
  let lg := base.child "generate"
  match conf.generation.parsedViewports with
  | .error e => browse (dropBrowser dt); return .error e
  | .ok viewports =>
  match filtersOf conf.generation.filters with
  | .error e => browse (dropBrowser dt); return .error e.message
  | .ok filters =>
  match Css.minifierFor conf.generation.minifier with
  | .error e => browse (dropBrowser dt); return .error e
  | .ok kind =>
  let runId := runIdAt (← browse readClock)
  let req : Generate.Request := { urls, viewports, filters, successRatio := conf.generation.successRatio, runId }
  let loggers := voices base runId
  let fetcher : Fetch.Fetcher :=
    { config := { maxSize := conf.fetch.maxSize, cacheSize := conf.fetch.cacheSize, forced } }
  let run := generate (asProbe dt).lift (fetchSheet (base.child "css-fetcher")) (tell loggers)
    (fun text => .ok (kind.run text)) req
  let (outcome, _) ← browse (run.run fetcher)
  match ← browse (cleanup dt) with
  | .error f =>
    browse (say (if req.problem.isNone then loggers .run else base) commandSite .warn
      "Unable to cleanup page probe" (failureFields f))
  | .ok _ => pure ()
  for w in outcome.warnings do
    browse (say lg commandSite .warn "Problem during generation" [failureField w])
  let s ← get
  if let some rpt := s.report then
    if let some trace := outcome.trace then
      let rpt ← browse (storeText rpt ("run/" ++ runId ++ ".txt") trace.dump)
      let rpt ← if outcome.failure.isNone then browse (storeText rpt ("run/" ++ runId ++ ".css") outcome.css)
        else pure rpt
      set { s with report := some rpt }
  match outcome.failure with
  | some f => return .error f.message
  | none =>
  if dst == "-" then
    browse (printOut outcome.css)
    return .ok ()
  let now ← browse readClock
  let values := Output.NameValues.ofPage (urls.headD "") (if s.report.isSome then runId else "")
    (momentOfNanos now)
  let (name, problem) := values.fileName conf.generation.outputNameTemplate
  if let some p := problem then
    browse (say lg commandSite .warn "Unable to prepare output filename, using default"
      [⟨"error", .failure p.message⟩])
  let h ← browse host
  let path := outputPath h dst name
  match writeOutput h.disk path outcome.css.toUTF8.toList (← get).overwrite with
  | .error e => return .error e
  | .ok disk =>
    browse (setHost { h with disk })
    browse (say lg commandSite .info "Critical css saved" [⟨"file", .text path⟩,
      countField "bytes" outcome.css.utf8ByteSize, countField "warnings" outcome.warnings.length])
    return .ok ()

/-- The `generate` command with its flags and arguments. -/
def generatePages (dt : Devtools σ) (flags : FlagValues) (args : List String) : RunM σ (Except String Unit) := do
  let s ← get
  let lg := s.logger.child "generate"
  if args.isEmpty then return .error "no page urls have been specified"
  match Url.pageUrls args with
  | .error e => return .error e.message
  | .ok urls =>
  let conf := s.config.getD {}
  let given := flags.texts "viewport"
  let conf := if given.isEmpty then conf else { conf with generation := { conf.generation with viewports := given } }
  let conf := if flags.isSet "success-ratio" then
      { conf with generation := { conf.generation with successRatio := flags.number "success-ratio" } }
    else conf
  set { s with config := some conf, overwrite := flags.switch "overwrite" }
  let charset := if flags.isSet "force-charset" then flags.text "force-charset" else conf.fetch.charset
  let forced ← browse (forcedCharset lg charset)
  browse (modify fun b => { b with probe := { settings := browserSettings conf.browser, log := s.logger.child "browser" } })
  match ← browse (connect dt) with
  | .error f => return .error ("unable to start browser: " ++ f.message)
  | .ok _ =>
  let dst := flags.text "destination"
  browse (say lg commandSite .info "Processing starting" [⟨"pages", .texts urls⟩, ⟨"destination", .text dst⟩])
  let start ← browse readClock
  let r ← process dt conf forced urls dst
  let stop ← browse readClock
  browse (say lg commandSite .info "Processing completed" [⟨"elapsed", .duration ((stop : Int) - start)⟩])
  return r

end CriticalCss.Command

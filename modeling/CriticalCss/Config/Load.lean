import CriticalCss.Config.Decode
import CriticalCss.Config.Template
import CriticalCss.Config.Validate
import CriticalCss.Url.Escape
/-!
# Loading a configuration

The defaults are the prepared configuration template. Without a file they
are decoded, tidied and checked; with one, the file's values are decoded
over the defaults, and the result is tidied and checked.

Tidying works on the disk: log and report destinations are put in their
shortest form and their directories are made, and a browser binary must
exist. Empty values are left alone.

Failures name their stage: `failed to read config file: ...`,
`failed to process configuration file: failed to decode configuration
data: ...`, or the broken rules of the configuration.

## Main definitions

* `sanitize`: a configuration tidied on a disk.
* `loadConfiguration`: the configuration of a run and the disk after it.
-/

namespace CriticalCss.Config

open CriticalCss.Files CriticalCss.Text

/-- A destination in its shortest form, with its directory made. -/
def tidyDestination (disk : Disk) (path : String) : Except String (Disk × String) :=
  if path.isEmpty then .ok (disk, path)
  else
    let path := pathClean path
    match disk.mkdirAll (pathDir path) with
    | .ok disk => .ok (disk, path)
    | .error e => .error e.message

/-- A configuration tidied on a disk: destinations in shortest form with
their directories made, and the browser binary checked to exist. -/
def sanitize (disk : Disk) (c : Configuration) : Except String (Disk × Configuration) := do
  let bin := c.browser.bin
  if !bin.isEmpty then
    if let .error e := disk.stat bin then
      throw ("file '" ++ bin ++ "' does not exist or is not accessible: " ++ e.message)
  let (disk, fileDest) ← tidyDestination disk c.logging.file.destination
  let (disk, consoleDest) ← tidyDestination disk c.logging.console.destination
  let (disk, reportDest) ← tidyDestination disk c.reporting.destination
  return (disk, { c with
    logging := { file := { c.logging.file with destination := fileDest },
                 console := { c.logging.console with destination := consoleDest } },
    reporting := { destination := reportDest } })

/-- A configuration text decoded over a configuration, then tidied and
checked when `process` is set. -/
def unmarshalConfiguration (disk : Disk) (text : String) (base : Configuration) (process : Bool) :
    Except String (Disk × Configuration) := do
  let c ← (decodeConfiguration text base).mapError fun e =>
    "failed to decode configuration data: " ++ e.message
  if !process then return (disk, c)
  let (disk, c) ← sanitize disk c
  let problems := validate disk c
  if !problems.isEmpty then throw (problemsMessage problems)
  return (disk, c)

/-- The configuration of a run from the file at a path, or the defaults when
the path is empty, and the disk after tidying. -/
def loadConfiguration (disk : Disk) (path : String) : Except String (Disk × Configuration) := do
  let haveFile := !path.isEmpty
  let prepared ← preparedConfig.mapError ("failed to process configuration template: " ++ ·)
  let (disk, defaults) ← (unmarshalConfiguration disk prepared {} (!haveFile)).mapError
    ("failed to process configuration template: " ++ ·)
  if !haveFile then return (disk, defaults)
  let data ← (disk.readFile path).mapError ("failed to read config file: " ++ ·.message)
  (unmarshalConfiguration disk (Url.textOf data) defaults true).mapError
    ("failed to process configuration file: " ++ ·)

/-- The viewports of a checked configuration. -/
def GenerationConfig.parsedViewports (g : GenerationConfig) : Except String (List Probe.Viewport) :=
  g.viewports.mapM fun v => (Probe.Viewport.parse v).mapError (·.message)

end CriticalCss.Config

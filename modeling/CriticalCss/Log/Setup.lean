import CriticalCss.Log.Logger
import CriticalCss.Config.Basic
import CriticalCss.Report
/-!
# Setting up the logs of a run

The console log writes entries below errors to the standard output and
errors to the standard error, from `debug` or from `normal` (informative)
entries on; at any other level it writes nothing.

The file log writes to its destination, emptied first unless the mode is
`append`; when the destination cannot be opened it writes to a new
temporary file, and its first entry says where. Beside the destination a
file for crash output is opened the same way, or a temporary one. When a
report is made, the file log takes every entry, starts empty, and both
files are stored in the report. At a level other than `debug` or `normal`
there is no file log and nothing is opened.

## Main definitions

* `consoleOutputs`, `fileOutput`: the outputs of each log.
* `LoggingConfig.prepare`: the logger of a run.
-/

namespace CriticalCss.Log

open CriticalCss.Config CriticalCss.Files

/-- The lowest level a log level setting takes, if it takes any. -/
def lowestOf : String → Option Level
  | "debug" => some .debug
  | "normal" => some .info
  | _ => none

/-- The console outputs for a level setting: entries below errors to the
standard output, errors to the standard error. -/
def consoleOutputs (level : String) : List Output :=
  match lowestOf level with
  | some lowest => [⟨.stderr, .error, none, false⟩, ⟨.stdout, lowest, some .error, false⟩]
  | none => []

/-- The directory part of a path as a directory to join names to. -/
def dirOf (path : String) : String := Text.pathDir path

/-- A path joined to a directory, in shortest form. -/
def joinPath (dir name : String) : String := Text.pathClean (dir ++ "/" ++ name)

/-- The file log of a run: its output, the temporary file it was moved to
when the destination could not be opened, the host and the report after
opening the files. -/
def fileOutput (h : Host) (destination level mode : String) (rpt : Option Report) :
    Except String (Host × Option Report × Option Output × String) := do
  let some lowest := lowestOf level | return (h, rpt, none, "")
  let append := mode == "append"
  let store (rpt : Option Report) (h : Host) (name path : String) : Except String (Option Report) :=
    match rpt with
    | some r => (r.store h name path).map some
    | none => .ok none
  let crashPath := joinPath (dirOf destination) (h.appName ++ "-panic.log")
  let crash : Option (Host × String) := match h.disk.openWrite crashPath append with
    | .ok (disk, _) => some ({ h with disk }, crashPath)
    | .error _ => (h.createTemp (h.appName ++ "-panic.*.log")).toOption
  let (h, rpt) ← match crash with
    | some (h, path) => (store rpt h "panic.log" path).map (h, ·)
    | none => pure (h, rpt)
  let opened : Except String (Host × String × String × String) :=
    match h.disk.openWrite destination append with
    | .ok (disk, real) => .ok ({ h with disk }, destination, real, "")
    | .error _ =>
      match h.createTemp (h.appName ++ ".*.log") with
      | .ok (h, path) => .ok (h, path, path, path)
      | .error e => .error ("unable to access file log destination (" ++ destination ++ "): " ++ e.message)
  let (h, name, real, moved) ← opened
  let rpt ← store rpt h "final.log" name
  return (h, rpt, some ⟨.file real, lowest, none, true⟩, moved)

/-- The place in the program that reports a moved file log. -/
def movedSite : String := "log/setup:1"

end CriticalCss.Log

namespace CriticalCss.Config

open CriticalCss.Log

/-- The logger of a run, named after the program, with the report after
its files were stored. A report makes the file log take every entry and
start empty. -/
def LoggingConfig.prepare (h : Host) (conf : LoggingConfig) (rpt : Option Report) :
    Except String (Host × Option Report × Logger) := do
  let console := consoleOutputs conf.console.level
  let (level, mode) := if rpt.isSome then ("debug", "overwrite") else (conf.file.level, conf.file.mode)
  let (h, rpt, file, moved) ← fileOutput h conf.file.destination level mode rpt
  let lg : Logger := { outputs := console ++ file.toList }
  let h := if moved.isEmpty then h
    else lg.log h .warn movedSite "Log file was redirected to new location" [⟨"location", .text moved⟩]
  return (h, rpt, lg.named h.appName)

end CriticalCss.Config

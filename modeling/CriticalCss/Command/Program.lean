import CriticalCss.Command.Help
import CriticalCss.Command.Generate
import CriticalCss.Config.Dump
import CriticalCss.Log.Setup
/-!
# A run of the program

A run reads the program's flags first. Help and the version are printed
at once. Otherwise the arguments name a subcommand, whose own flags are
read next; the subcommand's help is printed without preparing anything.

Before a command works, the run is prepared, unless no argument follows
the program's flags: the configuration is loaded, a debug report is
opened when asked for, holding the configuration file as loaded, and
logging is set up. A name that is no subcommand is warned about and does
nothing; no name at all prints the help.

After the command, whatever happened, the run tells that it ended, closes
the report, and removes an empty crash log next to the file log.

A failure is logged when logging is set up, and written to standard error
otherwise; the exit code is then 1, and 0 when all went well.

## Main definitions

* `prepare`, `release`: around a command.
* `dumpConfig`: the `dumpconfig` command.
* `runProgram`: a run with its arguments, and its exit code.
-/

namespace CriticalCss.Command

open CriticalCss.Log CriticalCss.Probe CriticalCss.Config CriticalCss.Files

variable {σ : Type}

/-- The runtime the program runs on, as its version names it. -/
def runtimeVersion : String := "lean-4.33.0"

/-- The version of the program as its help and version flag show it. -/
def programVersionLine : String := versionLine programVersion runtimeVersion gitHash

/-- The place the program logs from. -/
def programSite : String := "command/program:1"

/-- Prepares a run for a command: loads the configuration, opens the
report when debugging, sets up logging, and tells what it did. `argv` is
the whole command line, `args` what follows the program's flags. -/
def prepare (argv : List String) (flags : FlagValues) (args : List String) : RunM σ (Except String Unit) := do
  if args.isEmpty then return .ok ()
  let file := flags.text "config"
  match loadConfiguration (← browse host).disk file with
  | .error e => return .error ("unable to prepare configuration: " ++ e)
  | .ok (disk, conf) =>
  browse (modifyHost fun h => { h with disk })
  modify fun s => { s with config := some conf }
  let mut report : Option Report := none
  if flags.switch "debug" then
    match Report.prepare (← browse host) conf.reporting.destination with
    | .error e => return .error ("unable to prepare debug reporter: " ++ e)
    | .ok (h, r) =>
      browse (setHost h)
      let r ← if file.isEmpty then pure r
        else browse (storeText r ("config/" ++ Text.pathBase file) (dumpConfiguration conf))
      report := some r
  modify fun s => { s with report }
  match LoggingConfig.prepare (← browse host) conf.logging report with
  | .error e => return .error ("unable to prepare logs: " ++ e)
  | .ok (h, opened, lg) =>
  browse (setHost h)
  modify fun s => { s with report := opened, log := some lg }
  browse (say lg programSite .debug "Program started" [⟨"args", .texts argv⟩, ⟨"ver", .text programVersion⟩,
    ⟨"runtime", .text runtimeVersion⟩, ⟨"hash", .text gitHash⟩])
  if let some r := opened then
    browse (say lg programSite .info "Creating debug report" [⟨"location", .text (Report.name (← browse host) r)⟩])
  if file.isEmpty then browse (say lg programSite .info "Using defaults (no configuration file)")
  return .ok ()

/-- Removes the crash log next to the file log when nothing was written
to it. -/
def removeEmptyCrashLog (conf : Option Configuration) : BrowseM σ (Except String Unit) := do
  let some c := conf | return .ok ()
  let dest := c.logging.file.destination
  if dest.isEmpty then return .ok ()
  let h ← host
  let path := joinPath (dirOf dest) (h.appName ++ "-panic.log")
  match h.disk.stat path with
  | .ok (.file []) =>
    match h.disk.remove path with
    | .ok disk =>
      setHost { h with disk }
      return .ok ()
    | .error e => return .error ("unable to remove empty panic log file '" ++ path ++ "': " ++ e.message)
  | _ => return .ok ()

/-- Ends a run after its command: tells that it ended with the arguments
after the program's flags, closes the report and removes an empty crash
log. -/
def release (args : List String) : RunM σ (Except String Unit) := do
  let s ← get
  if let some lg := s.log then
    let (h, up) := s.uptime (← browse host)
    browse (setHost h)
    browse (say lg programSite .debug "Program ended" [⟨"elapsed", .duration up⟩, ⟨"parsed args", .texts args⟩])
  if let some r := s.report then browse (modifyHost fun h => Report.close h r)
  browse (removeEmptyCrashLog s.config)

/-- The `dumpconfig` command: writes the configuration, the one in effect
or the default one, to a file or to standard output. -/
def dumpConfig (flags : FlagValues) (args : List String) : RunM σ (Except String Unit) := do
  let s ← get
  let lg := s.logger
  if args.length > 1 then
    browse (say lg programSite .warn "Malformed command line, too many destinations"
      [⟨"ignoring", .texts (args.drop 1)⟩])
  let (which, data) := if flags.switch "default" then ("default", preparedConfig)
    else ("actual", .ok (dumpConfiguration (s.config.getD {})))
  match data with
  | .error e => return .error ("unable to get configuration: " ++ e)
  | .ok text =>
  match args.head? with
  | none =>
    browse (say lg programSite .info "Outputing configuration" [⟨"state", .text which⟩, ⟨"file", .text "STDOUT"⟩])
    browse (printOut text)
    return .ok ()
  | some file =>
    browse (say lg programSite .info "Outputing configuration" [⟨"state", .text which⟩, ⟨"file", .text file⟩])
    match (← browse host).disk.writeFile file text.toUTF8.toList with
    | .ok disk =>
      browse (modifyHost fun h => { h with disk })
      return .ok ()
    | .error e => return .error ("unable to write configuration: " ++ e.message)

/-- The command a run does after the program's flags were read: a
subcommand, or a warning about an unknown name, or the help. -/
def commandBody (dt : Devtools σ) (program : Command) (argv : List String) (root : Reading) :
    RunM σ (Except String Unit) := do
  match root.args with
  | [] =>
    browse (printOut (programHelp program programVersionLine))
    return .ok ()
  | name :: rest =>
    match subcommand? name with
    | none =>
      match ← prepare argv root.values root.args with
      | .error e => return .error e
      | .ok _ =>
        browse (say (← get).logger programSite .warn "Unknown command, nothing to do" [⟨"command", .text name⟩])
        return .ok ()
    | some c =>
      match c.read program.flags rest with
      | .error e => return .error e
      | .ok sub =>
      if sub.values.switch "help" then
        match sub.args.head? with
        | some topic => return .error ("No help topic for '" ++ topic ++ "'")
        | none =>
          browse (printOut (commandHelp program c))
          return .ok ()
      let flags := sub.shared.foldl (fun vs (k, v) => FlagValues.put vs k v) root.values
      match ← prepare argv flags root.args with
      | .error e => return .error e
      | .ok _ =>
      if c.name == generateCommand.name then generatePages dt sub.values sub.args
      else dumpConfig sub.values sub.args

/-- Logs a failure when logging is set up; whether it was logged. -/
def logFailure (s : Session) (message : String) : BrowseM σ Bool := do
  match s.log with
  | some lg =>
    say lg programSite .error "Program ended with error" [⟨"error", .failure message⟩]
    return true
  | none => return false

/-- A run of the program started as `argv0` with its arguments: its exit
code. What it printed and the files it left are in the host. -/
def runProgram (dt : Devtools σ) (argv0 : String) (args : List String) : BrowseM σ Nat := do
  let program := programCommand (← host).appName
  let (h, session) := Session.begin (← host)
  setHost h
  match program.read [] args with
  | .error e =>
    modifyHost (·.printError ("Program ended with error: " ++ e ++ "\n"))
    return 1
  | .ok root =>
  if root.values.switch "help" then
    match root.args.head? with
    | none => printOut (programHelp program programVersionLine)
    | some name =>
      if let some c := subcommand? name then printOut (commandHelp program c)
    return 0
  if root.values.switch "version" then
    printOut (versionText program programVersionLine)
    return 0
  let (done, session) ← (commandBody dt program (argv0 :: args) root).run session
  let logged ← match done with
    | .error e => logFailure session e
    | .ok _ => pure false
  let (ended, session) ← (release root.args).run session
  let loggedAfter ← match ended with
    | .error e => logFailure session e
    | .ok _ => pure false
  let failures := [done, ended].filterMap fun r => match r with
    | .error e => some e
    | .ok _ => none
  if failures.isEmpty then return 0
  if !(logged || loggedAfter) then
    modifyHost (·.printError ("Program ended with error: " ++ "\n".intercalate failures ++ "\n"))
  return 1

end CriticalCss.Command

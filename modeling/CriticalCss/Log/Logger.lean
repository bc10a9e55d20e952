import CriticalCss.Log.Entry
/-!
# Loggers

A logger sends each entry to its outputs. An output takes the levels it
accepts and writes their console form to the standard output, the standard
error or an open file; the form written to files names the place in the
program that logged. A logger with no outputs writes nothing.

Every entry reads the clock once.

## Main definitions

* `Sink`, `Output`, `Logger`.
* `Logger.log`: an entry sent to the outputs that accept it.
-/

namespace CriticalCss.Log

/-- Where an output writes. -/
inductive Sink where
  | stdout
  | stderr
  /-- An open file, by its absolute path on the disk. -/
  | file (path : String)
  deriving Repr, Inhabited, DecidableEq

/-- One output of a logger: where it writes, the levels it takes, and
whether it names the place that logged. -/
structure Output where
  sink : Sink
  lowest : Level
  /-- The first level too serious for this output, if any. -/
  below : Option Level := none
  withSite : Bool := false
  deriving Repr, Inhabited

/-- Whether an output takes entries of a level. -/
def Output.accepts (o : Output) (l : Level) : Bool :=
  l.atLeast o.lowest && match o.below with
    | some b => !l.atLeast b
    | none => true

/-- A logger: its outputs, its name, and the fields every entry it writes
starts with. -/
structure Logger where
  outputs : List Output := []
  name : String := ""
  context : List LogField := []
  deriving Repr, Inhabited

/-- The logger that writes nothing. -/
def Logger.nop : Logger := {}

/-- The logger under a name. -/
def Logger.named (lg : Logger) (name : String) : Logger := { lg with name }

/-- The logger of a part of the program: its name follows the parent's
after a dot, or stands alone when the parent has none. -/
def Logger.child (lg : Logger) (name : String) : Logger :=
  { lg with name := if lg.name.isEmpty then name else lg.name ++ "." ++ name }

/-- The logger with fields added to every entry it writes. -/
def Logger.withFields (lg : Logger) (fields : List LogField) : Logger :=
  { lg with context := lg.context ++ fields }

/-- Whether a logger writes nothing. -/
def Logger.isNop (lg : Logger) : Bool := lg.outputs.isEmpty

/-- Writes text to a sink. -/
def Sink.write (h : Host) (s : Sink) (text : String) : Host :=
  match s with
  | .stdout => h.print text
  | .stderr => h.printError text
  | .file path => { h with disk := h.disk.appendAt path text.toUTF8.toList }

/-- Sends an entry to the outputs of a logger that take its level. -/
def Logger.log (h : Host) (lg : Logger) (level : Level) (site message : String)
    (fields : List LogField := []) : Host :=
  let (h, time) := h.now
  let entry : LogEntry := { time, level, name := lg.name, site, message, fields := lg.context ++ fields }
  lg.outputs.foldl (fun h o => if o.accepts level then o.sink.write h (entry.line o.withSite) else h) h

end CriticalCss.Log

import CriticalCss.Host
import CriticalCss.Text.Duration
import CriticalCss.Text.Quote
/-!
# Log entries and their console form

A log entry has a moment, a level, the name of the logger, the place in the
program that logged it, a message and fields. Its console form is one line
of tab-separated parts: the moment as an ISO 8601 time with milliseconds,
the level in capitals, the logger's name when it has one, the place when
the form asks for it, the message, and the fields as one JSON object when
there are any: `{"state": "actual", "file": "STDOUT"}`, a space after each
colon and comma.

Field strings escape the quote, the backslash and control characters; other
characters are kept as they are.

## Main definitions

* `Level`, `FieldValue`, `LogField`, `LogEntry`.
* `LogEntry.line`: the console form of an entry.
-/

namespace CriticalCss.Log

open CriticalCss.Clock

/-- How serious an entry is. -/
inductive Level where
  | debug
  | info
  | warn
  | error
  deriving Repr, Inhabited, DecidableEq

/-- The rank of a level: higher is more serious. -/
def Level.rank : Level → Nat
  | .debug => 0
  | .info => 1
  | .warn => 2
  | .error => 3

/-- Whether a level is at least as serious as another. -/
def Level.atLeast (l m : Level) : Bool := m.rank ≤ l.rank

/-- The level in capitals, as the console form writes it. -/
def Level.text : Level → String
  | .debug => "DEBUG"
  | .info => "INFO"
  | .warn => "WARN"
  | .error => "ERROR"

/-- The value of a field. -/
inductive FieldValue where
  | text (s : String)
  | int (n : Int)
  | bool (b : Bool)
  | texts (xs : List String)
  | duration (ns : Int)
  /-- A failure, written by its message. -/
  | failure (message : String)
  /-- The failures a failure groups, each written as an object holding its
  message under the key error. -/
  | failures (messages : List String)
  deriving Repr, Inhabited

/-- A named value attached to an entry. -/
structure LogField where
  key : String
  value : FieldValue
  deriving Repr, Inhabited

/-- An entry: when, how serious, from which logger and place, what. -/
structure LogEntry where
  time : Nat
  level : Level
  name : String := ""
  site : String := ""
  message : String
  fields : List LogField := []
  deriving Repr, Inhabited

/-- The escaped form of one character of a field string. -/
def escapeChar (c : Char) : String :=
  if c == '"' then "\\\""
  else if c == '\\' then "\\\\"
  else if c == '\n' then "\\n"
  else if c == '\r' then "\\r"
  else if c == '\t' then "\\t"
  else if c.toNat < 0x20 then "\\u00" ++ Text.hexDigits 2 c.toNat
  else c.toString

/-- A field string in double quotes. -/
def quoteField (s : String) : String := "\"" ++ String.join (s.toList.map escapeChar) ++ "\""

/-- The JSON text of a field's value. -/
def FieldValue.json : FieldValue → String
  | .text s => quoteField s
  | .int n => toString n
  | .bool b => if b then "true" else "false"
  | .texts xs => "[" ++ ", ".intercalate (xs.map quoteField) ++ "]"
  | .duration ns => quoteField (Text.durationText ns)
  | .failure m => quoteField m
  | .failures ms => "[" ++ ", ".intercalate (ms.map fun m => "\x7b\"error\": " ++ quoteField m ++ "\x7d") ++ "]"

/-- The fields as one JSON object, or nothing when there are none. -/
def fieldsText (fields : List LogField) : String :=
  if fields.isEmpty then ""
  else "\x7b" ++ ", ".intercalate (fields.map fun f => quoteField f.key ++ ": " ++ f.value.json) ++ "\x7d"

/-- The ISO 8601 text of a clock reading, with milliseconds. -/
def isoTime (nanos : Nat) : String := (momentOfNanos nanos).format "2006-01-02T15:04:05.000Z0700"

/-- The console form of an entry, with the place when `withSite` is set. -/
def LogEntry.line (e : LogEntry) (withSite : Bool) : String :=
  let head := [isoTime e.time, e.level.text] ++ (if e.name.isEmpty then [] else [e.name]) ++
    (if withSite && !e.site.isEmpty then [e.site] else [])
  let parts := head ++ [e.message] ++ (if e.fields.isEmpty then [] else [fieldsText e.fields])
  "\t".intercalate parts ++ "\n"

end CriticalCss.Log

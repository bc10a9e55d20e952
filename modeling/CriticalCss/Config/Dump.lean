import CriticalCss.Config.Basic
import CriticalCss.Yaml.Emit
import CriticalCss.Css.Minify.Kind
import CriticalCss.Text.Duration
import CriticalCss.Text.Binary64
import CriticalCss.Text.Unicode.Category
/-!
# Writing a configuration

A configuration is written as a YAML mapping of its fields by their YAML
names, in the order of the fields, leaving out the optional fields that
are empty: the charset, the headers, the remote browser address, the
browser binary, the query parameters, and each log's destination and mode.

Values are written by their types:

* a string is plain when it reads back as the same string and does not
  look like a sexagesimal number or an old boolean, a block literal when it
  holds a line break, and double-quoted otherwise;
* numbers in their shortest form, durations as timers print them, the
  minifier by its name;
* a secret as `<secret>`, or null when it is empty;
* maps with their keys in natural order: letters before digits after a
  letter, digits before letters after a digit, and runs of digits by value.

## Main definitions

* `dumpConfiguration`: the YAML text of a configuration.
* `Value`, `encodeValue`: values written as YAML.
-/

namespace CriticalCss.Config

open CriticalCss.Yaml

/-- A value to be written as YAML. -/
inductive Value where
  | null
  | text (s : String)
  | number (s : String)
  | list (items : List Value)
  | map (pairs : List (String × Value))
  deriving Inhabited

/-- The node of a string: plain when it reads back as itself and is not a
sexagesimal number or an old boolean, literal when it holds a line break,
double-quoted otherwise. -/
def stringNode (s : String) : Node :=
  let plain := resolveTag s == strTag && !(isBase60Float s || isOldBool s)
  let style : ScalarStyle :=
    if s.contains '\n' then .literal else if plain then .plain else .doubleQuoted
  { kind := .scalar, value := s, style }

mutual

/-- The node of a value. -/
def Value.toNode : Value → Node
  | .null => { kind := .scalar, value := "null" }
  | .text s => stringNode s
  | .number s => { kind := .scalar, value := s }
  | .list items => { kind := .sequence, content := Value.itemNodes items }
  | .map pairs => { kind := .mapping, content := Value.pairNodes pairs }

/-- The nodes of the items of a list. -/
def Value.itemNodes : List Value → List Node
  | [] => []
  | v :: vs => v.toNode :: Value.itemNodes vs

/-- The key and value nodes of the pairs of a map. -/
def Value.pairNodes : List (String × Value) → List Node
  | [] => []
  | (k, v) :: rest => stringNode k :: v.toNode :: Value.pairNodes rest

end

/-- The YAML text of a value as a document. -/
def encodeValue (v : Value) : String := encodeNode v.toNode

/-- Whether a character counts as a letter in key order. -/
def keyLetter (c : Char) : Bool := Text.isLetter c

/-- Whether a character counts as a digit in key order: a decimal digit of
any script. -/
def keyDigit (c : Char) : Bool := Text.isDecimalDigit c

/-- The value of the run of digits starting at `i`, each worth its distance
from `0`, in 64-bit arithmetic that wraps; and where the run ends. -/
def digitRun (cs : Array Char) (i : Nat) (start : Int64) : Int64 × Nat := Id.run do
  let mut n := start
  let mut j := i
  for _ in [i:cs.size] do
    if j < cs.size && keyDigit cs[j]! then
      n := n * 10 + Int64.ofNat (cs[j]!.toNat - 48)
      j := j + 1
    else break
  return (n, j)

/-- The natural order of map keys: letters compare by code point and sort
after other characters, except right after a digit, where they sort before;
runs of digits compare by value, then by length. -/
def keyLess (a b : String) : Bool := Id.run do
  let ar := a.toList.toArray
  let br := b.toList.toArray
  let mut digits := false
  for i in [0:min ar.size br.size] do
    let x := ar[i]!
    let y := br[i]!
    if x == y then
      digits := keyDigit x
      continue
    let al := keyLetter x
    let bl := keyLetter y
    if al && bl then return x < y
    if al || bl then return if digits then al else bl
    let mut start : Int64 := 0
    if x == '0' || y == '0' then
      let mut j := i
      for _ in [0:i] do
        if j == 0 then break
        j := j - 1
        if !keyDigit ar[j]! then break
        if ar[j]! != '0' then
          start := 1
          break
    let (an, ai) := digitRun ar i start
    let (bn, bi) := digitRun br i start
    if an != bn then return an < bn
    if ai != bi then return ai < bi
    return x < y
  return ar.size < br.size

/-- Map pairs in the natural order of their keys. -/
def sortedPairs {α : Type} (pairs : List (String × α)) : List (String × α) :=
  pairs.mergeSort fun a b => keyLess a.1 b.1 || !keyLess b.1 a.1

/-- A secret: null when empty, `<secret>` otherwise. -/
def secretValue (s : String) : Value := if s.isEmpty then .null else .text secretMark

/-- A string field that is left out when empty. -/
def optionalText (name value : String) : List (String × Value) :=
  if value.isEmpty then [] else [(name, .text value)]

/-- One log's settings as a value. -/
def LoggerConfig.toValue (l : LoggerConfig) : Value :=
  .map ([("level", .text l.level)] ++ optionalText "destination" l.destination ++ optionalText "mode" l.mode)

/-- A configuration as a value. -/
def Configuration.toValue (c : Configuration) : Value :=
  let g := c.generation
  let f := c.fetch
  let b := c.browser
  .map [
    ("version", .number (toString c.version)),
    ("generation", .map [
      ("viewports", .list (g.viewports.map .text)),
      ("success_ratio", .number (Text.shortestText g.successRatio |> fun s =>
        if s == "+Inf" then ".inf" else if s == "-Inf" then "-.inf" else if s == "NaN" then ".nan" else s)),
      ("concurrency", .number (toString g.concurrency)),
      ("minifier", .text (Css.kindText g.minifier)),
      ("filters", .map [
        ("exclude_properties", .list (g.filters.excludeProperties.map .text)),
        ("exclude_at_rules", .list (g.filters.excludeAtRules.map .text))]),
      ("output_name_template", .text g.outputNameTemplate)]),
    ("fetch", .map ([
      ("timeout", .text (Text.durationText f.timeout)),
      ("user_agent", .text f.userAgent),
      ("max_size", .number (toString f.maxSize)),
      ("cache_size", .number (toString f.cacheSize))] ++
      optionalText "charset" f.charset ++
      (if f.headers.isEmpty then []
       else [("headers", .map ((sortedPairs f.headers).map fun (k, v) => (k, secretValue v)))]))),
    ("browser", .map (optionalText "remote_url" b.remoteUrl ++ optionalText "bin" b.bin ++ [
      ("headless", .number (if b.headless then "true" else "false")),
      ("stealth", .number (if b.stealth then "true" else "false")),
      ("load_timeout", .text (Text.durationText b.loadTimeout))] ++
      (if b.getParameters.isEmpty then []
       else [("get_parameters", .map ((sortedPairs b.getParameters).map fun (k, v) => (k, .text v)))]))),
    ("logging", .map [("file", c.logging.file.toValue), ("console", c.logging.console.toValue)]),
    ("reporting", .map [("destination", .text c.reporting.destination)])]

/-- The YAML text of a configuration. -/
def dumpConfiguration (c : Configuration) : String := encodeValue c.toValue

end CriticalCss.Config

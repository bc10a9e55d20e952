import CriticalCss.Config.Basic
import CriticalCss.Files.Disk
import CriticalCss.Probe.Viewport
import CriticalCss.Regex.Match
import CriticalCss.Url.Basic
/-!
# Checking a configuration

Each field of a configuration is checked by its rules, in the order of the
fields, and then the configuration as a whole. A field that breaks a rule
is reported once, by the first rule it breaks, with its place in the
configuration and the rule's name:
`Key: 'Config.Fetch.MaxSize' Error:Field validation for 'MaxSize' failed on the 'gt' tag`.

The rules:

* the version is 1;
* there is at least one viewport and none is empty; the success ratio is
  in `(0, 1]`; the concurrency is between 1 and 64; the minifier is not
  negative; no filter pattern is empty;
* the fetch timeout and size limit are positive; the cache size is not
  negative;
* a remote browser address, when given, is a url; the load timeout is
  positive;
* each log's level is `none`, `debug` or `normal`; its destination, when
  given, is a file path; its mode, when given, is `append` or `overwrite`;
* the report destination is given and is a file path.

A file path is not blank, does not end with `/` and is not a directory;
it need not exist. A url has a scheme and a host, or is a file url with a
path. Then each viewport must read as `WIDTHxHEIGHT` and each filter
pattern must compile.

## Main definitions

* `FieldProblem`: a broken rule and where.
* `validate`: the problems of a configuration.
-/

namespace CriticalCss.Config

open CriticalCss.Files

/-- A broken rule: the place of the field, its name, and the rule. -/
structure FieldProblem where
  place : String
  field : String
  rule : String
  deriving Repr, Inhabited

/-- The message of a broken rule. -/
def FieldProblem.message (p : FieldProblem) : String :=
  "Key: '" ++ p.place ++ "' Error:Field validation for '" ++ p.field ++ "' failed on the '" ++ p.rule ++ "' tag"

/-- The message of all broken rules, one per line. -/
def problemsMessage (ps : List FieldProblem) : String := "\n".intercalate (ps.map (·.message))

/-- The problem of a field at a place, by the first rule in a list it
breaks. -/
def firstBroken (place field : String) (rules : List (String × Bool)) : List FieldProblem :=
  match rules.find? (fun (_, ok) => !ok) with
  | some (rule, _) => [⟨place ++ field, field, rule⟩]
  | none => []

/-- Whether text is a url: a file url that reads as a request address, or a
url with a scheme and a host, fragment or opaque part; a file url needs a
path beyond `/`. -/
def isUrl (text : String) : Bool :=
  let s := text.map Char.toLower
  if s.isEmpty then false
  else if s.startsWith "file:/" && (Url.parseMain (Url.bytesOf s)).toOption.isSome then true
  else match Url.parse s with
    | .error _ => false
    | .ok u =>
      if u.scheme.isEmpty then false
      else if u.scheme == "file" then !(u.path.isEmpty || u.path == [0x2f])
      else !(u.host.isEmpty && u.fragment.isEmpty && u.rootless.isEmpty)

/-- Whether text is a file path on a disk: not a directory, and either an
existing file or a path that could be one. -/
def isFilePath (disk : Disk) (text : String) : Bool :=
  match disk.stat text with
  | .ok .directory => false
  | .ok _ => true
  | .error e =>
    if Text.trimSpace text == "" then false
    else if text.endsWith "/" then false
    else e.errno != .invalid

/-- The problems of one log's settings. -/
def loggerProblems (disk : Disk) (place : String) (l : LoggerConfig) : List FieldProblem :=
  firstBroken place "Level" [("required", !l.level.isEmpty),
    ("oneof", ["none", "debug", "normal"].contains l.level)] ++
  (if l.destination.isEmpty then [] else firstBroken place "Destination" [("filepath", isFilePath disk l.destination)]) ++
  (if l.mode.isEmpty then [] else firstBroken place "Mode" [("oneof", ["append", "overwrite"].contains l.mode)])

/-- The problems of each item of a list that must not be empty. -/
def requiredItems (place field : String) (items : List String) : List FieldProblem :=
  (items.zipIdx.filter (·.1.isEmpty)).map fun (_, i) =>
    let name := field ++ "[" ++ toString i ++ "]"
    ⟨place ++ name, name, "required"⟩

/-- The problems of the fields of a configuration, in their order. -/
def fieldProblems (disk : Disk) (c : Configuration) : List FieldProblem :=
  let g := c.generation
  let f := c.fetch
  let b := c.browser
  firstBroken "Config." "Version" [("eq", c.version == 1)] ++
  (if g.viewports.length < 1 then [⟨"Config.Generation.Viewports", "Viewports", "min"⟩]
   else requiredItems "Config.Generation." "Viewports" g.viewports) ++
  firstBroken "Config.Generation." "SuccessRatio" [("gt", g.successRatio > 0), ("lte", g.successRatio ≤ 1)] ++
  firstBroken "Config.Generation." "Concurrency" [("min", g.concurrency ≥ 1), ("max", g.concurrency ≤ 64)] ++
  firstBroken "Config.Generation." "Minifier" [("gte", g.minifier ≥ 0)] ++
  requiredItems "Config.Generation.Filters." "ExcludeProperties" g.filters.excludeProperties ++
  requiredItems "Config.Generation.Filters." "ExcludeAtRules" g.filters.excludeAtRules ++
  firstBroken "Config.Fetch." "Timeout" [("gt", f.timeout > 0)] ++
  firstBroken "Config.Fetch." "MaxSize" [("gt", f.maxSize > 0)] ++
  firstBroken "Config.Fetch." "CacheSize" [("gte", f.cacheSize ≥ 0)] ++
  (if b.remoteUrl.isEmpty then [] else firstBroken "Config.Browser." "RemoteURL" [("url", isUrl b.remoteUrl)]) ++
  firstBroken "Config.Browser." "LoadTimeout" [("gt", b.loadTimeout > 0)] ++
  loggerProblems disk "Config.Logging.FileLogger." c.logging.file ++
  loggerProblems disk "Config.Logging.ConsoleLogger." c.logging.console ++
  firstBroken "Config.Reporting." "Destination" [("required", !c.reporting.destination.isEmpty),
    ("filepath", isFilePath disk c.reporting.destination)]

/-- The problems of the configuration as a whole: viewports that do not
read and patterns that do not compile. -/
def wholeProblems (c : Configuration) : List FieldProblem :=
  let indexed (name : String) (i : Nat) := name ++ "[" ++ toString i ++ "]"
  ((c.generation.viewports.zipIdx.filter fun (v, _) => (Probe.Viewport.parse v).toOption.isNone).map
    fun (_, i) => ⟨"Config." ++ indexed "Viewports" i, indexed "Viewports" i, "viewport"⟩) ++
  ((c.generation.filters.excludeProperties.zipIdx.filter fun (p, _) => (Regex.compile p).toOption.isNone).map
    fun (_, i) => ⟨"Config." ++ indexed "ExcludeProperties" i, indexed "ExcludeProperties" i, "regexp"⟩) ++
  ((c.generation.filters.excludeAtRules.zipIdx.filter fun (p, _) => (Regex.compile p).toOption.isNone).map
    fun (_, i) => ⟨"Config." ++ indexed "ExcludeAtRules" i, indexed "ExcludeAtRules" i, "regexp"⟩)

/-- The problems of a configuration, with paths checked on a disk. -/
def validate (disk : Disk) (c : Configuration) : List FieldProblem :=
  fieldProblems disk c ++ wholeProblems c

end CriticalCss.Config

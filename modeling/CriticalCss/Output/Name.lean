import CriticalCss.Template.Exec
import CriticalCss.Text.Slug
import CriticalCss.Url.Basic
/-!
# Output file names

The critical stylesheet of a run is written to a file whose name comes from
a template over four values: the name of the template field, the slug of
the first page's host (`page` when the address has none), the run's
identifier and the time of the run. An empty template, one that fails, and
one that expands to blanks all give the default name, the host slug followed
by `-critical`.

The name is then made safe: only its last path element is kept, a trailing
`.css` is dropped, NUL, `/` and `:` are removed, leading dots are removed so
the file is never hidden, an empty result becomes `_bad_file_name_`, and
`.css` is added back.

## Main definitions

* `NameValues`: what a name template can use.
* `cleanFileName`: a name made safe for the file system.
* `NameValues.fileName`: the file name of a run and the template's failure.
-/

namespace CriticalCss.Output

open CriticalCss.Template

/-- The name of the configuration field that holds the name template. -/
def nameTemplateField : String := "output_name_template"

/-- What a name template can use: `.Context`, `.Host`, `.RunID` and `.Time`. -/
structure NameValues where
  context : String
  host : String
  runId : String
  time : Clock.Moment

/-- The values of a run on a page address: the host's slug, or `page` when
the address cannot be read or has no host. -/
def NameValues.ofPage (pageUrl runId : String) (time : Clock.Moment) : NameValues :=
  let host := match Url.parse pageUrl with
    | .ok u => if u.hostname.isEmpty then "page" else u.hostname
    | .error _ => "page"
  { context := nameTemplateField, host := Text.slug host, runId, time }

/-- The values as the data a template runs on. -/
def NameValues.toValue (v : NameValues) : Value :=
  .record "extract.Values"
    [("Context", .str v.context), ("Host", .str v.host), ("RunID", .str v.runId), ("Time", .moment v.time)]

/-- Why a name template gave no name: it could not be read, or it failed
while running. -/
inductive NameProblem where
  | unreadable (field reason : String)
  | failed (reason : String)

/-- The message of a name template's failure. -/
def NameProblem.message : NameProblem → String
  | .unreadable field reason => "unable to parse template field " ++ field ++ ": " ++ reason
  | .failed reason => reason

/-- The text a template field expands to for the values. -/
def expandField (field text : String) (values : NameValues) : Except NameProblem String :=
  match parseTemplate field isFunctionName text with
  | .error e => .error (.unreadable field e)
  | .ok set =>
    match runTemplate set text values.toValue with
    | .ok out => .ok out
    | .error e => .error (.failed e)

/-- A name made safe for the file system: NUL, `/` and `:` removed, then
leading dots; `_bad_file_name_` when nothing is left. -/
def cleanFileName (name : String) : String :=
  let kept := name.toList.filter fun c => c != '\x00' && c != '/' && c != ':'
  let kept := kept.dropWhile (· == '.')
  if kept.isEmpty then "_bad_file_name_" else String.ofList kept

/-- The extension of output files. -/
def outputExtension : String := ".css"

/-- The file name of a run: the template's expansion or the default name,
made safe, with the template's failure if it failed. -/
def NameValues.fileName (values : NameValues) (template : String) : String × Option NameProblem :=
  let fallback := values.host ++ "-critical"
  let (name, problem) : String × Option NameProblem :=
    if template.isEmpty then (fallback, none)
    else match expandField nameTemplateField template values with
      | .ok text =>
        let text := Text.trimSpace text
        (if text.isEmpty then fallback else text, none)
      | .error e => (fallback, some e)
  let base := Text.pathBase name
  let stem := if base.endsWith outputExtension then (base.dropEnd outputExtension.length).toString else base
  (cleanFileName stem ++ outputExtension, problem)

end CriticalCss.Output

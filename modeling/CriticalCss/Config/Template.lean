import CriticalCss.Yaml.Emit
import CriticalCss.Yaml.Decode
import CriticalCss.Template.Exec
/-!
# The configuration template

The default configuration is written as a template of a YAML document. Each
scalar value of it is expanded as a text template over the platform, `.OS`
and `.ARCH`, except the output name template, which is expanded per run and
kept as written. The expanded document is written back out with its
comments, keeping the style of each scalar.

## Main definitions

* `configTemplate`: the template's text.
* `expandTemplate`: a template document expanded for a platform.
* `preparedConfig`: the default configuration's text on this platform.
-/

namespace CriticalCss.Config

open CriticalCss.Yaml CriticalCss.Template

/-- The text of the configuration template. -/
def configTemplate : String :=
  "version: 1\n" ++
  "\n" ++
  "generation:\n" ++
  "  # viewports to probe every page with, WIDTHxHEIGHT\n" ++
  "  viewports:\n" ++
  "    - 414x896\n" ++
  "    - 1200x800\n" ++
  "    - 1920x1080\n" ++
  "  # part of pages which must be processed successfully, (0, 1]\n" ++
  "  success_ratio: 1.0\n" ++
  "  # number of stylesheets of a single page fetched at the same time\n" ++
  "  concurrency: 4\n" ++
  "  # tdewolff, cssmin or none\n" ++
  "  minifier: tdewolff\n" ++
  "  filters:\n" ++
  "    # regular expressions, matching declarations are never included\n" ++
  "    exclude_properties: []\n" ++
  "    # regular expressions, matching at-rules (name without \"@\") are never included\n" ++
  "    exclude_at_rules: []\n" ++
  "  # file name for generated css, available: .Host .RunID .Time\n" ++
  "  output_name_template: '\x7b\x7b .Host \x7d\x7d-critical.css'\n" ++
  "\n" ++
  "fetch:\n" ++
  "  timeout: 30s\n" ++
  "  user_agent: 'Mozilla/5.0 (\x7b\x7b .OS \x7d\x7d; \x7b\x7b .ARCH \x7d\x7d) critcss'\n" ++
  "  # largest stylesheet accepted, bytes\n" ++
  "  max_size: 10485760\n" ++
  "  # number of fetched stylesheets kept in memory, 0 disables cache\n" ++
  "  cache_size: 128\n" ++
  "  # when set overrides charset reported by server\n" ++
  "  charset: ''\n" ++
  "\n" ++
  "browser:\n" ++
  "  # connect to already running browser instead of launching one\n" ++
  "  remote_url: ''\n" ++
  "  headless: true\n" ++
  "  stealth: false\n" ++
  "  load_timeout: 60s\n" ++
  "\n" ++
  "logging:\n" ++
  "  console:\n" ++
  "    level: normal\n" ++
  "  file:\n" ++
  "    level: none\n" ++
  "    destination: critcss.log\n" ++
  "    mode: overwrite\n" ++
  "\n" ++
  "reporting:\n" ++
  "  destination: critcss-report.zip\n" ++
  ""

/-- The key whose value is kept as written. -/
def unexpandedKey : String := "output_name_template"

/-- The platform a configuration is prepared for: its system and
architecture. -/
structure Platform where
  os : String := "linux"
  arch : String := "amd64"

/-- The platform as the data a template runs on. -/
def Platform.toValue (p : Platform) : Template.Value :=
  .record "gencfg.Values" [("OS", .str p.os), ("ARCH", .str p.arch)]

/-- A scalar's text expanded for a platform. -/
def expandText (p : Platform) (text : String) : Except String String :=
  match parseTemplate "config" isFunctionName text with
  | .error e => .error e
  | .ok set => runTemplate set text p.toValue

/-- A node with its scalar values expanded, except the values of the
unexpanded key; `fuel` bounds the depth. -/
def expandNode (p : Platform) : Nat → Node → Except String Node
  | 0, n => .ok n
  | fuel + 1, n =>
    match n.kind with
    | .scalar => do return { n with value := ← expandText p n.value }
    | .mapping => do
      let mut out : Array Node := #[]
      for (k, v) in n.pairs do
        out := out.push k
        if k.kind == .scalar && k.value == unexpandedKey then out := out.push v
        else out := out.push (← expandNode p fuel v)
      return { n with content := out.toList }
    | .sequence | .document => do
      let mut out : Array Node := #[]
      for c in n.content do
        out := out.push (← expandNode p fuel c)
      return { n with content := out.toList }
    | .alias => .ok n

/-- A template document expanded for a platform and written out. -/
def expandTemplate (p : Platform) (text : String) : Except String String := do
  let doc ← (readDocument text).mapError (·.message)
  let root ← expandNode p (text.length + 1) doc.root
  return encodeNode root

/-- The default configuration's text on this platform. -/
def preparedConfig : Except String String := expandTemplate {} configTemplate

end CriticalCss.Config

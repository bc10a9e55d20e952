import CriticalCss.Config.Basic
import CriticalCss.Yaml.Decode
import CriticalCss.Css.Minify.Kind
/-!
# Reading a configuration

A configuration document is decoded over the configuration already there,
field by field by the YAML names of the fields. A name no field has is a
mismatch. Values take the types of their fields: durations are read from
their texts, the minifier by its name in any case, and headers and query
parameters as maps of strings.

## Main definitions

* `configurationDecoder`: the decoder of configurations.
* `decodeConfiguration`: a configuration text decoded over a configuration.
-/

namespace CriticalCss.Config

open CriticalCss.Yaml

/-- Strings. -/
def str : Decoder String := stringDecoder "string"

/-- Lists of strings. -/
def strings : Decoder (List String) := listDecoder str

/-- The minifier by its name. -/
def minifierDecoder : Decoder Int :=
  textDecoder "config.MinifierKind" 0 fun text => (Css.MinifierKind.parse text).map (·.code)

/-- The filters. -/
def filtersDecoder : Decoder FiltersConfig :=
  recordDecoder "config.FiltersConfig" {}
    [field "exclude_properties" strings (·.excludeProperties) fun r v => { r with excludeProperties := v },
     field "exclude_at_rules" strings (·.excludeAtRules) fun r v => { r with excludeAtRules := v }]

/-- The generation settings. -/
def generationDecoder : Decoder GenerationConfig :=
  recordDecoder "config.GenerationConfig" {}
    [field "viewports" strings (·.viewports) fun r v => { r with viewports := v },
     field "success_ratio" floatDecoder (·.successRatio) fun r v => { r with successRatio := v },
     field "concurrency" (intDecoder "int" false) (·.concurrency) fun r v => { r with concurrency := v },
     field "minifier" minifierDecoder (·.minifier) fun r v => { r with minifier := v },
     field "filters" filtersDecoder (·.filters) fun r v => { r with filters := v },
     field "output_name_template" str (·.outputNameTemplate) fun r v => { r with outputNameTemplate := v }]

/-- The fetch settings. -/
def fetchDecoder : Decoder FetchConfig :=
  recordDecoder "config.FetchConfig" {}
    [field "timeout" (intDecoder "time.Duration" true) (·.timeout) fun r v => { r with timeout := v },
     field "user_agent" str (·.userAgent) fun r v => { r with userAgent := v },
     field "max_size" (intDecoder "int64" false) (·.maxSize) fun r v => { r with maxSize := v },
     field "cache_size" (intDecoder "int" false) (·.cacheSize) fun r v => { r with cacheSize := v },
     field "charset" str (·.charset) fun r v => { r with charset := v },
     field "headers" (mapDecoder (stringDecoder "config.SecretString")) (·.headers)
       fun r v => { r with headers := v }]

/-- The browser settings. -/
def browserDecoder : Decoder BrowserConfig :=
  recordDecoder "config.BrowserConfig" {}
    [field "remote_url" str (·.remoteUrl) fun r v => { r with remoteUrl := v },
     field "bin" str (·.bin) fun r v => { r with bin := v },
     field "headless" boolDecoder (·.headless) fun r v => { r with headless := v },
     field "stealth" boolDecoder (·.stealth) fun r v => { r with stealth := v },
     field "load_timeout" (intDecoder "time.Duration" true) (·.loadTimeout) fun r v => { r with loadTimeout := v },
     field "get_parameters" (mapDecoder str) (·.getParameters) fun r v => { r with getParameters := v }]

/-- One log's settings. -/
def loggerDecoder : Decoder LoggerConfig :=
  recordDecoder "config.LoggerConfig" {}
    [field "level" str (·.level) fun r v => { r with level := v },
     field "destination" str (·.destination) fun r v => { r with destination := v },
     field "mode" str (·.mode) fun r v => { r with mode := v }]

/-- The logging settings. -/
def loggingDecoder : Decoder LoggingConfig :=
  recordDecoder "config.LoggingConfig" {}
    [field "file" loggerDecoder (·.file) fun r v => { r with file := v },
     field "console" loggerDecoder (·.console) fun r v => { r with console := v }]

/-- The report settings. -/
def reporterDecoder : Decoder ReporterConfig :=
  recordDecoder "config.ReporterConfig" {}
    [field "destination" str (·.destination) fun r v => { r with destination := v }]

/-- The decoder of configurations. -/
def configurationDecoder : Decoder Configuration :=
  recordDecoder "config.Config" {}
    [field "version" (intDecoder "int" false) (·.version) fun r v => { r with version := v },
     field "generation" generationDecoder (·.generation) fun r v => { r with generation := v },
     field "fetch" fetchDecoder (·.fetch) fun r v => { r with fetch := v },
     field "browser" browserDecoder (·.browser) fun r v => { r with browser := v },
     field "logging" loggingDecoder (·.logging) fun r v => { r with logging := v },
     field "reporting" reporterDecoder (·.reporting) fun r v => { r with reporting := v }]

/-- A configuration text decoded over a configuration; an empty text is the
end of input. -/
def decodeConfiguration (text : String) (base : Configuration) : Except YamlError Configuration := do
  let doc ← readDocument text
  decodeDocument doc configurationDecoder base

end CriticalCss.Config

import CriticalCss.Command.Line
/-!
# Help and version texts

The help of a command names it, shows how it is called, and lists its
flags in a table: each flag's names with the value it takes, then what it
does. A name is written with one dash when it is one letter long and two
otherwise, followed by the value's word: the word the usage puts in
backticks, or `value`. A list flag shows its names twice, the second time
in brackets, and a number flag its default. The table's second column
starts two spaces after the longest first cell.

The program's help also shows its version and its subcommands; a
subcommand's help also shows the flags its parent shares, and what its
arguments mean.

## Main definitions

* `programHelp`, `commandHelp`: the help texts.
* `versionText`: the version line.
-/

namespace CriticalCss.Command

/-- The version of the program, with the runtime it runs on and the
revision it was built from. -/
def versionLine (version runtime revision : String) : String :=
  version ++ " (" ++ runtime ++ ") : " ++ revision

/-- The word in backticks in a usage, and the usage without the backticks. -/
def usageWord (usage : String) : Option String × String :=
  match usage.splitOn (String.singleton (Char.ofNat 96)) with
  | before :: word :: after => (some word, before ++ word ++ String.join after)
  | _ => (none, usage)

/-- The names of a flag as the help writes them. -/
def Flag.shownNames (f : Flag) : String :=
  let word := match (usageWord f.usage).1 with
    | some w => " " ++ w
    | none => if f.kind == .switch then "" else " value"
  let names := ", ".intercalate (f.names.map fun n => (if n.length == 1 then "-" else "--") ++ n ++ word)
  if f.kind == .texts then names ++ " [ " ++ names ++ " ]" else names

/-- What a flag does as the help writes it. -/
def Flag.shownUsage (f : Flag) : String :=
  let usage := (usageWord f.usage).2
  if f.kind == .number then usage ++ " (default: 0)" else usage

/-- Rows of two cells, the second ones lined up two spaces after the
longest first one, each row indented by three spaces. -/
def table (rows : List (String × String)) : String :=
  let width := (rows.map (·.1.length)).foldl max 0 + 2
  String.join (rows.map fun (a, b) => "\n   " ++ a ++ String.ofList (List.replicate (width - a.length) ' ') ++ b)

/-- The table of flags. -/
def flagTable (flags : List Flag) : String :=
  table (flags.map fun f => (f.shownNames, f.shownUsage))

/-- The help of the program. -/
def programHelp (c : Command) (version : String) : String :=
  "NAME:\n   " ++ c.name ++ " - " ++ c.usage ++ "\n\nUSAGE:\n   " ++ c.name ++
    " [global options] [command [command options]]\n\nVERSION:\n   " ++ version ++ "\n\nCOMMANDS:" ++
    table ([generateCommand, dumpConfigCommand].map fun s => (s.name, s.usage)) ++
    "\n\nGLOBAL OPTIONS:" ++ flagTable c.flags ++ "\n"

/-- What the arguments of `generate` and `dumpconfig` mean, after their
help. -/
def argumentsHelp : String → String
  | "generate" =>
    "\nPAGE:\n    absolute url of a page to analyze: \"https://...\", \"http://...\" or \"file:///...\"\n\n" ++
    "  Pages are expected to share stylesheets, typically pages of one site\n" ++
    "  rendered with the same layout. Selector matching on a page which does\n" ++
    "  not include its stylesheet is never considered critical.\n\n" ++
    "DESTINATION:\n    if absent - file in current working directory, name is produced from\n" ++
    "    generation.output_name_template\n"
  | "dumpconfig" =>
    "\nDESTINATION:\n    file name to write configuration to, if absent - STDOUT\n\n" ++
    "Actual configuration is the default one with values from configuration file\n" ++
    "applied. Use --default to see configuration embedded into the program.\n"
  | _ => ""

/-- The help of a subcommand of the program. -/
def commandHelp (program c : Command) : String :=
  let full := program.name ++ " " ++ c.name
  "NAME:\n   " ++ full ++ " - " ++ c.usage ++ "\n\nUSAGE:\n   " ++ full ++ " [options] " ++ c.argsUsage ++
    "\n\nOPTIONS:" ++ flagTable c.flags ++
    "\n\nGLOBAL OPTIONS:" ++ flagTable (program.flags.filter (·.shared)) ++ "\n" ++ argumentsHelp c.name

/-- The line the version flag prints. -/
def versionText (program : Command) (version : String) : String :=
  program.name ++ " version " ++ version ++ "\n"

end CriticalCss.Command

import CriticalCss.Text.Binary64
import CriticalCss.Text.Space
import CriticalCss.Text.Quote
/-!
# Reading a command line

The program is one command with two subcommands, `generate` and
`dumpconfig`. Each command has flags; a flag has a long name and may have
short ones, and takes a switch, a text, a list of texts or a number.

Arguments are read in order, each with surrounding blanks removed:

* `--` ends the flags: everything after it is an argument as it stands;
* an empty argument ends the reading, and a lone `-` is the last argument;
* the name of a subcommand hands it the rest of the line;
* `-x` or `--x`, with `=value` or not, sets the flag named `x`; a switch
  takes `true` when no value is given, any other flag takes the next
  argument when none is given;
* a single dash not followed by a letter makes this and the rest arguments;
* anything else is an argument, and flags may follow it.

A command finds a flag among its own first and then among the flags its
parent shares; the help and version flags are not shared. A name no flag
has is refused with `flag provided but not defined: -name`, a missing value
with `flag needs an argument: ` and the argument as written. A list flag
splits its value at commas, and the first value given replaces the list.

## Main definitions

* `Flag`, `Command`: what a command accepts.
* `Reading`: the flags set and the arguments of one command.
* `Command.read`: an argument list read for a command.
-/

namespace CriticalCss.Command

open CriticalCss.Text

/-- What a flag takes. -/
inductive FlagKind where
  /-- On or off; given alone, it is on. -/
  | switch
  | text
  /-- Texts, given once or more, each time one or more separated by commas. -/
  | texts
  | number
  deriving DecidableEq, Repr

/-- A flag of a command. -/
structure Flag where
  /-- The names, the long one first. -/
  names : List String
  kind : FlagKind
  /-- What the help says the flag does; a word in backticks names its value. -/
  usage : String
  /-- Whether subcommands accept the flag too. -/
  shared : Bool := true
  deriving Repr

/-- The first name of a flag, by which its value is found. -/
def Flag.name (f : Flag) : String := f.names.headD ""

/-- A value given to a flag. -/
inductive FlagValue where
  | switch (on : Bool)
  | text (s : String)
  | texts (xs : List String)
  | number (x : Float)
  deriving Repr

end CriticalCss.Command

namespace CriticalCss

/-- A command: its name, what it does, what its arguments are, its flags and
its subcommands' names. -/
structure Command where
  name : String
  usage : String
  argsUsage : String := ""
  flags : List Command.Flag
  subcommands : List String := []
  deriving Repr

end CriticalCss

namespace CriticalCss.Command

open CriticalCss.Text

/-- Flag values by first name. -/
abbrev FlagValues := List (String × FlagValue)

/-- The flags set while reading the arguments of one command, by first
name, and its arguments. Flags of the parent set here are kept apart. -/
structure Reading where
  values : FlagValues := []
  shared : FlagValues := []
  args : List String := []
  deriving Repr, Inhabited

/-- Whether a flag was set. -/
def FlagValues.isSet (vs : FlagValues) (name : String) : Bool := (vs.lookup name).isSome

/-- A switch's value, off when not set. -/
def FlagValues.switch (vs : FlagValues) (name : String) : Bool :=
  match vs.lookup name with
  | some (.switch b) => b
  | _ => false

/-- A text flag's value, empty when not set. -/
def FlagValues.text (vs : FlagValues) (name : String) : String :=
  match vs.lookup name with
  | some (.text s) => s
  | _ => ""

/-- A list flag's values, none when not set. -/
def FlagValues.texts (vs : FlagValues) (name : String) : List String :=
  match vs.lookup name with
  | some (.texts xs) => xs
  | _ => []

/-- A number flag's value, zero when not set. -/
def FlagValues.number (vs : FlagValues) (name : String) : Float :=
  match vs.lookup name with
  | some (.number x) => x
  | _ => 0

/-- The values with one flag's value replaced. -/
def FlagValues.put (vs : FlagValues) (name : String) (v : FlagValue) : FlagValues :=
  (name, v) :: vs.filter (·.1 != name)

/-- The words a switch reads as on. -/
def onWords : List String := ["1", "t", "T", "TRUE", "true", "True"]

/-- The words a switch reads as off. -/
def offWords : List String := ["0", "f", "F", "FALSE", "false", "False"]

/-- A flag's value read from text, added to what it had; the reason it is
refused otherwise, naming the flag as it was written. -/
def Flag.parse (f : Flag) (written : String) (old : Option FlagValue) (given : String) :
    Except String FlagValue :=
  let refused (reader : String) : Except String FlagValue :=
    .error ("invalid value " ++ quote given ++ " for flag -" ++ written ++ ": " ++ reader ++ ": parsing " ++
      quote given ++ ": invalid syntax")
  match f.kind with
  | .switch =>
    if onWords.contains given then .ok (.switch true)
    else if offWords.contains given then .ok (.switch false)
    else refused "strconv.ParseBool"
  | .text => .ok (.text given)
  | .texts =>
    let parts := (given.splitOn ",").map trimSpace
    match old with
    | some (.texts xs) => .ok (.texts (xs ++ parts))
    | _ => .ok (.texts parts)
  | .number =>
    match parseDecimal (trimSpace given) with
    | some x => .ok (.number x)
    | none => refused "strconv.ParseFloat"

/-- Whether the character after a single dash makes a flag: a letter, as
the first byte of its encoding reads when taken for a character. -/
def startsFlagName (c : Char) : Bool :=
  if c.toNat < 0x80 then c.isAlpha
  else
    let lead := (String.singleton c).toUTF8.toList.headD 0
    lead == 0xaa || lead == 0xb5 || lead == 0xba ||
      (lead ≥ 0xc0 && lead != 0xd7 && lead != 0xf7)

/-- The flag a name picks among a command's own flags and the shared flags
of its parent: the flag and whether it is the parent's. -/
def findFlag (own parent : List Flag) (name : String) : Option (Flag × Bool) :=
  match own.find? (·.names.contains name) with
  | some f => some (f, false)
  | none => (parent.find? fun f => f.shared && f.names.contains name).map (·, true)

/-- A flag, written as `written`, set in a reading, in the command's values
or its parent's. -/
def Reading.set (r : Reading) (f : Flag) (written : String) (parents : Bool) (given : String) :
    Except String Reading :=
  if parents then
    (f.parse written (r.shared.lookup f.name) given).map fun v =>
      { r with shared := FlagValues.put r.shared f.name v }
  else
    (f.parse written (r.values.lookup f.name) given).map fun v =>
      { r with values := FlagValues.put r.values f.name v }

/-- The name and the value given with `=` of an argument without its dashes. -/
def splitFlag (body : String) : String × Option String :=
  match body.splitOn "=" with
  | [name] => (name, none)
  | name :: rest => (name, some ("=".intercalate rest))
  | [] => (body, none)

/-- Reads arguments for a command whose own flags are `own`, whose parent's
flags are `parent` and whose subcommands are `subcommands`. -/
def readArgs (own parent : List Flag) (subcommands : List String) :
    List String → Reading → Except String Reading
  | [], r => .ok r
  | a :: rest, r =>
    let first := trimSpace a
    match first.toList with
    | [] => .ok r
    | ['-', '-'] => .ok { r with args := r.args ++ rest }
    | ['-'] => .ok { r with args := r.args ++ [first] }
    | '-' :: second :: _ =>
      let dashes := if second == '-' then 2 else 1
      if dashes == 1 && !startsFlagName second then .ok { r with args := r.args ++ a :: rest }
      else
        let (name, given) := splitFlag (String.ofList (first.toList.drop dashes))
        match findFlag own parent name with
        | none => .error ("flag provided but not defined: -" ++ name)
        | some (f, parents) =>
          let given := given.filter (!·.isEmpty)
          if f.kind == .switch then
            match r.set f name parents (given.getD "true") with
            | .ok r => readArgs own parent subcommands rest r
            | .error e => .error e
          else match given with
            | some v =>
              match r.set f name parents v with
              | .ok r => readArgs own parent subcommands rest r
              | .error e => .error e
            | none =>
              match rest.head? with
              | none => .error ("flag needs an argument: " ++ first)
              | some v =>
                match r.set f name parents v with
                | .ok r => readArgs own parent subcommands rest.tail r
                | .error e => .error e
    | _ =>
      if subcommands.contains first then .ok { r with args := r.args ++ a :: rest }
      else readArgs own parent subcommands rest { r with args := r.args ++ [first] }
termination_by args => args.length
decreasing_by all_goals simp only [List.length_cons, List.length_tail]; omega

/-- The arguments after a command's name, read for it under a parent with
`parent` flags. -/
def read (c : Command) (parent : List Flag) (args : List String) : Except String Reading :=
  readArgs c.flags parent c.subcommands args {}

/-- The flag that asks for help. -/
def helpFlag : Flag := { names := ["help", "h"], kind := .switch, usage := "show help", shared := false }

/-- The flag that asks for the version. -/
def versionFlag : Flag :=
  { names := ["version", "v"], kind := .switch, usage := "print the version", shared := false }

/-- The `generate` command. -/
def generateCommand : Command where
  name := "generate"
  usage := "Generates critical CSS for specified pages"
  argsUsage := "PAGE [PAGE...]"
  flags := [
    { names := ["destination", "dst"], kind := .text,
      usage := "output `PATH`: file ending with .css, directory or \"-\" for STDOUT" },
    { names := ["viewport", "vp"], kind := .texts,
      usage := "probe pages with `WIDTHxHEIGHT` viewport, may be repeated, replaces configured viewports" },
    { names := ["success-ratio", "sr"], kind := .number,
      usage := "part of pages which must be processed successfully, (0, 1]" },
    { names := ["overwrite", "ow"], kind := .switch, usage := "replace destination file if it exists" },
    { names := ["force-charset"], kind := .text,
      usage := "decode ALL stylesheets using `ENCODING` (see IANA.org for character set names)" },
    helpFlag]

/-- The `dumpconfig` command. -/
def dumpConfigCommand : Command where
  name := "dumpconfig"
  usage := "Dumps either default or actual configuration (YAML)"
  argsUsage := "DESTINATION"
  flags := [{ names := ["default"], kind := .switch, usage := "output default embedded configuration" }, helpFlag]

/-- The program's own command, named after the program. -/
def programCommand (app : String) : Command where
  name := app
  usage := "critical (above the fold) CSS generator"
  flags := [
    { names := ["config", "c"], kind := .text, usage := "load configuration from `FILE` (YAML)" },
    { names := ["debug", "d"], kind := .switch,
      usage := "changes program behavior to help troubleshooting, produces report archive" },
    helpFlag, versionFlag]
  subcommands := ["generate", "dumpconfig"]

/-- The subcommand of a name. -/
def subcommand? (name : String) : Option Command :=
  [generateCommand, dumpConfigCommand].find? (·.name == name)

end CriticalCss.Command

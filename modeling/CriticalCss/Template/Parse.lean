import CriticalCss.Template.Tree
import CriticalCss.Text.Utf8
/-!
# Reading templates

Tokens are read into pieces by recursive descent with one token of
look-ahead (three right after a variable, to tell `$x :=` from `$x` used as
an argument). Names are checked while reading: a function must be known and
a variable declared in an enclosing scope, where `$` is always declared and
the variables of a control structure end with it. `break` and `continue`
stand only inside `range`.

An error is reported as `template: NAME:LINE: …`, with the line of the
furthest token read; an error token of the reader is reported with its own
text, and with the line its action started on when that differs.

At the top level, `{{define "name"}}…{{end}}` defines a template of that
name, and `{{block "name" pipeline}}…{{end}}` anywhere defines one and calls
it; their bodies have scopes of their own. A name defined twice is an
error unless one of the two bodies is blank, which then gives way.

## Main definitions

* `Item`: a piece, or the `end` and `else` that close bodies.
* `parseTemplate`: the templates a text defines, or the error text.
-/

namespace CriticalCss.Template

/-- What a step of reading yields: a piece, or the `{{end}}` or `{{else}}`
that closes a body. -/
inductive Item where
  | piece (p : Piece)
  | endMark
  | elseMark

/-- How errors name an `end` or `else`. -/
def Item.text : Item → String
  | .endMark => "\x7b\x7bend\x7d\x7d"
  | .elseMark => "\x7b\x7belse\x7d\x7d"
  | .piece _ => "piece"

/-- The state of reading: the tokens, the next one to read, the furthest
one read, the variables in scope, the depth of `range` bodies and the line
where the current action started (0 outside actions). -/
structure Reader where
  name : String
  tokens : Array Token
  index : Nat := 0
  furthest : Nat := 0
  vars : List String := ["$"]
  rangeDepth : Nat := 0
  actionLine : Nat := 0
  isFunction : String → Bool
  /-- The templates defined so far, by name. -/
  defs : List (String × List Piece) := []

/-- Reading: a state over the reader that may fail with an error text. -/
abbrev ReadM := StateT Reader (Except String)

/-- The token at an index; past the end, the last token. -/
def Reader.tokenAt (r : Reader) (i : Nat) : Token :=
  r.tokens[i]?.getD (r.tokens.back?.getD default)

/-- Fail with a message, prefixed by the template's name and the line of
the furthest token read. -/
def readFail {α : Type} (msg : String) : ReadM α := do
  let r ← get
  throw ("template: " ++ r.name ++ ":" ++ toString (r.tokenAt r.furthest).line ++ ": " ++ msg)

/-- Fail with a message, prefixed by the template's name and a line. -/
def readFailAt {α : Type} (line : Nat) (msg : String) : ReadM α := do
  throw ("template: " ++ (← get).name ++ ":" ++ toString line ++ ": " ++ msg)

/-- Record a template's body under its name. A name not yet defined, or
defined by a blank body, takes the body; a second body that is not blank is
an error, and a second blank one is dropped. -/
def addDefinition (name : String) (body : List Piece) : ReadM Unit := do
  let r ← get
  match r.defs.lookup name with
  | none => set { r with defs := r.defs ++ [(name, body)] }
  | some old =>
    if old.all Piece.isBlank then
      set { r with defs := r.defs.map fun (n, b) => if n == name then (n, body) else (n, b) }
    else if !(body.all Piece.isBlank) then
      readFail ("template: multiple definition of template " ++ Text.quote name)

/-- The next token. -/
def next : ReadM Token := do
  let r ← get
  let t := r.tokenAt r.index
  set { r with index := r.index + 1, furthest := max r.furthest r.index }
  return t

/-- Step back one token. -/
def backup : ReadM Unit :=
  modify fun r => { r with index := r.index - 1 }

/-- The next token, left unread. -/
def peek : ReadM Token := do
  let t ← next
  backup
  return t

/-- The index of the first token at or after `i` that is not a blank,
looking at most `n` tokens ahead. -/
def firstNonSpace (ts : Array Token) : Nat → Nat → Nat
  | 0, i => i
  | n + 1, i =>
    match ts[i]? with
    | some t => if t.kind == .space then firstNonSpace ts n (i + 1) else i
    | none => i

/-- The next token that is not a blank. -/
def nextNonSpace : ReadM Token := do
  let r ← get
  let i := firstNonSpace r.tokens r.tokens.size r.index
  set { r with index := i, furthest := max r.furthest (i - 1) }
  next

/-- The next token that is not a blank, left unread (the blanks before it
are read). -/
def peekNonSpace : ReadM Token := do
  let t ← nextNonSpace
  backup
  return t

/-- Fail on a token that does not fit the context. -/
def unexpected {α : Type} (t : Token) (context : String) : ReadM α := do
  if t.kind == .error then
    let r ← get
    let extra :=
      if r.actionLine != 0 && r.actionLine != t.line then
        let e := " in action started at " ++ r.name ++ ":" ++ toString r.actionLine
        if t.text.endsWith " action" then (e.drop " in action".length).toString else e
      else ""
    readFail (t.text ++ extra)
  else readFail ("unexpected " ++ t.describe ++ " in " ++ context)

/-- The next token that is not a blank, which must be of kind `k`. -/
def expect (k : TokenKind) (context : String) : ReadM Token := do
  let t ← nextNonSpace
  if t.kind != k then unexpected t context else return t

/-- The names of a field or variable token split at the dots; a field's
leading dot is dropped. -/
def splitNames (text : String) : List String :=
  match text.toList with
  | '.' :: rest => (String.ofList rest).splitOn "."
  | _ => text.splitOn "."

/-- The bytes a double-quoted string's body stands for, its escapes read
(at most `fuel` of its characters), or `none` when it is malformed. A `\x`
or octal escape stands for one byte, anything else for its UTF-8 bytes. -/
def unquoteBytes : Nat → List Char → Option (List UInt8)
  | _, [] => some []
  | 0, _ :: _ => none
  | fuel + 1, c :: cs =>
    if c == '\n' then none
    else match unquoteChar '"' (c :: cs) with
      | none => none
      | some (v, isByte, rest) =>
        let bytes := if isByte then [v.toUInt8] else (Char.ofNat v).toString.toUTF8.toList
        (unquoteBytes fuel rest).map (bytes ++ ·)

/-- The bytes a string token stands for: a raw string without its back
quotes and carriage returns, a quoted string with its escapes read. -/
def unquoteToken (t : Token) : Option (List UInt8) :=
  let cs := t.text.toList
  if t.kind == .rawString then
    some (String.ofList ((cs.drop 1).dropLast.filter (· != '\r'))).toUTF8.toList
  else
    let body := (cs.drop 1).dropLast
    unquoteBytes body.length body

/-- The numeric constant a number or character token stands for. -/
def numberOf (t : Token) : Except String NumberLit :=
  if t.kind == .charConstant then
    (charConstantValue t.text).map NumberLit.ofRune
  else if t.kind == .complex then
    let cs := t.text.toList
    let n := (numberLength cs).1
    match Text.parseGoFloat (String.ofList (cs.take n)), Text.parseGoFloat (String.ofList (cs.drop n).dropLast) with
    | some re, some im => .ok (NumberLit.ofComplex re im)
    | _, _ => .error ("strconv.ParseFloat: parsing " ++ Text.quote t.text ++ ": invalid syntax")
  else NumberLit.parse t.text

/-- The name of a template: a quoted or raw string. -/
def readTemplateName (context : String) : ReadM (Token × String) := do
  let t ← nextNonSpace
  if t.kind != .string && t.kind != .rawString then unexpected t context
  match unquoteToken t with
  | some s => return (t, Text.decodeLossy s)
  | none => readFail "invalid syntax"

/-- Whether an operand's kind may not start a later stage of a pipeline. -/
def Operand.isConstant : Operand → Bool
  | .bool .. | .dot _ | .nil _ | .number .. | .string .. => true
  | _ => false

/-- Check a finished pipeline: it has a command, and no later stage starts
with a constant. -/
def checkPipeline (cmds : List Command) (context : String) : ReadM Unit := do
  if cmds.isEmpty then readFail ("missing value for " ++ context)
  let rec go : Nat → List Command → ReadM Unit
    | _, [] => pure ()
    | i, c :: rest => do
      match c.args.head? with
      | some o => if o.isConstant then readFail ("non executable command in pipeline stage " ++ toString i)
      | none => pure ()
      go (i + 1) rest
  go 2 (cmds.drop 1)

/-- Whether a token kind may start a command. -/
def startsCommand : TokenKind → Bool
  | .bool | .charConstant | .complex | .dot | .field | .identifier | .number | .nilKw
  | .rawString | .string | .variable | .leftParen => true
  | _ => false

/-- The variable declarations at the start of a pipeline, with whether they
assign; at most `n` rounds. -/
def readDecls (context : String) : Nat → List String → ReadM (List String × Bool)
  | 0, decls => pure (decls, false)
  | n + 1, decls => do
    let v ← peekNonSpace
    if v.kind != .variable then return (decls, false)
    let start := (← get).index
    let _ ← next
    let nxt ← peekNonSpace
    if nxt.kind == .assign || nxt.kind == .declare then
      let _ ← nextNonSpace
      modify fun r => { r with vars := r.vars ++ [v.text] }
      return (decls ++ [v.text], nxt.kind == .assign)
    else if nxt.kind == .char && nxt.text == "," then
      let _ ← nextNonSpace
      modify fun r => { r with vars := r.vars ++ [v.text] }
      let decls := decls ++ [v.text]
      if context == "range" && decls.length < 2 then
        let k := (← peekNonSpace).kind
        if k == .variable || k == .rightDelim || k == .rightParen then readDecls context n decls
        else readFail "range can only initialize variables"
      else readFail ("too many declarations in " ++ context)
    else
      modify fun r => { r with index := start }
      return (decls, false)

/-- The field names that follow, at most `n`. -/
def readFields : Nat → List String → ReadM (List String)
  | 0, acc => pure acc
  | n + 1, acc => do
    let p ← peek
    if p.kind != .field then return acc
    let _ ← next
    readFields n (acc ++ splitNames p.text)

mutual

/-- A term: a constant, a name, or a parenthesized pipeline; `none` when
the next token starts none. -/
def readTerm : Nat → ReadM (Option Operand)
  | 0 => readFail "template too deeply nested"
  | fuel + 1 => do
    let t ← nextNonSpace
    match t.kind with
    | .identifier =>
      if !((← get).isFunction t.text) then readFail ("function " ++ Text.quote t.text ++ " not defined")
      return some (.ident t.pos t.text)
    | .dot => return some (.dot t.pos)
    | .nilKw => return some (.nil t.pos)
    | .variable =>
      if !((← get).vars.contains t.text) then readFail ("undefined variable " ++ Text.quote t.text)
      return some (.variable t.pos [t.text])
    | .field => return some (.field t.pos (splitNames t.text))
    | .bool => return some (.bool t.pos (t.text == "true"))
    | .charConstant | .complex | .number =>
      match numberOf t with
      | .ok lit => return some (.number t.pos t.text lit)
      | .error e => readFail e
    | .leftParen => return some (.pipe (← readPipeline fuel "parenthesized pipeline" .rightParen))
    | .string | .rawString =>
      match unquoteToken t with
      | some s => return some (.string t.pos t.text s)
      | none => readFail "invalid syntax"
    | _ =>
      backup
      return none

/-- An operand: a term and the fields that follow it without a blank. -/
def readOperand : Nat → ReadM (Option Operand)
  | 0 => readFail "template too deeply nested"
  | fuel + 1 => do
    match ← readTerm fuel with
    | none => return none
    | some node =>
      let p ← peek
      if p.kind != .field then return some node
      let names ← readFields (← get).tokens.size []
      match node with
      | .field _ ns => return some (.field p.pos (ns ++ names))
      | .variable _ ns => return some (.variable p.pos (ns ++ names))
      | .bool .. | .string .. | .number .. | .nil _ | .dot _ =>
        readFail ("unexpected . after term " ++ Text.quote node.text)
      | _ => return some (.chain p.pos node names)

/-- The operands of a command, up to `|`, `}}` or `)`. -/
def readArgs : Nat → List Operand → ReadM (List Operand)
  | 0, _ => readFail "template too deeply nested"
  | fuel + 1, args => do
    let _ ← peekNonSpace
    let args := match ← readOperand fuel with
      | some o => args ++ [o]
      | none => args
    let t ← next
    match t.kind with
    | .space => readArgs fuel args
    | .rightDelim | .rightParen =>
      backup
      return args
    | .pipe => return args
    | _ => unexpected t "operand"

/-- A command. -/
def readCommand : Nat → ReadM Command
  | 0 => readFail "template too deeply nested"
  | fuel + 1 => do
    let pos := (← peekNonSpace).pos
    let args ← readArgs fuel []
    if args.isEmpty then readFail "empty command"
    return .mk pos args

/-- The commands of a pipeline up to the token of kind `stop`. -/
def readCommands : Nat → String → TokenKind → List Command → ReadM (List Command)
  | 0, _, _, _ => readFail "template too deeply nested"
  | fuel + 1, context, stop, cmds => do
    let t ← nextNonSpace
    if t.kind == stop then
      checkPipeline cmds context
      return cmds
    else if startsCommand t.kind then
      backup
      let c ← readCommand fuel
      readCommands fuel context stop (cmds ++ [c])
    else unexpected t context

/-- A pipeline ending at a token of kind `stop`. -/
def readPipeline : Nat → String → TokenKind → ReadM Pipeline
  | 0, _, _ => readFail "template too deeply nested"
  | fuel + 1, context, stop => do
    let pos := (← peekNonSpace).pos
    let (decls, assign) ← readDecls context (← get).tokens.size []
    let cmds ← readCommands fuel context stop []
    return .mk pos assign decls cmds

/-- The pieces of a body up to its `{{end}}` or `{{else}}`. -/
def readBody : Nat → List Piece → ReadM (List Piece × Item)
  | 0, _ => readFail "template too deeply nested"
  | fuel + 1, acc => do
    if (← peekNonSpace).kind == .eof then readFail "unexpected EOF"
    match ← readItem fuel with
    | .piece p => readBody fuel (acc ++ [p])
    | other => return (acc, other)

/-- The pieces of a template's body up to its `{{end}}` or `{{else}}`, read
in a scope of its own: only `$` is declared, and it is outside any `range`. -/
def readOwnBody : Nat → ReadM (List Piece × Item)
  | 0 => readFail "template too deeply nested"
  | fuel + 1 => do
    let r ← get
    set { r with vars := ["$"], rangeDepth := 0, actionLine := 0 }
    let result ← readBody fuel []
    modify fun s => { s with vars := r.vars, rangeDepth := r.rangeDepth, actionLine := r.actionLine }
    return result

/-- A control structure's pipeline, body and alternative. -/
def readControl : Nat → String → ReadM (Pipeline × List Piece × Option (List Piece))
  | 0, _ => readFail "template too deeply nested"
  | fuel + 1, context => do
    let saved := (← get).vars.length
    let pipe ← readPipeline fuel context .rightDelim
    if context == "range" then modify fun r => { r with rangeDepth := r.rangeDepth + 1 }
    let (body, stop) ← readBody fuel []
    if context == "range" then modify fun r => { r with rangeDepth := r.rangeDepth - 1 }
    let alt ← match stop with
      | .elseMark => do
        let k := (← peek).kind
        if context == "if" && k == .ifKw then
          let _ ← next
          let (p, b, a) ← readControl fuel "if"
          pure (some [Piece.ifElse p.pos p b a])
        else if context == "with" && k == .with then
          let _ ← next
          let (p, b, a) ← readControl fuel "with"
          pure (some [Piece.withElse p.pos p b a])
        else
          let (alt, stop2) ← readBody fuel []
          match stop2 with
          | .endMark => pure (some alt)
          | other => readFail ("expected end; found " ++ other.text)
      | _ => pure none
    modify fun r => { r with vars := r.vars.take saved }
    return (pipe, body, alt)

/-- The inside of an action after its `{{`. -/
def readAction : Nat → ReadM Item
  | 0 => readFail "template too deeply nested"
  | fuel + 1 => do
    let t ← nextNonSpace
    match t.kind with
    | .breakKw | .continueKw =>
      let word := if t.kind == .breakKw then "break" else "continue"
      let close ← nextNonSpace
      if close.kind != .rightDelim then unexpected close ("\x7b\x7b" ++ word ++ "\x7d\x7d")
      if (← get).rangeDepth == 0 then readFail ("\x7b\x7b" ++ word ++ "\x7d\x7d outside \x7b\x7brange\x7d\x7d")
      return .piece (if t.kind == .breakKw then .breakLoop t.pos else .continueLoop t.pos)
    | .elseKw =>
      let p ← peekNonSpace
      if p.kind == .ifKw || p.kind == .with then return .elseMark
      let _ ← expect .rightDelim "else"
      return .elseMark
    | .endKw =>
      let _ ← expect .rightDelim "end"
      return .endMark
    | .ifKw =>
      let (p, b, a) ← readControl fuel "if"
      return .piece (.ifElse p.pos p b a)
    | .with =>
      let (p, b, a) ← readControl fuel "with"
      return .piece (.withElse p.pos p b a)
    | .range =>
      let (p, b, a) ← readControl fuel "range"
      return .piece (.range p.pos p b a)
    | .template =>
      let (t, name) ← readTemplateName "template clause"
      if (← nextNonSpace).kind == .rightDelim then return .piece (.call t.pos name none)
      backup
      let pipe ← readPipeline fuel "template clause" .rightDelim
      return .piece (.call t.pos name (some pipe))
    | .block =>
      let (t, name) ← readTemplateName "block clause"
      let pipe ← readPipeline fuel "block clause" .rightDelim
      let r ← get
      let headLine := (r.tokenAt (r.index - 1)).line
      let (body, stop) ← readOwnBody fuel
      match stop with
      | .endMark => addDefinition name body
      | other => readFailAt headLine ("unexpected " ++ other.text ++ " in block clause")
      return .piece (.call t.pos name (some pipe))
    | _ =>
      backup
      let first ← peek
      let pipe ← readPipeline fuel "command" .rightDelim
      return .piece (.action first.pos pipe)

/-- A text or an action. -/
def readItem : Nat → ReadM Item
  | 0 => readFail "template too deeply nested"
  | fuel + 1 => do
    let t ← nextNonSpace
    match t.kind with
    | .text => return .piece (.text t.text)
    | .leftDelim =>
      modify fun r => { r with actionLine := t.line }
      let item ← readAction fuel
      modify fun r => { r with actionLine := 0 }
      return item
    | _ => unexpected t "input"

end

/-- Whether a definition starts here: `{{` and then `define`, both read
when it does. -/
def startsDefinition : ReadM Bool := do
  let start := (← get).index
  if (← next).kind == .leftDelim && (← nextNonSpace).kind == .define then return true
  modify fun r => { r with index := start }
  return false

/-- A definition after its `{{define`: the name, then the body up to its
`{{end}}`, recorded under the name. -/
def readDefinition (fuel : Nat) : ReadM Unit := do
  let (_, name) ← readTemplateName "define clause"
  let _ ← expect .rightDelim "define clause"
  let (body, stop) ← readOwnBody fuel
  match stop with
  | .endMark => addDefinition name body
  | other => readFail ("unexpected " ++ other.text ++ " in define clause")

/-- The pieces of a whole template, at most `n` of them, recording the
definitions among them. -/
def readPieces (fuel : Nat) : Nat → List Piece → ReadM (List Piece)
  | 0, acc => pure acc
  | n + 1, acc => do
    if (← peek).kind == .eof then return acc
    if (← startsDefinition) then
      readDefinition fuel
      readPieces fuel n acc
    else
      match ← readItem fuel with
      | .piece p => readPieces fuel n (acc ++ [p])
      | other => readFail ("unexpected " ++ other.text)

/-- The templates a text named `name` defines, given which names are
functions, or the error text. The text itself is the template of its name,
unless it is blank and defines a template of that name. -/
def parseTemplate (name : String) (isFunction : String → Bool) (text : String) :
    Except String TemplateSet :=
  let tokens := tokenize text
  let fuel := 16 * (tokens.size + 1)
  let read : ReadM TemplateSet := do
    let pieces ← readPieces fuel tokens.size []
    addDefinition name pieces
    return { name, bodies := (← get).defs }
  read.run' { name, tokens, isFunction }

end CriticalCss.Template

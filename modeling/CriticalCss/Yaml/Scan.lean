import CriticalCss.Yaml.Token
/-!
# Reading YAML tokens

The scanner reads a YAML text into tokens, one at a time on demand.

* Block collections are found by indentation: a deeper entry opens a block
  sequence or mapping, a shallower one closes the open ones with block ends.
* A key need not be marked with `?`: a scalar, alias or flow collection on
  one line that is followed by `:` within 1024 characters is a *simple key*.
  Where one may start is recorded, and the key token (and the mapping start
  before it) is put into the queue when its `:` is found. A simple key that
  starts at the indentation of a block mapping must be followed by `:`.
* Plain scalars end at `: `, at ` #`, at a line indented less than their
  collection, and in flow collections at `,[]{}`; their line breaks fold to
  spaces, empty lines to line feeds.
* Quoted scalars fold lines the same way; double quotes take escapes.
* Literal (`|`) and folded (`>`) block scalars keep or fold their lines,
  with optional indentation and chomping indicators.
* Comments are skipped; whole-line comments are kept for the next token.

The scanner keeps at least three tokens queued ahead of the reader, and
never hands out a token that a pending simple key could still precede.

## Main definitions

* `Scanner`: the scanner state, with `Scanner.ofText`.
* `peekToken`, `skipToken`: the next token and taking it.
-/

namespace CriticalCss.Yaml

/-- A place where a simple key may start. -/
structure SimpleKey where
  possible : Bool := false
  required : Bool := false
  tokenNumber : Nat := 0
  mark : Mark := {}
  deriving Repr, Inhabited

/-- The state of the scanner. -/
structure Scanner where
  input : Array Char
  pos : Nat := 0
  mark : Mark := {}
  /-- Tokens read and not yet taken, the next one first. -/
  tokens : Array Token := #[]
  /-- How many tokens were taken. -/
  tokensTaken : Nat := 0
  started : Bool := false
  indent : Int := -1
  indents : List Int := []
  simpleKeyAllowed : Bool := false
  /-- The possible simple key of each flow level, the innermost last. -/
  simpleKeys : Array SimpleKey := #[]
  flowLevel : Nat := 0
  /-- Whole-line comments waiting for the next token. -/
  comments : List String := []
  deriving Inhabited

/-- The scanner at the start of a text. -/
def Scanner.ofText (text : String) : Scanner := { input := text.toList.toArray }

/-- Scanning, which may fail. -/
abbrev ScanM := StateT Scanner (Except SyntaxError)

/-- The character `k` places ahead, or `endChar` past the end. -/
def Scanner.at (s : Scanner) (k : Nat) : Char := s.input.getD (s.pos + k) endChar

/-- The character `k` places ahead. -/
def ahead (k : Nat := 0) : ScanM Char := return (← get).at k

/-- The current mark. -/
def curMark : ScanM Mark := return (← get).mark

/-- The bound on loops over the text. -/
def fuelOf : ScanM Nat := return (← get).input.size + 2

/-- Moves past one character on the line. -/
def skipChar : ScanM Unit :=
  modify fun s =>
    { s with pos := s.pos + 1, mark := { s.mark with index := s.mark.index + 1, column := s.mark.column + 1 } }

/-- Moves past a line break; a carriage return and line feed count as one. -/
def skipLine : ScanM Unit := do
  let s ← get
  if s.at 0 == '\r' && s.at 1 == '\n' then
    set { s with pos := s.pos + 2, mark := { index := s.mark.index + 2, line := s.mark.line + 1, column := 0 } }
  else if isBreak (s.at 0) then
    set { s with pos := s.pos + 1, mark := { index := s.mark.index + 1, line := s.mark.line + 1, column := 0 } }

/-- Takes the current character. -/
def readChar : ScanM Char := do
  let c ← ahead
  skipChar
  return c

/-- Takes a line break, as a line feed unless it is a line or paragraph
separator. -/
def readBreak : ScanM String := do
  let c ← ahead
  skipLine
  if c == '\u2028' || c == '\u2029' then return c.toString else return "\n"

/-- Fails with a problem at the current mark, in a context that started at a
mark. -/
def scanFail {α : Type} (contextMark : Mark) (problem : String) : ScanM α := do
  throw { inTokens := true, contextMark, problem, problemMark := (← get).mark }

/-- Puts a token at the end of the queue, or at a place in it. -/
def insertToken (place : Option Nat) (t : Token) : ScanM Unit :=
  modify fun s =>
    match place with
    | none => { s with tokens := s.tokens.push t }
    | some i => { s with tokens := s.tokens.insertIdxIfInBounds i t }

/-- Puts a token at the end of the queue, with the comments waiting for it. -/
def addToken (kind : TokenKind) (start stop : Mark) : ScanM Unit := do
  let s ← get
  set { s with comments := [], tokens := s.tokens.push { kind, start, stop, headComment := s.comments } }

/-- Changes the innermost possible simple key. -/
def modifyLastKey (f : SimpleKey → SimpleKey) : ScanM Unit :=
  modify fun s => { s with simpleKeys := s.simpleKeys.modify (s.simpleKeys.size - 1) f }

/-- Drops the innermost possible simple key; a required one is an error. -/
def removeSimpleKey : ScanM Unit := do
  match (← get).simpleKeys.back? with
  | some k =>
    if k.possible then
      if k.required then scanFail k.mark "could not find expected ':'"
      modifyLastKey fun k => { k with possible := false }
  | none => pure ()

/-- Records that a simple key may start here, if one may. -/
def saveSimpleKey : ScanM Unit := do
  let s ← get
  let required := s.flowLevel == 0 && s.indent == (s.mark.column : Int)
  if s.simpleKeyAllowed then
    let key : SimpleKey :=
      { possible := true, required, tokenNumber := s.tokensTaken + s.tokens.size, mark := s.mark }
    removeSimpleKey
    modifyLastKey fun _ => key

/-- Whether a possible simple key is still possible: on the line it started
and within 1024 characters. One that is no longer possible is dropped; a
required one is an error. -/
def keyStillPossible (k : SimpleKey) : ScanM Bool := do
  if !k.possible then return false
  let s ← get
  if k.mark.line < s.mark.line || k.mark.index + 1024 < s.mark.index then
    if k.required then scanFail k.mark "could not find expected ':'"
    return false
  return true

/-- Opens a flow level. -/
def increaseFlowLevel : ScanM Unit := do
  let s ← get
  set { s with simpleKeys := s.simpleKeys.push { mark := s.mark }, flowLevel := s.flowLevel + 1 }
  if s.flowLevel + 1 > 10000 then scanFail s.mark "exceeded max depth of 10000"

/-- Closes a flow level. -/
def decreaseFlowLevel : ScanM Unit :=
  modify fun s =>
    if s.flowLevel > 0 then { s with flowLevel := s.flowLevel - 1, simpleKeys := s.simpleKeys.pop } else s

/-- Opens a block collection at a column deeper than the current
indentation, putting its start token at the end of the queue or before the
token of the given number. -/
def rollIndent (column : Int) (number : Option Nat) (kind : TokenKind) (mark : Mark) : ScanM Unit := do
  let s ← get
  if s.flowLevel > 0 then return
  if s.indent < column then
    set { s with indents := s.indent :: s.indents, indent := column }
    if s.indents.length + 1 > 10000 then scanFail s.mark "exceeded max depth of 10000"
    insertToken (number.map (· - s.tokensTaken)) { kind, start := mark, stop := mark }

/-- Closes the block collections deeper than a column, each with a block
end just before where scanning started. -/
def unrollIndent (column : Int) (scanMark : Mark) : ScanM Unit := do
  let s ← get
  if s.flowLevel > 0 then return
  let blockMark := { scanMark with index := scanMark.index - 1 }
  for _ in [0:s.indents.length + 1] do
    let s ← get
    if s.indent > column then
      insertToken none { kind := .blockEnd, start := blockMark, stop := blockMark }
      match s.indents with
      | i :: rest => set { (← get) with indent := i, indents := rest }
      | [] => set { (← get) with indent := -1 }
    else break

/-- Whether the current line holds only blanks before the current column. -/
def atLineStart : ScanM Bool := do
  let s ← get
  return (List.range s.mark.column).all fun k => isBlank (s.input.getD (s.pos - 1 - k) endChar)

/-- Skips blanks, comments and line breaks up to the next token. A line
break in a block collection allows a simple key again. -/
def skipToToken : ScanM Unit := do
  for _ in [0:(← fuelOf)] do
    if (← curMark).column == 0 && (← ahead) == '\uFEFF' then skipChar
    for _ in [0:(← fuelOf)] do
      let s ← get
      let c := s.at 0
      if c == ' ' || ((s.flowLevel > 0 || !s.simpleKeyAllowed) && c == '\t') then skipChar else break
    if (← ahead) == '#' then
      let whole ← atLineStart
      let mut text := ""
      for _ in [0:(← fuelOf)] do
        if isBreakz (← ahead) then break
        text := text.push (← readChar)
      if whole then modify fun s => { s with comments := s.comments ++ [text] }
    if isBreak (← ahead) then
      skipLine
      if (← get).flowLevel == 0 then modify fun s => { s with simpleKeyAllowed := true }
    else break

/-- Whether a document indicator `---` or `...` starts here. -/
def atDocumentIndicator : ScanM Bool := do
  let s ← get
  return s.mark.column == 0 &&
    ((s.at 0 == '-' && s.at 1 == '-' && s.at 2 == '-') || (s.at 0 == '.' && s.at 1 == '.' && s.at 2 == '.')) &&
    isBlankz (s.at 3)

/-- Text and breaks gathered while reading a scalar. -/
structure Folding where
  text : String := ""
  leadingBreak : String := ""
  trailingBreaks : String := ""
  whitespaces : String := ""
  leadingBlanks : Bool := false

/-- The text after joining what was gathered before a new non-blank
character: a single line break folds to a space, more breaks are kept. -/
def Folding.join (f : Folding) : Folding :=
  if f.leadingBlanks then
    let text :=
      if f.leadingBreak.startsWith "\n" then
        if f.trailingBreaks.isEmpty then f.text.push ' ' else f.text ++ f.trailingBreaks
      else f.text ++ f.leadingBreak ++ f.trailingBreaks
    { f with text, leadingBreak := "", trailingBreaks := "", leadingBlanks := false }
  else { f with text := f.text ++ f.whitespaces, whitespaces := "" }

/-- Reads blanks and breaks inside a scalar; tabs in the indentation of a
plain scalar's continuation line are an error. -/
def readScalarBlanks (f : Folding) (plainIndent : Option Int) (start : Mark) : ScanM Folding := do
  let mut f := f
  for _ in [0:(← fuelOf)] do
    let c ← ahead
    if isBlank c then
      if let some indent := plainIndent then
        if f.leadingBlanks && ((← curMark).column : Int) < indent && c == '\t' then
          scanFail start "found a tab character that violates indentation"
      if !f.leadingBlanks then f := { f with whitespaces := f.whitespaces.push (← readChar) }
      else skipChar
    else if isBreak c then
      if !f.leadingBlanks then
        let b ← readBreak
        f := { f with whitespaces := "", leadingBreak := b, leadingBlanks := true }
      else
        let b ← readBreak
        f := { f with trailingBreaks := f.trailingBreaks ++ b }
    else break
  return f

/-- Reads a plain scalar. -/
def scanPlain : ScanM Token := do
  let start ← curMark
  let indent := (← get).indent + 1
  let mut stop := start
  let mut f : Folding := {}
  for _ in [0:(← fuelOf)] do
    if (← atDocumentIndicator) then break
    if (← ahead) == '#' then break
    for _ in [0:(← fuelOf)] do
      let s ← get
      let c := s.at 0
      if isBlankz c then break
      if (c == ':' && isBlankz (s.at 1)) ||
          (s.flowLevel > 0 && (c == ',' || c == '?' || c == '[' || c == ']' || c == '{' || c == '}')) then
        break
      if f.leadingBlanks || !f.whitespaces.isEmpty then f := f.join
      f := { f with text := f.text.push (← readChar) }
      stop ← curMark
    let c ← ahead
    if !(isBlank c || isBreak c) then break
    f ← readScalarBlanks f (some indent) start
    let s ← get
    if s.flowLevel == 0 && (s.mark.column : Int) < indent then break
  if f.leadingBlanks then modify fun s => { s with simpleKeyAllowed := true }
  return { kind := .scalar f.text .plain, start, stop }

/-- The value of a hexadecimal digit. -/
def hexDigitValue (c : Char) : Option Nat :=
  if '0' ≤ c && c ≤ '9' then some (c.toNat - '0'.toNat)
  else if 'a' ≤ c && c ≤ 'f' then some (c.toNat - 'a'.toNat + 10)
  else if 'A' ≤ c && c ≤ 'F' then some (c.toNat - 'A'.toNat + 10)
  else none

/-- The text of a simple escape in double quotes, the letter after the
backslash; `none` for an escape of a code of hexadecimal digits or an
unknown one. -/
def simpleEscape (c : Char) : Option String :=
  match c with
  | '0' => some "\x00" | 'a' => some "\x07" | 'b' => some "\x08" | 't' => some "\t" | '\t' => some "\t"
  | 'n' => some "\n" | 'v' => some "\x0b" | 'f' => some "\x0c" | 'r' => some "\r" | 'e' => some "\x1b"
  | ' ' => some " " | '"' => some "\"" | '\'' => some "'" | '\\' => some "\\" | 'N' => some "\x85"
  | '_' => some "\xa0" | 'L' => some "\u2028" | 'P' => some "\u2029" | '/' => some "/"
  | _ => none

/-- Reads a single- or double-quoted scalar. -/
def scanQuoted (single : Bool) : ScanM Token := do
  let start ← curMark
  skipChar
  let mut f : Folding := {}
  for _ in [0:(← fuelOf)] do
    if (← atDocumentIndicator) then scanFail start "found unexpected document indicator"
    if (← ahead) == endChar then scanFail start "found unexpected end of stream"
    let mut leadingBlanks := false
    for _ in [0:(← fuelOf)] do
      let s ← get
      let c := s.at 0
      if isBlankz c then break
      if single && c == '\'' && s.at 1 == '\'' then
        f := { f with text := f.text.push '\'' }
        skipChar; skipChar
      else if single && c == '\'' then break
      else if !single && c == '"' then break
      else if !single && c == '\\' && isBreak (s.at 1) then
        skipChar; skipLine
        leadingBlanks := true
        break
      else if !single && c == '\\' then
        let e := s.at 1
        let codeLength := if e == 'x' then 2 else if e == 'u' then 4 else if e == 'U' then 8 else 0
        match simpleEscape e with
        | some t => f := { f with text := f.text ++ t }
        | none => if codeLength == 0 then scanFail start "found unknown escape character"
        skipChar; skipChar
        if codeLength > 0 then
          let mut value := 0
          for k in [0:codeLength] do
            match hexDigitValue ((← get).at k) with
            | some d => value := value * 16 + d
            | none => scanFail start "did not find expected hexdecimal number"
          if (0xd800 ≤ value && value ≤ 0xdfff) || value > 0x10ffff then
            scanFail start "found invalid Unicode character escape code"
          f := { f with text := f.text.push (Char.ofNat value) }
          for _ in [0:codeLength] do skipChar
      else
        f := { f with text := f.text.push (← readChar) }
    let c ← ahead
    if (single && c == '\'') || (!single && c == '"') then break
    f ← readScalarBlanks { f with leadingBlanks } none start
    f := f.join
  skipChar
  let stop ← curMark
  return { kind := .scalar f.text (if single then .singleQuoted else .doubleQuoted), start, stop }

/-- Reads the indentation and empty lines before a line of a block scalar,
fixing the indentation from the first non-empty line if it is not given. -/
def blockScalarBreaks (indent : Nat) (breaks : String) (start : Mark) :
    ScanM (Nat × String × Mark) := do
  let mut stop ← curMark
  let mut breaks := breaks
  let mut maxIndent := 0
  for _ in [0:(← fuelOf)] do
    for _ in [0:(← fuelOf)] do
      let s ← get
      if (indent == 0 || s.mark.column < indent) && s.at 0 == ' ' then skipChar else break
    let s ← get
    if s.mark.column > maxIndent then maxIndent := s.mark.column
    if (indent == 0 || s.mark.column < indent) && s.at 0 == '\t' then
      scanFail start "found a tab character where an indentation space is expected"
    if !isBreak (s.at 0) then break
    breaks := breaks ++ (← readBreak)
    stop ← curMark
  let mut indent := indent
  if indent == 0 then
    let base := (← get).indent + 1
    indent := max maxIndent (max base 1).toNat
  return (indent, breaks, stop)

/-- Reads a literal or folded block scalar. -/
def scanBlockScalar (literal : Bool) : ScanM Token := do
  let start ← curMark
  skipChar
  let mut chomping : Int := 0
  let mut increment := 0
  let c ← ahead
  if c == '+' || c == '-' then
    chomping := if c == '+' then 1 else -1
    skipChar
    let d ← ahead
    if d.isDigit then
      if d == '0' then scanFail start "found an indentation indicator equal to 0"
      increment := d.toNat - '0'.toNat
      skipChar
  else if c.isDigit then
    if c == '0' then scanFail start "found an indentation indicator equal to 0"
    increment := c.toNat - '0'.toNat
    skipChar
    let d ← ahead
    if d == '+' || d == '-' then
      chomping := if d == '+' then 1 else -1
      skipChar
  for _ in [0:(← fuelOf)] do
    if isBlank (← ahead) then skipChar else break
  if (← ahead) == '#' then
    for _ in [0:(← fuelOf)] do
      if isBreakz (← ahead) then break
      skipChar
  if !isBreakz (← ahead) then scanFail start "did not find expected comment or line break"
  if isBreak (← ahead) then skipLine
  let mut indent := 0
  if increment > 0 then
    let cur := (← get).indent
    indent := if cur ≥ 0 then cur.toNat + increment else increment
  let (ind, trailing, stop0) ← blockScalarBreaks indent "" start
  indent := ind
  let mut trailingBreaks := trailing
  let mut stop := stop0
  let mut text := ""
  let mut leadingBreak := ""
  let mut leadingBlank := false
  for _ in [0:(← fuelOf)] do
    let s ← get
    if !(s.mark.column == indent && s.at 0 != endChar) then break
    let trailingBlank := isBlank (s.at 0)
    if !literal && !leadingBlank && !trailingBlank && leadingBreak.startsWith "\n" then
      if trailingBreaks.isEmpty then text := text.push ' '
    else text := text ++ leadingBreak
    leadingBreak := ""
    text := text ++ trailingBreaks
    trailingBreaks := ""
    leadingBlank := isBlank (s.at 0)
    for _ in [0:(← fuelOf)] do
      if isBreakz (← ahead) then break
      text := text.push (← readChar)
    if (← ahead) == endChar then
      leadingBreak := ""
    else
      leadingBreak ← readBreak
    let (ind, tb, st) ← blockScalarBreaks indent "" start
    indent := ind
    trailingBreaks := tb
    stop := st
  if chomping != -1 then text := text ++ leadingBreak
  if chomping == 1 then text := text ++ trailingBreaks
  return { kind := .scalar text (if literal then .literal else .folded), start, stop }

/-- Reads an anchor (`&name`) or an alias (`*name`). -/
def scanAnchor (isAlias : Bool) : ScanM Token := do
  let start ← curMark
  skipChar
  let mut name := ""
  for _ in [0:(← fuelOf)] do
    if isAnchorChar (← ahead) then name := name.push (← readChar) else break
  let stop ← curMark
  let c ← ahead
  if name.isEmpty || !(isBlankz c || c == '?' || c == ':' || c == ',' || c == ']' || c == '}' ||
      c == '%' || c == '@' || c == '`') then
    scanFail start "did not find expected alphabetic or numeric character"
  return { kind := if isAlias then .alias name else .anchor name, start, stop }

/-- The characters of tag URIs. -/
def isUriChar (c : Char) (verbatim : Bool) : Bool :=
  isAnchorChar c || ";/?:@&=+$.!~*'()%".contains c || (verbatim && (c == ',' || c == '[' || c == ']'))

/-- Reads the URI of a tag, after a head that was read as a handle. -/
def scanTagUri (verbatim : Bool) (head : String) (start : Mark) (inDirective : Bool) : ScanM String := do
  let mut s := (head.drop 1).toString
  let mut found : Bool := head.length > 0
  for _ in [0:(← fuelOf)] do
    let c ← ahead
    if !isUriChar c verbatim then break
    if c == '%' then
      skipChar
      match hexDigitValue (← ahead), hexDigitValue ((← get).at 1) with
      | some a, some b =>
        s := s.push (Char.ofNat (a * 16 + b))
        skipChar; skipChar
      | _, _ =>
        if inDirective then scanFail start "did not find URI escaped octet"
        else scanFail start "did not find URI escaped octet"
    else s := s.push (← readChar)
    found := true
  if !found then scanFail start "did not find expected tag URI"
  return s

/-- Reads a tag handle: `!`, `!!` or `!name!`. -/
def scanTagHandle (inDirective : Bool) (start : Mark) : ScanM String := do
  if (← ahead) != '!' then scanFail start "did not find expected '!'"
  let mut s := (← readChar).toString
  for _ in [0:(← fuelOf)] do
    if isAnchorChar (← ahead) then s := s.push (← readChar) else break
  if (← ahead) == '!' then s := s.push (← readChar)
  else if inDirective && s != "!" then scanFail start "did not find expected '!'"
  return s

/-- Reads a tag: `!<uri>`, `!handle!suffix`, `!suffix` or `!`. -/
def scanTag : ScanM Token := do
  let start ← curMark
  let mut handle := ""
  let mut suffix := ""
  if (← get).at 1 == '<' then
    skipChar; skipChar
    suffix ← scanTagUri true "" start false
    if (← ahead) != '>' then scanFail start "did not find the expected '>'"
    skipChar
  else
    let h ← scanTagHandle false start
    if h.startsWith "!" && h.length > 1 && h.endsWith "!" then
      handle := h
      suffix ← scanTagUri false "" start false
    else
      suffix ← scanTagUri false h start false
      handle := "!"
      if suffix.isEmpty then
        handle := ""
        suffix := "!"
  let c ← ahead
  if !isBlankz c then
    if (← get).flowLevel == 0 || c != ',' then
      scanFail start "did not find expected whitespace or line break"
  let stop ← curMark
  return { kind := .tag handle suffix, start, stop }

/-- Reads the number of a version directive. -/
def scanVersionNumber (start : Mark) : ScanM Nat := do
  let mut value := 0
  let mut length := 0
  for _ in [0:(← fuelOf)] do
    let c ← ahead
    if !c.isDigit then break
    length := length + 1
    if length > 9 then scanFail start "found extremely long version number"
    value := value * 10 + (c.toNat - '0'.toNat)
    skipChar
  if length == 0 then scanFail start "did not find expected version number"
  return value

/-- Reads a directive: `%YAML major.minor` or `%TAG handle prefix`. -/
def scanDirective : ScanM Token := do
  let start ← curMark
  skipChar
  let mut name := ""
  for _ in [0:(← fuelOf)] do
    if isAnchorChar (← ahead) then name := name.push (← readChar) else break
  if name.isEmpty then scanFail start "could not find expected directive name"
  if !isBlankz (← ahead) then scanFail start "found unexpected non-alphabetical character"
  let kind ← if name == "YAML" then do
      for _ in [0:(← fuelOf)] do
        if isBlank (← ahead) then skipChar else break
      let major ← scanVersionNumber start
      if (← ahead) != '.' then scanFail start "did not find expected digit or '.' character"
      skipChar
      let minor ← scanVersionNumber start
      pure (TokenKind.versionDirective major minor)
    else if name == "TAG" then do
      for _ in [0:(← fuelOf)] do
        if isBlank (← ahead) then skipChar else break
      let handle ← scanTagHandle true start
      if !isBlank (← ahead) then scanFail start "did not find expected whitespace"
      for _ in [0:(← fuelOf)] do
        if isBlank (← ahead) then skipChar else break
      let pfx ← scanTagUri true "" start true
      if !isBlankz (← ahead) then scanFail start "did not find expected whitespace or line break"
      pure (TokenKind.tagDirective handle pfx)
    else scanFail start "found unknown directive name"
  let stop ← curMark
  for _ in [0:(← fuelOf)] do
    if isBlank (← ahead) then skipChar else break
  if (← ahead) == '#' then
    for _ in [0:(← fuelOf)] do
      if isBreakz (← ahead) then break
      skipChar
  if !isBreakz (← ahead) then scanFail start "did not find expected comment or line break"
  if isBreak (← ahead) then skipLine
  return { kind, start, stop }

/-- Puts a scanned token at the end of the queue, with the comments waiting
for it. -/
def pushScanned (t : Token) : ScanM Unit := addToken t.kind t.start t.stop

/-- Reads a one-character indicator into a token. -/
def indicatorToken (kind : TokenKind) : ScanM Unit := do
  let start ← curMark
  skipChar
  addToken kind start (← curMark)

/-- Reads the `:` of a mapping value: for a simple key, the key token (and a
mapping start when it opens a block mapping) goes before the key. -/
def fetchValue : ScanM Unit := do
  let s ← get
  let k := s.simpleKeys.back?.getD {}
  if (← keyStillPossible k) then
    insertToken (some (k.tokenNumber - s.tokensTaken)) { kind := .key, start := k.mark, stop := k.mark }
    rollIndent k.mark.column (some k.tokenNumber) .blockMappingStart k.mark
    modifyLastKey fun k => { k with possible := false }
    modify fun s => { s with simpleKeyAllowed := false }
  else
    modifyLastKey fun k => { k with possible := false }
    let s ← get
    if s.flowLevel == 0 then
      if !s.simpleKeyAllowed then scanFail s.mark "mapping values are not allowed in this context"
      rollIndent s.mark.column none .blockMappingStart s.mark
    modify fun s => { s with simpleKeyAllowed := s.flowLevel == 0 }
  indicatorToken .value

/-- Reads the next token into the queue. -/
def fetchNextToken : ScanM Unit := do
  let s ← get
  if !s.started then
    set { s with indent := -1, simpleKeys := #[{}], simpleKeyAllowed := true, started := true }
    addToken .streamStart s.mark s.mark
    return
  let scanMark ← curMark
  skipToToken
  unrollIndent (← curMark).column scanMark
  let s ← get
  let c := s.at 0
  let next := s.at 1
  if c == endChar then
    if s.mark.column != 0 then
      set { s with mark := { s.mark with column := 0, line := s.mark.line + 1 } }
    unrollIndent (-1) (← curMark)
    removeSimpleKey
    modify fun s => { s with simpleKeyAllowed := false }
    let m ← curMark
    addToken .streamEnd m m
  else if s.mark.column == 0 && c == '%' then
    unrollIndent (-1) s.mark
    removeSimpleKey
    modify fun s => { s with simpleKeyAllowed := false }
    pushScanned (← scanDirective)
  else if (← atDocumentIndicator) then
    unrollIndent (-1) s.mark
    removeSimpleKey
    modify fun s => { s with simpleKeyAllowed := false }
    let start ← curMark
    skipChar; skipChar; skipChar
    addToken (if c == '-' then .documentStart else .documentEnd) start (← curMark)
  else if c == '[' || c == '{' then
    saveSimpleKey
    increaseFlowLevel
    modify fun s => { s with simpleKeyAllowed := true }
    indicatorToken (if c == '[' then .flowSequenceStart else .flowMappingStart)
  else if c == ']' || c == '}' then
    removeSimpleKey
    decreaseFlowLevel
    modify fun s => { s with simpleKeyAllowed := false }
    indicatorToken (if c == ']' then .flowSequenceEnd else .flowMappingEnd)
  else if c == ',' then
    removeSimpleKey
    modify fun s => { s with simpleKeyAllowed := true }
    indicatorToken .flowEntry
  else if c == '-' && isBlankz next then
    if s.flowLevel == 0 then
      if !s.simpleKeyAllowed then scanFail s.mark "block sequence entries are not allowed in this context"
      rollIndent s.mark.column none .blockSequenceStart s.mark
    removeSimpleKey
    modify fun s => { s with simpleKeyAllowed := true }
    indicatorToken .blockEntry
  else if c == '?' && (s.flowLevel > 0 || isBlankz next) then
    if s.flowLevel == 0 then
      if !s.simpleKeyAllowed then scanFail s.mark "mapping keys are not allowed in this context"
      rollIndent s.mark.column none .blockMappingStart s.mark
    removeSimpleKey
    modify fun s => { s with simpleKeyAllowed := s.flowLevel == 0 }
    indicatorToken .key
  else if c == ':' && (s.flowLevel > 0 || isBlankz next) then
    fetchValue
  else if c == '*' || c == '&' then
    saveSimpleKey
    modify fun s => { s with simpleKeyAllowed := false }
    pushScanned (← scanAnchor (c == '*'))
  else if c == '!' then
    saveSimpleKey
    modify fun s => { s with simpleKeyAllowed := false }
    pushScanned (← scanTag)
  else if (c == '|' || c == '>') && s.flowLevel == 0 then
    removeSimpleKey
    modify fun s => { s with simpleKeyAllowed := true }
    pushScanned (← scanBlockScalar (c == '|'))
  else if c == '\'' || c == '"' then
    saveSimpleKey
    modify fun s => { s with simpleKeyAllowed := false }
    pushScanned (← scanQuoted (c == '\''))
  else if !(isBlankz c || "-?:,[]\x7b\x7d#&*!|>'\"%@`".contains c) ||
      (c == '-' && !isBlank next) || (s.flowLevel == 0 && (c == '?' || c == ':') && !isBlankz next) then
    saveSimpleKey
    modify fun s => { s with simpleKeyAllowed := false }
    pushScanned (← scanPlain)
  else scanFail s.mark "found character that cannot start any token"

/-- Whether the next token may be handed out: three tokens are queued and no
possible simple key could still go before the first. -/
def tokenReady : ScanM Bool := do
  let s ← get
  if s.tokens.size < 3 then return false
  match s.simpleKeys.toList.find? (fun k => k.possible && k.tokenNumber == s.tokensTaken) with
  | none => return true
  | some k =>
    if (← keyStillPossible k) then return false
    let clear (k' : SimpleKey) : SimpleKey :=
      if k'.possible && k'.tokenNumber == k.tokenNumber then { k' with possible := false } else k'
    modify fun s => { s with simpleKeys := s.simpleKeys.map clear }
    return true

/-- The next token, reading more of the text as needed. -/
def peekToken : ScanM Token := do
  for _ in [0:(← fuelOf) * 4 + 8] do
    if (← tokenReady) then break
    fetchNextToken
  return (← get).tokens.getD 0 { kind := .streamEnd, start := (← curMark), stop := (← curMark) }

/-- Takes the next token. -/
def skipToken : ScanM Unit :=
  modify fun s => { s with tokens := s.tokens.extract 1 s.tokens.size, tokensTaken := s.tokensTaken + 1 }

end CriticalCss.Yaml

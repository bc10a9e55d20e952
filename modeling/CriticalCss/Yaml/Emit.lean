import CriticalCss.Yaml.Node
/-!
# Writing YAML

A node tree is written as a stream of events laid out in block style, with
an indentation step of four columns:

* a mapping's keys start at its indentation, and a block value nested in a
  key starts one step deeper; a sequence's `- ` entries sit one step deeper
  than the key that holds them, and a collection inside an entry starts
  right after the `- `;
* empty collections and collections marked as flow are written inline, as
  `[a, b]` and `{a: b}`;
* a key is written as a simple `key: ` unless it is longer than 128
  characters, spans lines or is a non-empty collection, when it is written
  after `? `;
* a scalar keeps its style when its text allows it: plain text must not
  look like an indicator, start or end with blanks, or hold line breaks,
  tabs or unprintable characters, or it is single-quoted; single quotes in
  turn give way to double quotes, which escape what they must; block
  scalars give way to double quotes inside flow collections and keys;
* plain and quoted scalars are never folded, however long the line;
* a block scalar's header line is ended by the first line break of its
  text when the text starts with one, so that break adds no empty line;
* the comment lines above a node are written above it at its indentation.

## Main definitions

* `encodeNode`: the text of a node as a document.
-/

namespace CriticalCss.Yaml

/-- The states of the writer. -/
inductive EmitState where
  | streamStart
  | firstDocumentStart
  | documentStart
  | documentContent
  | documentEnd
  | flowSequenceFirstItem
  | flowSequenceItem
  | flowMappingFirstKey
  | flowMappingKey
  | flowMappingSimpleValue
  | flowMappingValue
  | blockSequenceFirstItem
  | blockSequenceItem
  | blockMappingFirstKey
  | blockMappingKey
  | blockMappingSimpleValue
  | blockMappingValue
  | finished
  deriving Repr, Inhabited, DecidableEq

/-- What a scalar's text allows. -/
structure ScalarShape where
  multiline : Bool := false
  flowPlain : Bool := true
  blockPlain : Bool := true
  singleQuoted : Bool := true
  blockAllowed : Bool := true
  deriving Inhabited

/-- The state of the writer: the text so far, the states and indentations
to return to, where the writer stands, and what it knows of the event at
hand. -/
structure Emitter where
  out : String := ""
  state : EmitState := .streamStart
  states : List EmitState := []
  indent : Int := -1
  indents : List Int := []
  flowLevel : Nat := 0
  rootContext : Bool := false
  sequenceContext : Bool := false
  mappingContext : Bool := false
  simpleKeyContext : Bool := false
  column : Nat := 0
  whitespace : Bool := true
  indention : Bool := true
  footIndent : Int := -1
  headComment : List String := []
  anchor : Option (String × Bool) := none
  tagHandle : String := ""
  tagSuffix : String := ""
  scalarValue : String := ""
  shape : ScalarShape := {}
  scalarStyle : ScalarStyle := .plain
  deriving Inhabited

/-- Writing. -/
abbrev EmitM := StateM Emitter

/-- The indentation step. -/
def bestIndent : Nat := 4

/-- The column after which lines fold: none is ever reached, so lines are
not folded. -/
def bestWidth : Nat := 2147483647

/-- Writes a character that is not a line break. -/
def putChar (c : Char) : EmitM Unit :=
  modify fun e => { e with out := e.out.push c, column := e.column + 1 }

/-- Writes text without line breaks. -/
def putText (s : String) : EmitM Unit :=
  modify fun e => { e with out := e.out ++ s, column := e.column + s.length }

/-- Ends the line. -/
def putBreak : EmitM Unit :=
  modify fun e => { e with out := e.out.push '\n', column := 0, indention := true }

/-- Writes a line break of a value: a line feed ends the line, other breaks
are written as they are and also end it. -/
def writeBreakChar (c : Char) : EmitM Unit :=
  if c == '\n' then putBreak
  else modify fun e => { e with out := e.out.push c, column := 0, indention := true }

/-- Moves to the indentation on a new line, unless the writer already stands
at it. -/
def writeIndent : EmitM Unit := do
  let e ← get
  let indent : Int := if e.indent < 0 then 0 else e.indent
  if !e.indention || (e.column : Int) > indent || ((e.column : Int) == indent && !e.whitespace) then putBreak
  if (← get).footIndent == indent then putBreak
  let e ← get
  let pad := (indent - e.column).toNat
  putText (String.ofList (List.replicate pad ' '))
  modify fun e => { e with whitespace := true, footIndent := -1 }

/-- Writes an indicator, after a space when one is needed. -/
def writeIndicator (s : String) (needWhitespace isWhitespace isIndention : Bool) : EmitM Unit := do
  if needWhitespace && !(← get).whitespace then putChar ' '
  putText s
  modify fun e => { e with whitespace := isWhitespace, indention := e.indention && isIndention }

/-- Writes comment lines, each starting with `#`. -/
def writeComment (lines : List String) : EmitM Unit := do
  let mut first := true
  for line in lines do
    if !first then writeIndent
    first := false
    if !line.startsWith "#" then putText "# "
    putText line
    modify fun e => { e with indention := false }
    putBreak
  modify fun e => { e with whitespace := true }

/-- Writes the comment lines above the event at hand. -/
def processHeadComment : EmitM Unit := do
  let e ← get
  if e.headComment.isEmpty then return
  writeIndent
  writeComment e.headComment
  modify fun e => { e with headComment := [] }

/-- Pushes the indentation and moves one step deeper: two columns inside a
sequence entry, otherwise to the next multiple of the step; the first level
is at column zero, or one step in for flow collections. -/
def increaseIndent (flow indentless : Bool) : EmitM Unit := do
  let e ← get
  let indents := e.indent :: e.indents
  if e.indent < 0 then
    set { e with indents, indent := if flow then (bestIndent : Int) else 0 }
  else if !indentless then
    if e.states.head? == some .blockSequenceItem then
      set { e with indents, indent := e.indent + 2 }
    else
      set { e with indents, indent := bestIndent * ((e.indent + bestIndent) / bestIndent) }
  else set { e with indents }

/-- Returns to the pushed indentation. -/
def popIndent : EmitM Unit :=
  modify fun e => match e.indents with
    | i :: rest => { e with indent := i, indents := rest }
    | [] => e

/-- Returns to the pushed state. -/
def returnState : EmitM Unit :=
  modify fun e => match e.states with
    | s :: rest => { e with state := s, states := rest }
    | [] => { e with state := .finished }

/-- Pushes a state to return to. -/
def saveState (s : EmitState) : EmitM Unit := modify fun e => { e with states := s :: e.states }

/-- Line breaks inside values. -/
def isValueBreak (c : Char) : Bool :=
  c == '\r' || c == '\n' || c == '\x85' || c == '\u2028' || c == '\u2029'

/-- Characters written as they are. -/
def isPrintable (c : Char) : Bool :=
  let n := c.toNat
  n == 0x0a || (0x20 ≤ n && n ≤ 0x7e) || (0xa0 ≤ n && n ≤ 0xd7ff) ||
    (0xe000 ≤ n && n ≤ 0xfffd && n != 0xfeff)

/-- What a scalar's text allows. -/
def analyzeScalar (value : String) : ScalarShape := Id.run do
  let cs := value.toList
  if cs.isEmpty then
    return { multiline := false, flowPlain := false, blockPlain := true, singleQuoted := true,
             blockAllowed := false }
  let mut blockIndicators := false
  let mut flowIndicators := false
  let mut lineBreaks := false
  let mut special := false
  let mut tabs := false
  let mut leadingSpace := false
  let mut leadingBreak := false
  let mut trailingSpace := false
  let mut trailingBreak := false
  let mut breakSpace := false
  let mut spaceBreak := false
  let mut precededByWhitespace := true
  let mut previousSpace := false
  let mut previousBreak := false
  if value.startsWith "---" || value.startsWith "..." then
    blockIndicators := true
    flowIndicators := true
  let arr := cs.toArray
  let n := arr.size
  for i in [0:n] do
    let c := arr[i]!
    let next := arr.getD (i + 1) ' '
    let followedByWhitespace := i + 1 ≥ n || next == ' ' || next == '\t' || isValueBreak next
    if i == 0 then
      if "#,[]\x7b\x7d&*!|>'\"%@`".contains c then
        flowIndicators := true
        blockIndicators := true
      else if c == '?' || c == ':' then
        flowIndicators := true
        if followedByWhitespace then blockIndicators := true
      else if c == '-' then
        if followedByWhitespace then
          flowIndicators := true
          blockIndicators := true
    else
      if ",?[]\x7b\x7d".contains c then flowIndicators := true
      else if c == ':' then
        flowIndicators := true
        if followedByWhitespace then blockIndicators := true
      else if c == '#' then
        if precededByWhitespace then
          flowIndicators := true
          blockIndicators := true
    if c == '\t' then tabs := true
    else if !isPrintable c then special := true
    if c == ' ' then
      if i == 0 then leadingSpace := true
      if i + 1 == n then trailingSpace := true
      if previousBreak then breakSpace := true
      previousSpace := true
      previousBreak := false
    else if isValueBreak c then
      lineBreaks := true
      if i == 0 then leadingBreak := true
      if i + 1 == n then trailingBreak := true
      if previousSpace then spaceBreak := true
      previousSpace := false
      previousBreak := true
    else
      previousSpace := false
      previousBreak := false
    precededByWhitespace := c == ' ' || c == '\t' || isValueBreak c || c == '\x00'
  let mut s : ScalarShape := { multiline := lineBreaks }
  if leadingSpace || leadingBreak || trailingSpace || trailingBreak then
    s := { s with flowPlain := false, blockPlain := false }
  if trailingSpace then s := { s with blockAllowed := false }
  if breakSpace then s := { s with flowPlain := false, blockPlain := false, singleQuoted := false }
  if spaceBreak || tabs || special then
    s := { s with flowPlain := false, blockPlain := false, singleQuoted := false }
  if spaceBreak || special then s := { s with blockAllowed := false }
  if lineBreaks then s := { s with flowPlain := false, blockPlain := false }
  if flowIndicators then s := { s with flowPlain := false }
  if blockIndicators then s := { s with blockPlain := false }
  return s

/-- The handle and suffix of a tag, by the default tag handles. -/
def analyzeTag (tag : String) : String × String :=
  if tag.startsWith "!" then ("!", (tag.drop 1).toString)
  else if tag.startsWith longTagPrefix then ("!!", (tag.drop longTagPrefix.length).toString)
  else ("", tag)

/-- Takes in what the writer needs to know of an event. -/
def analyzeEvent (ev : Event) : EmitM Unit := do
  modify fun e => { e with anchor := none, tagHandle := "", tagSuffix := "", scalarValue := "" }
  if !ev.headComment.isEmpty then modify fun e => { e with headComment := ev.headComment }
  let setTag (tag : String) : EmitM Unit :=
    let (h, s) := analyzeTag tag
    modify fun e => { e with tagHandle := h, tagSuffix := s }
  match ev.kind with
  | .alias name => modify fun e => { e with anchor := some (name, true) }
  | .scalar anchor tag value plainImplicit quotedImplicit _ =>
    if !anchor.isEmpty then modify fun e => { e with anchor := some (anchor, false) }
    if !tag.isEmpty && !plainImplicit && !quotedImplicit then setTag tag
    modify fun e => { e with scalarValue := value, shape := analyzeScalar value }
  | .sequenceStart anchor tag isImplicit _ | .mappingStart anchor tag isImplicit _ =>
    if !anchor.isEmpty then modify fun e => { e with anchor := some (anchor, false) }
    if !tag.isEmpty && !isImplicit then setTag tag
  | _ => pure ()

/-- Writes the anchor or alias of the event at hand. -/
def processAnchor : EmitM Unit := do
  match (← get).anchor with
  | none => pure ()
  | some (name, isAlias) =>
    writeIndicator (if isAlias then "*" else "&") true false false
    putText name
    modify fun e => { e with whitespace := false, indention := false }

/-- Characters written as they are in tags. -/
def isTagChar (c : Char) : Bool :=
  c.isAlphanum || "-;/?:@&=+$,_.~*'()[]".contains c

/-- Writes a tag's suffix, escaping other characters by their bytes. -/
def writeTagContent (s : String) : EmitM Unit := do
  for c in s.toList do
    if isTagChar c then putChar c
    else
      for b in (String.singleton c).toUTF8.toList do
        let hex := Nat.toDigits 16 b.toNat |>.map Char.toUpper
        putText ("%" ++ (if hex.length < 2 then "0" else "") ++ String.ofList hex)
  modify fun e => { e with whitespace := false, indention := false }

/-- Writes the tag of the event at hand. -/
def processTag : EmitM Unit := do
  let e ← get
  if e.tagHandle.isEmpty && e.tagSuffix.isEmpty then return
  if !e.tagHandle.isEmpty then
    if !e.whitespace then putChar ' '
    putText e.tagHandle
    modify fun e => { e with whitespace := false, indention := false }
    if !e.tagSuffix.isEmpty then writeTagContent e.tagSuffix
  else
    writeIndicator "!<" true false false
    writeTagContent e.tagSuffix
    writeIndicator ">" false false false

/-- Chooses the style a scalar is written in. -/
def selectScalarStyle (ev : Event) : EmitM Unit := do
  let e ← get
  match ev.kind with
  | .scalar _ _ _ plainImplicit quotedImplicit requested =>
    let noTag := e.tagHandle.isEmpty && e.tagSuffix.isEmpty
    let mut style := requested
    if e.simpleKeyContext && e.shape.multiline then style := .doubleQuoted
    if style == .plain then
      if (e.flowLevel > 0 && !e.shape.flowPlain) || (e.flowLevel == 0 && !e.shape.blockPlain) then
        style := .singleQuoted
      if e.scalarValue.isEmpty && (e.flowLevel > 0 || e.simpleKeyContext) then style := .singleQuoted
      if noTag && !plainImplicit then style := .singleQuoted
    if style == .singleQuoted && !e.shape.singleQuoted then style := .doubleQuoted
    if (style == .literal || style == .folded) &&
        (!e.shape.blockAllowed || e.flowLevel > 0 || e.simpleKeyContext) then
      style := .doubleQuoted
    if noTag && !quotedImplicit && style != .plain then modify fun e => { e with tagHandle := "!" }
    modify fun e => { e with scalarStyle := style }
  | _ => pure ()

/-- Writes a plain scalar. -/
def writePlain (value : String) (allowBreaks : Bool) : EmitM Unit := do
  if !value.isEmpty && !(← get).whitespace then putChar ' '
  let arr := value.toList.toArray
  let mut spaces := false
  let mut breaks := false
  for i in [0:arr.size] do
    let c := arr[i]!
    if c == ' ' then
      if allowBreaks && !spaces && (← get).column > bestWidth && arr.getD (i + 1) '\x00' != ' ' then
        writeIndent
      else putChar c
      spaces := true
    else if isValueBreak c then
      if !breaks && c == '\n' then putBreak
      writeBreakChar c
      breaks := true
    else
      if breaks then writeIndent
      putChar c
      modify fun e => { e with indention := false }
      spaces := false
      breaks := false
  modify fun e => { e with whitespace := false, indention := false }

/-- Writes a single-quoted scalar, doubling its quotes. -/
def writeSingleQuoted (value : String) (allowBreaks : Bool) : EmitM Unit := do
  writeIndicator "'" true false false
  let arr := value.toList.toArray
  let mut spaces := false
  let mut breaks := false
  for i in [0:arr.size] do
    let c := arr[i]!
    if c == ' ' then
      if allowBreaks && !spaces && (← get).column > bestWidth && i > 0 && i + 1 < arr.size &&
          arr.getD (i + 1) '\x00' != ' ' then
        writeIndent
      else putChar c
      spaces := true
    else if isValueBreak c then
      if !breaks && c == '\n' then putBreak
      writeBreakChar c
      breaks := true
    else
      if breaks then writeIndent
      if c == '\'' then putChar '\''
      putChar c
      modify fun e => { e with indention := false }
      spaces := false
      breaks := false
  writeIndicator "'" false false false
  modify fun e => { e with whitespace := false, indention := false }

/-- The escape of a character in a double-quoted scalar. -/
def escapeOf (c : Char) : String :=
  match c.toNat with
  | 0x00 => "0"
  | 0x07 => "a"
  | 0x08 => "b"
  | 0x09 => "t"
  | 0x0a => "n"
  | 0x0b => "v"
  | 0x0c => "f"
  | 0x0d => "r"
  | 0x1b => "e"
  | 0x22 => "\""
  | 0x5c => "\\"
  | 0x85 => "N"
  | 0xa0 => "_"
  | 0x2028 => "L"
  | 0x2029 => "P"
  | v =>
    let (lead, width) := if v ≤ 0xff then ("x", 2) else if v ≤ 0xffff then ("u", 4) else ("U", 8)
    let hex := (Nat.toDigits 16 v).map Char.toUpper
    lead ++ String.ofList (List.replicate (width - hex.length) '0' ++ hex)

/-- Writes a double-quoted scalar, escaping what is not printable, line
breaks, the byte order mark, quotes and backslashes. -/
def writeDoubleQuoted (value : String) (allowBreaks : Bool) : EmitM Unit := do
  writeIndicator "\"" true false false
  let arr := value.toList.toArray
  let mut spaces := false
  for i in [0:arr.size] do
    let c := arr[i]!
    if !isPrintable c || c == '\uFEFF' || isValueBreak c || c == '"' || c == '\\' then
      putChar '\\'
      putText (escapeOf c)
      spaces := false
    else if c == ' ' then
      if allowBreaks && !spaces && (← get).column > bestWidth && i > 0 && i + 1 < arr.size then
        writeIndent
        if arr.getD (i + 1) '\x00' == ' ' then putChar '\\'
      else putChar c
      spaces := true
    else
      putChar c
      spaces := false
  writeIndicator "\"" false false false
  modify fun e => { e with whitespace := false, indention := false }

/-- Writes the indentation and chomping hints of a block scalar. -/
def writeBlockHints (value : String) : EmitM Unit := do
  let cs := value.toList
  match cs.head? with
  | some c => if c == ' ' || isValueBreak c then writeIndicator (toString bestIndent) false false false
  | none => pure ()
  let chomp :=
    match cs.reverse with
    | [] => "-"
    | last :: before =>
      if !isValueBreak last then "-"
      else match before with
        | [] => "+"
        | prev :: _ => if isValueBreak prev then "+" else ""
  if !chomp.isEmpty then writeIndicator chomp false false false

/-- Writes a literal block scalar. -/
def writeLiteral (value : String) : EmitM Unit := do
  writeIndicator "|" true false false
  writeBlockHints value
  modify fun e => { e with whitespace := true }
  let mut breaks := true
  for c in value.toList do
    if isValueBreak c then
      writeBreakChar c
      breaks := true
    else
      if breaks then writeIndent
      putChar c
      modify fun e => { e with indention := false }
      breaks := false

/-- Writes a folded block scalar. -/
def writeFolded (value : String) : EmitM Unit := do
  writeIndicator ">" true false false
  writeBlockHints value
  modify fun e => { e with whitespace := true }
  let arr := value.toList.toArray
  let leadBreaks := (arr.toList.takeWhile isValueBreak).length
  let afterLead := arr.getD leadBreaks '\x00'
  let mut breaks := true
  let mut leadingSpaces := true
  for i in [0:arr.size] do
    let c := arr[i]!
    if isValueBreak c then
      if !breaks && !leadingSpaces && c == '\n' then
        if !(afterLead == ' ' || afterLead == '\t' || isValueBreak afterLead || afterLead == '\x00') then
          putBreak
      writeBreakChar c
      breaks := true
    else
      if breaks then
        writeIndent
        leadingSpaces := c == ' ' || c == '\t'
      if !breaks && c == ' ' && arr.getD (i + 1) '\x00' != ' ' && (← get).column > bestWidth then
        writeIndent
      else putChar c
      modify fun e => { e with indention := false }
      breaks := false

/-- Writes the scalar at hand in its chosen style. -/
def processScalar : EmitM Unit := do
  let e ← get
  match e.scalarStyle with
  | .plain => writePlain e.scalarValue (!e.simpleKeyContext)
  | .singleQuoted => writeSingleQuoted e.scalarValue (!e.simpleKeyContext)
  | .doubleQuoted => writeDoubleQuoted e.scalarValue (!e.simpleKeyContext)
  | .literal => writeLiteral e.scalarValue
  | .folded => writeFolded e.scalarValue

/-- Whether the event at `i` starts an empty sequence. -/
def emptySequenceAt (evs : Array Event) (i : Nat) : Bool :=
  match (evs.getD i default).kind, (evs.getD (i + 1) default).kind with
  | .sequenceStart .., .sequenceEnd => true
  | _, _ => false

/-- Whether the event at `i` starts an empty mapping. -/
def emptyMappingAt (evs : Array Event) (i : Nat) : Bool :=
  match (evs.getD i default).kind, (evs.getD (i + 1) default).kind with
  | .mappingStart .., .mappingEnd => true
  | _, _ => false

/-- Whether the node starting at event `i` can be written as a simple key. -/
def checkSimpleKey (evs : Array Event) (i : Nat) : EmitM Bool := do
  let e ← get
  let anchorLength := match e.anchor with | some (a, _) => a.utf8ByteSize | none => 0
  let tagLength := e.tagHandle.utf8ByteSize + e.tagSuffix.utf8ByteSize
  match (evs.getD i default).kind with
  | .alias _ => return anchorLength ≤ 128
  | .scalar .. =>
    if e.shape.multiline then return false
    return anchorLength + tagLength + e.scalarValue.utf8ByteSize ≤ 128
  | .sequenceStart .. => return emptySequenceAt evs i && anchorLength + tagLength ≤ 128
  | .mappingStart .. => return emptyMappingAt evs i && anchorLength + tagLength ≤ 128
  | _ => return false

/-- Writes the start of a node: an alias, a scalar, or the start of a
collection, choosing flow or block layout. -/
def emitNode (evs : Array Event) (i : Nat) (root sequence mapping simpleKey : Bool) : EmitM Unit := do
  modify fun e => { e with rootContext := root, sequenceContext := sequence, mappingContext := mapping,
                           simpleKeyContext := simpleKey }
  let ev := evs.getD i default
  match ev.kind with
  | .alias _ =>
    processAnchor
    if (← get).simpleKeyContext then putChar ' '
    returnState
  | .scalar .. =>
    selectScalarStyle ev
    processAnchor
    processTag
    increaseIndent true false
    processScalar
    popIndent
    returnState
  | .sequenceStart _ _ _ flow =>
    processAnchor
    processTag
    if (← get).flowLevel > 0 || flow || emptySequenceAt evs i then
      modify fun e => { e with state := .flowSequenceFirstItem }
    else modify fun e => { e with state := .blockSequenceFirstItem }
  | .mappingStart _ _ _ flow =>
    processAnchor
    processTag
    if (← get).flowLevel > 0 || flow || emptyMappingAt evs i then
      modify fun e => { e with state := .flowMappingFirstKey }
    else modify fun e => { e with state := .blockMappingFirstKey }
  | _ => pure ()

/-- One step of the writer on the event at `i`. -/
def emitStep (evs : Array Event) (i : Nat) : EmitM Unit := do
  let ev := evs.getD i default
  match (← get).state with
  | .streamStart =>
    modify fun e => { e with indent := -1, column := 0, whitespace := true, indention := true,
                             footIndent := -1, state := .firstDocumentStart }
  | .firstDocumentStart | .documentStart =>
    match ev.kind with
    | .documentStart isImplicit =>
      if !isImplicit || (← get).state == .documentStart then
        writeIndent
        writeIndicator "---" true false false
        writeIndent
      processHeadComment
      modify fun e => { e with state := .documentContent }
    | _ => modify fun e => { e with state := .finished }
  | .documentContent =>
    saveState .documentEnd
    processHeadComment
    emitNode evs i true false false false
  | .documentEnd =>
    modify fun e => { e with footIndent := 0 }
    modify fun e => { e with footIndent := -1 }
    writeIndent
    match ev.kind with
    | .documentEnd isImplicit =>
      if !isImplicit then
        writeIndicator "..." true false false
        writeIndent
    | _ => pure ()
    modify fun e => { e with state := .documentStart }
  | .flowSequenceFirstItem | .flowSequenceItem =>
    let first := (← get).state == .flowSequenceFirstItem
    if first then
      writeIndicator "[" true true false
      increaseIndent true false
      modify fun e => { e with flowLevel := e.flowLevel + 1 }
    match ev.kind with
    | .sequenceEnd =>
      modify fun e => { e with flowLevel := e.flowLevel - 1 }
      popIndent
      if (← get).column == 0 then writeIndent
      writeIndicator "]" false false false
      returnState
    | _ =>
      if !first then writeIndicator "," false false false
      processHeadComment
      if (← get).column == 0 then writeIndent
      if (← get).column > bestWidth then writeIndent
      saveState .flowSequenceItem
      emitNode evs i false true false false
  | .flowMappingFirstKey | .flowMappingKey =>
    let first := (← get).state == .flowMappingFirstKey
    if first then
      writeIndicator "\x7b" true true false
      increaseIndent true false
      modify fun e => { e with flowLevel := e.flowLevel + 1 }
    match ev.kind with
    | .mappingEnd =>
      processHeadComment
      modify fun e => { e with flowLevel := e.flowLevel - 1 }
      popIndent
      writeIndicator "\x7d" false false false
      returnState
    | _ =>
      if !first then writeIndicator "," false false false
      processHeadComment
      if (← get).column == 0 then writeIndent
      if (← get).column > bestWidth then writeIndent
      if ← checkSimpleKey evs i then
        saveState .flowMappingSimpleValue
        emitNode evs i false false true true
      else
        writeIndicator "?" true false false
        saveState .flowMappingValue
        emitNode evs i false false true false
  | .flowMappingSimpleValue =>
    writeIndicator ":" false false false
    saveState .flowMappingKey
    emitNode evs i false false true false
  | .flowMappingValue =>
    if (← get).column > bestWidth then writeIndent
    writeIndicator ":" true false false
    saveState .flowMappingKey
    emitNode evs i false false true false
  | .blockSequenceFirstItem | .blockSequenceItem =>
    if (← get).state == .blockSequenceFirstItem then increaseIndent false false
    match ev.kind with
    | .sequenceEnd =>
      popIndent
      returnState
    | _ =>
      processHeadComment
      writeIndent
      writeIndicator "-" true false true
      saveState .blockSequenceItem
      emitNode evs i false true false false
  | .blockMappingFirstKey | .blockMappingKey =>
    if (← get).state == .blockMappingFirstKey then increaseIndent false false
    processHeadComment
    match ev.kind with
    | .mappingEnd =>
      popIndent
      returnState
    | _ =>
      writeIndent
      if ← checkSimpleKey evs i then
        saveState .blockMappingSimpleValue
        emitNode evs i false false true true
      else
        writeIndicator "?" true false true
        saveState .blockMappingValue
        emitNode evs i false false true false
  | .blockMappingSimpleValue =>
    writeIndicator ":" false false false
    saveState .blockMappingKey
    emitNode evs i false false true false
  | .blockMappingValue =>
    writeIndent
    writeIndicator ":" true false true
    saveState .blockMappingKey
    emitNode evs i false false true false
  | .finished => pure ()

/-- Writes a stream of events. -/
def emitEvents (evs : Array Event) : String :=
  let run : EmitM Unit := do
    for i in [0:evs.size] do
      analyzeEvent (evs.getD i default)
      emitStep evs i
  (run.run {}).2.out

/-- An event with no place in a text. -/
def outEvent (kind : EventKind) (headComment : List String := []) : Event :=
  { kind, start := {}, stop := {}, headComment }

/-- The events of a node; an explicit tag is left out when the node's text
or kind implies it, and a string that would read as something else is
double-quoted. -/
def nodeEvents : Node → List Event
  | n@{ kind := .document, content, .. } =>
    [outEvent (.documentStart true) n.headComment] ++ (content.map nodeEvents).flatten ++
      [outEvent (.documentEnd true)]
  | n@{ kind := .sequence, content, .. } =>
    let tag := if n.tag != "" && !n.tagged && n.tag == seqTag then "" else n.tag
    [outEvent (.sequenceStart n.anchor (longTag tag) (tag == "") n.flow) n.headComment] ++
      (content.map nodeEvents).flatten ++ [outEvent .sequenceEnd]
  | n@{ kind := .mapping, content, .. } =>
    let tag := if n.tag != "" && !n.tagged && n.tag == mapTag then "" else n.tag
    [outEvent (.mappingStart n.anchor (longTag tag) (tag == "") n.flow) n.headComment] ++
      (content.map nodeEvents).flatten ++ [outEvent .mappingEnd]
  | n@{ kind := .alias, .. } => [outEvent (.alias n.value) n.headComment]
  | n@{ kind := .scalar, .. } =>
    let stag := shortTag n.tag
    let quoted := n.style != .plain
    let (tag, forceQuoting) :=
      if n.tag != "" && !n.tagged then
        if stag == strTag && quoted then ("", false)
        else if resolveTag n.value == stag then ("", false)
        else if stag == strTag then ("", true)
        else (n.tag, false)
      else (n.tag, false)
    let style :=
      if quoted then n.style
      else if n.value.contains '\n' then .literal
      else if forceQuoting then .doubleQuoted
      else .plain
    [outEvent (.scalar n.anchor (longTag tag) n.value (tag == "") (tag == "") style) n.headComment]

/-- The text of a node as a document. -/
def encodeNode (n : Node) : String :=
  let body := match n.kind with
    | .document => nodeEvents n
    | _ => [outEvent (.documentStart true)] ++ nodeEvents n ++ [outEvent (.documentEnd true)]
  emitEvents (#[outEvent .streamStart] ++ body.toArray ++ #[outEvent .streamEnd])

end CriticalCss.Yaml

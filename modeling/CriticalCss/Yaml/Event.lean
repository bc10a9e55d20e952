import CriticalCss.Yaml.Scan
/-!
# YAML events

The parser turns tokens into events: the start and end of the stream, of
documents, of sequences and of mappings, scalars and aliases. It follows the
grammar of block and flow collections with a stack of states:

* a document holds one node, or an empty scalar when it has none;
* a block mapping holds keys and values, either of which may be empty; a
  value may be an indentless sequence, whose `-` entries sit at the key's
  column;
* a block sequence holds `-` entries;
* flow collections hold entries separated by `,`; a `key: value` pair in a
  flow sequence is a mapping of one pair;
* a node may carry an anchor and a tag; a tag handle must be declared.

## Main definitions

* `Event`: the events.
* `Parser`: the parser state, with `Parser.ofText`.
* `nextEvent`: the next event.
-/

namespace CriticalCss.Yaml

/-- The kinds of events. -/
inductive EventKind where
  | streamStart
  | streamEnd
  | documentStart (isImplicit : Bool)
  | documentEnd (isImplicit : Bool)
  | alias (anchor : String)
  | scalar (anchor tag value : String) (plainImplicit quotedImplicit : Bool) (style : ScalarStyle)
  | sequenceStart (anchor tag : String) (isImplicit flow : Bool)
  | sequenceEnd
  | mappingStart (anchor tag : String) (isImplicit flow : Bool)
  | mappingEnd
  deriving Repr, Inhabited

/-- An event with where it starts and ends, and the comment lines above it. -/
structure Event where
  kind : EventKind
  start : Mark
  stop : Mark
  headComment : List String := []
  deriving Repr, Inhabited

/-- The states of the parser. -/
inductive ParseState where
  | streamStart
  | implicitDocumentStart
  | documentStart
  | documentContent
  | documentEnd
  | blockNode
  | blockNodeOrIndentlessSequence
  | flowNode
  | blockSequenceFirstEntry
  | blockSequenceEntry
  | indentlessSequenceEntry
  | blockMappingFirstKey
  | blockMappingKey
  | blockMappingValue
  | flowSequenceFirstEntry
  | flowSequenceEntry
  | flowSequenceEntryMappingKey
  | flowSequenceEntryMappingValue
  | flowSequenceEntryMappingEnd
  | flowMappingFirstKey
  | flowMappingKey
  | flowMappingValue
  | flowMappingEmptyValue
  | finished
  deriving Repr, Inhabited, DecidableEq

/-- The state of the parser. -/
structure Parser where
  scanner : Scanner
  state : ParseState := .streamStart
  states : List ParseState := []
  marks : List Mark := []
  tagDirectives : List (String × String) := []
  deriving Inhabited

/-- The parser at the start of a text. -/
def Parser.ofText (text : String) : Parser := { scanner := Scanner.ofText text }

/-- Parsing, which may fail. -/
abbrev ParseM := StateT Parser (Except SyntaxError)

/-- Runs a scanner step inside the parser. -/
def liftScan {α : Type} (m : ScanM α) : ParseM α := do
  let p ← get
  match m.run p.scanner with
  | .ok (a, s) => set { p with scanner := s }; return a
  | .error e => throw e

/-- The next token. -/
def peekTok : ParseM Token := liftScan peekToken

/-- Takes the next token. -/
def skipTok : ParseM Unit := liftScan skipToken

/-- Fails with a problem of structure at a mark, in a context that started at
another. -/
def parseFail {α : Type} (contextMark : Mark) (problem : String) (problemMark : Mark) : ParseM α :=
  throw { inTokens := false, contextMark, problem, problemMark }

/-- Pops the state to return to. -/
def popState : ParseM Unit :=
  modify fun p => match p.states with
    | s :: rest => { p with state := s, states := rest }
    | [] => { p with state := .finished }

/-- Pushes a state to return to. -/
def pushState (s : ParseState) : ParseM Unit := modify fun p => { p with states := s :: p.states }

/-- Pops the mark of the innermost collection. -/
def popMark : ParseM Mark := do
  let p ← get
  match p.marks with
  | m :: rest => set { p with marks := rest }; return m
  | [] => return {}

/-- Pushes the mark of a collection. -/
def pushMark (m : Mark) : ParseM Unit := modify fun p => { p with marks := m :: p.marks }

/-- Sets the state. -/
def goTo (s : ParseState) : ParseM Unit := modify fun p => { p with state := s }

/-- An empty plain scalar at a mark. -/
def emptyScalar (m : Mark) : Event := { kind := .scalar "" "" "" true false .plain, start := m, stop := m }

/-- The default tag handles. -/
def defaultTagDirectives : List (String × String) := [("!", "!"), ("!!", "tag:yaml.org,2002:")]

/-- Reads the directives before a document. -/
def processDirectives : ParseM Unit := do
  let mut seenVersion := false
  let mut tags : List (String × String) := []
  for _ in [0:((← get).scanner.input.size + 2)] do
    let t ← peekTok
    match t.kind with
    | .versionDirective major minor =>
      if seenVersion then parseFail {} "found duplicate %YAML directive" t.start
      if major != 1 || (minor != 1 && minor != 2) then parseFail {} "found incompatible YAML document" t.start
      seenVersion := true
      skipTok
    | .tagDirective handle pfx =>
      if tags.any (·.1 == handle) then parseFail {} "found duplicate %TAG directive" t.start
      tags := tags ++ [(handle, pfx)]
      skipTok
    | _ => break
  let all := tags ++ defaultTagDirectives.filter fun (h, _) => !tags.any (·.1 == h)
  modify fun p => { p with tagDirectives := all }

/-- Parses a node: an alias, or a scalar or collection with an optional
anchor and tag. -/
def parseNode (block indentlessSequence : Bool) : ParseM Event := do
  let t ← peekTok
  if let .alias name := t.kind then
    popState
    skipTok
    return { kind := .alias name, start := t.start, stop := t.stop, headComment := t.headComment }
  let mut start := t.start
  let mut stop := t.start
  let mut anchor := ""
  let mut tagToken : Option (String × String × Mark) := none
  let mut t := t
  let comment := t.headComment
  match t.kind with
  | .anchor name =>
    anchor := name
    stop := t.stop
    skipTok
    t ← peekTok
    if let .tag h s := t.kind then
      tagToken := some (h, s, t.start)
      stop := t.stop
      skipTok
      t ← peekTok
  | .tag h s =>
    tagToken := some (h, s, t.start)
    stop := t.stop
    skipTok
    t ← peekTok
    if let .anchor name := t.kind then
      anchor := name
      stop := t.stop
      skipTok
      t ← peekTok
  | _ => pure ()
  let mut tag := ""
  if let some (handle, suffix, tagMark) := tagToken then
    if handle.isEmpty then tag := suffix
    else
      match (← get).tagDirectives.find? (·.1 == handle) with
      | some (_, pfx) => tag := pfx ++ suffix
      | none => parseFail start "found undefined tag handle" tagMark
  let isImplicit := tag.isEmpty
  let comment := if comment.isEmpty then t.headComment else comment
  match t.kind with
  | .blockEntry =>
    if indentlessSequence then
      goTo .indentlessSequenceEntry
      return { kind := .sequenceStart anchor tag isImplicit false, start, stop := t.stop, headComment := comment }
  | .scalar value style =>
    let plainImplicit := (tag.isEmpty && style == .plain) || tag == "!"
    let quotedImplicit := !plainImplicit && tag.isEmpty
    popState
    skipTok
    return { kind := .scalar anchor tag value plainImplicit quotedImplicit style, start, stop := t.stop,
             headComment := comment }
  | .flowSequenceStart =>
    goTo .flowSequenceFirstEntry
    return { kind := .sequenceStart anchor tag isImplicit true, start, stop := t.stop, headComment := comment }
  | .flowMappingStart =>
    goTo .flowMappingFirstKey
    return { kind := .mappingStart anchor tag isImplicit true, start, stop := t.stop, headComment := comment }
  | .blockSequenceStart =>
    if block then
      goTo .blockSequenceFirstEntry
      return { kind := .sequenceStart anchor tag isImplicit false, start, stop := t.stop, headComment := comment }
  | .blockMappingStart =>
    if block then
      goTo .blockMappingFirstKey
      return { kind := .mappingStart anchor tag isImplicit false, start, stop := t.stop, headComment := comment }
  | _ => pure ()
  if !anchor.isEmpty || !tag.isEmpty then
    popState
    return { kind := .scalar anchor tag "" isImplicit false .plain, start, stop, headComment := comment }
  parseFail start "did not find expected node content" t.start

/-- The next event of a document start, explicit or not. -/
def parseDocumentStart (isImplicit : Bool) : ParseM Event := do
  let mut t ← peekTok
  if !isImplicit then
    for _ in [0:((← get).scanner.input.size + 2)] do
      if t.kind.sameAs .documentEnd then
        skipTok
        t ← peekTok
      else break
  let isDirective := t.kind.sameAs (.versionDirective 0 0) || t.kind.sameAs (.tagDirective "" "")
  if isImplicit && !isDirective && !t.kind.sameAs .documentStart && !t.kind.sameAs .streamEnd then
    processDirectives
    pushState .documentEnd
    goTo .blockNode
    return { kind := .documentStart true, start := t.start, stop := t.stop }
  else if !t.kind.sameAs .streamEnd then
    let start := t.start
    processDirectives
    let d ← peekTok
    if !d.kind.sameAs .documentStart then parseFail {} "did not find expected <document start>" d.start
    pushState .documentEnd
    goTo .documentContent
    skipTok
    return { kind := .documentStart false, start, stop := d.stop }
  else
    goTo .finished
    skipTok
    return { kind := .streamEnd, start := t.start, stop := t.stop }

/-- The next event of a block sequence. -/
def parseBlockSequenceEntry (first : Bool) : ParseM Event := do
  if first then
    let t ← peekTok
    pushMark t.start
    skipTok
  let t ← peekTok
  match t.kind with
  | .blockEntry =>
    let m := t.stop
    skipTok
    let t ← peekTok
    if !t.kind.sameAs .blockEntry && !t.kind.sameAs .blockEnd then
      pushState .blockSequenceEntry
      parseNode true false
    else
      goTo .blockSequenceEntry
      return emptyScalar m
  | .blockEnd =>
    popState
    let _ ← popMark
    skipTok
    return { kind := .sequenceEnd, start := t.start, stop := t.stop }
  | _ =>
    let cm ← popMark
    parseFail cm "did not find expected '-' indicator" t.start

/-- The next event of an indentless sequence. -/
def parseIndentlessSequenceEntry : ParseM Event := do
  let t ← peekTok
  if t.kind.sameAs .blockEntry then
    let m := t.stop
    skipTok
    let t ← peekTok
    if !t.kind.sameAs .blockEntry && !t.kind.sameAs .key && !t.kind.sameAs .value &&
        !t.kind.sameAs .blockEnd then
      pushState .indentlessSequenceEntry
      parseNode true false
    else
      goTo .indentlessSequenceEntry
      return emptyScalar m
  else
    popState
    return { kind := .sequenceEnd, start := t.start, stop := t.start }

/-- The next event of a block mapping at a key. -/
def parseBlockMappingKey (first : Bool) : ParseM Event := do
  if first then
    let t ← peekTok
    pushMark t.start
    skipTok
  let t ← peekTok
  match t.kind with
  | .key =>
    let m := t.stop
    skipTok
    let t ← peekTok
    if !t.kind.sameAs .key && !t.kind.sameAs .value && !t.kind.sameAs .blockEnd then
      pushState .blockMappingValue
      parseNode true true
    else
      goTo .blockMappingValue
      return emptyScalar m
  | .blockEnd =>
    popState
    let _ ← popMark
    skipTok
    return { kind := .mappingEnd, start := t.start, stop := t.stop }
  | _ =>
    let cm ← popMark
    parseFail cm "did not find expected key" t.start

/-- The next event of a block mapping at a value. -/
def parseBlockMappingValue : ParseM Event := do
  let t ← peekTok
  if t.kind.sameAs .value then
    let m := t.stop
    skipTok
    let t ← peekTok
    if !t.kind.sameAs .key && !t.kind.sameAs .value && !t.kind.sameAs .blockEnd then
      pushState .blockMappingKey
      parseNode true true
    else
      goTo .blockMappingKey
      return emptyScalar m
  else
    goTo .blockMappingKey
    return emptyScalar t.start

/-- The next event of a flow sequence. -/
def parseFlowSequenceEntry (first : Bool) : ParseM Event := do
  if first then
    let t ← peekTok
    pushMark t.start
    skipTok
  let mut t ← peekTok
  if !t.kind.sameAs .flowSequenceEnd then
    if !first then
      if t.kind.sameAs .flowEntry then
        skipTok
        t ← peekTok
      else
        let cm ← popMark
        parseFail cm "did not find expected ',' or ']'" t.start
    if t.kind.sameAs .key then
      goTo .flowSequenceEntryMappingKey
      skipTok
      return { kind := .mappingStart "" "" true true, start := t.start, stop := t.stop }
    else if !t.kind.sameAs .flowSequenceEnd then
      pushState .flowSequenceEntry
      return (← parseNode false false)
  popState
  let _ ← popMark
  skipTok
  return { kind := .sequenceEnd, start := t.start, stop := t.stop }

/-- The next event of a flow sequence's pair at its key. -/
def parseFlowSequenceEntryMappingKey : ParseM Event := do
  let t ← peekTok
  if !t.kind.sameAs .value && !t.kind.sameAs .flowEntry && !t.kind.sameAs .flowSequenceEnd then
    pushState .flowSequenceEntryMappingValue
    parseNode false false
  else
    let m := t.stop
    skipTok
    goTo .flowSequenceEntryMappingValue
    return emptyScalar m

/-- The next event of a flow sequence's pair at its value. -/
def parseFlowSequenceEntryMappingValue : ParseM Event := do
  let t ← peekTok
  if t.kind.sameAs .value then
    skipTok
    let t ← peekTok
    if !t.kind.sameAs .flowEntry && !t.kind.sameAs .flowSequenceEnd then
      pushState .flowSequenceEntryMappingEnd
      return (← parseNode false false)
    goTo .flowSequenceEntryMappingEnd
    return emptyScalar t.start
  goTo .flowSequenceEntryMappingEnd
  return emptyScalar t.start

/-- The end of a flow sequence's pair. -/
def parseFlowSequenceEntryMappingEnd : ParseM Event := do
  let t ← peekTok
  goTo .flowSequenceEntry
  return { kind := .mappingEnd, start := t.start, stop := t.start }

/-- The next event of a flow mapping at a key. -/
def parseFlowMappingKey (first : Bool) : ParseM Event := do
  if first then
    let t ← peekTok
    pushMark t.start
    skipTok
  let mut t ← peekTok
  if !t.kind.sameAs .flowMappingEnd then
    if !first then
      if t.kind.sameAs .flowEntry then
        skipTok
        t ← peekTok
      else
        let cm ← popMark
        parseFail cm "did not find expected ',' or '\x7d'" t.start
    if t.kind.sameAs .key then
      skipTok
      let k ← peekTok
      if !k.kind.sameAs .value && !k.kind.sameAs .flowEntry && !k.kind.sameAs .flowMappingEnd then
        pushState .flowMappingValue
        return (← parseNode false false)
      goTo .flowMappingValue
      return emptyScalar k.start
    else if !t.kind.sameAs .flowMappingEnd then
      pushState .flowMappingEmptyValue
      return (← parseNode false false)
  popState
  let _ ← popMark
  skipTok
  return { kind := .mappingEnd, start := t.start, stop := t.stop }

/-- The next event of a flow mapping at a value. -/
def parseFlowMappingValue (empty : Bool) : ParseM Event := do
  let t ← peekTok
  if empty then
    goTo .flowMappingKey
    return emptyScalar t.start
  if t.kind.sameAs .value then
    skipTok
    let t ← peekTok
    if !t.kind.sameAs .flowEntry && !t.kind.sameAs .flowMappingEnd then
      pushState .flowMappingKey
      return (← parseNode false false)
    goTo .flowMappingKey
    return emptyScalar t.start
  goTo .flowMappingKey
  return emptyScalar t.start

/-- The next event. -/
def nextEvent : ParseM Event := do
  match (← get).state with
  | .streamStart =>
    let t ← peekTok
    if !t.kind.sameAs .streamStart then parseFail {} "did not find expected <stream-start>" t.start
    goTo .implicitDocumentStart
    skipTok
    return { kind := .streamStart, start := t.start, stop := t.stop }
  | .implicitDocumentStart => parseDocumentStart true
  | .documentStart => parseDocumentStart false
  | .documentContent =>
    let t ← peekTok
    if t.kind.sameAs (.versionDirective 0 0) || t.kind.sameAs (.tagDirective "" "") ||
        t.kind.sameAs .documentStart || t.kind.sameAs .documentEnd || t.kind.sameAs .streamEnd then
      popState
      return emptyScalar t.start
    parseNode true false
  | .documentEnd =>
    let t ← peekTok
    let explicitEnd := t.kind.sameAs .documentEnd
    if explicitEnd then skipTok
    modify fun p => { p with tagDirectives := [] }
    goTo .documentStart
    return { kind := .documentEnd (!explicitEnd), start := t.start, stop := if explicitEnd then t.stop else t.start }
  | .blockNode => parseNode true false
  | .blockNodeOrIndentlessSequence => parseNode true true
  | .flowNode => parseNode false false
  | .blockSequenceFirstEntry => parseBlockSequenceEntry true
  | .blockSequenceEntry => parseBlockSequenceEntry false
  | .indentlessSequenceEntry => parseIndentlessSequenceEntry
  | .blockMappingFirstKey => parseBlockMappingKey true
  | .blockMappingKey => parseBlockMappingKey false
  | .blockMappingValue => parseBlockMappingValue
  | .flowSequenceFirstEntry => parseFlowSequenceEntry true
  | .flowSequenceEntry => parseFlowSequenceEntry false
  | .flowSequenceEntryMappingKey => parseFlowSequenceEntryMappingKey
  | .flowSequenceEntryMappingValue => parseFlowSequenceEntryMappingValue
  | .flowSequenceEntryMappingEnd => parseFlowSequenceEntryMappingEnd
  | .flowMappingFirstKey => parseFlowMappingKey true
  | .flowMappingKey => parseFlowMappingKey false
  | .flowMappingValue => parseFlowMappingValue false
  | .flowMappingEmptyValue => parseFlowMappingValue true
  | .finished =>
    let m := (← get).scanner.mark
    return { kind := .streamEnd, start := m, stop := m }

end CriticalCss.Yaml

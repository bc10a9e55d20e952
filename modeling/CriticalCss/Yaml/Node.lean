import CriticalCss.Yaml.Event
import CriticalCss.Yaml.Resolve
/-!
# YAML node trees

A document reads into a tree of nodes: scalars, sequences, mappings (their
keys and values alternating) and aliases of anchored nodes. Each node keeps
its tag, the style it was written in, its anchor, the comment lines written
above it and the line and column where it starts, counted from one.

A node without an explicit tag gets one: a quoted or block scalar is a
string, a plain scalar is resolved from its text, and collections are
sequences and mappings. An explicit tag is kept in its short spelling and
marks the node as tagged.

Only the first document of a text is read. An alias refers to the latest
node anchored with its name before it; the anchored nodes are kept apart,
by number, so that a node may hold an alias of itself.

## Main definitions

* `Node`, `NodeKind`: the tree.
* `Document`: a document's root and its anchored nodes.
* `YamlError`: why a text could not be read or decoded.
* `readDocument`: the first document of a text.
-/

namespace CriticalCss.Yaml

/-- The kinds of nodes. -/
inductive NodeKind where
  | document
  | sequence
  | mapping
  | scalar
  | alias
  deriving Repr, Inhabited, DecidableEq

/-- A node of a document tree. An alias holds the number of the node it
refers to, among the document's anchored nodes. -/
structure Node where
  kind : NodeKind
  tag : String := ""
  value : String := ""
  anchor : String := ""
  style : ScalarStyle := .plain
  tagged : Bool := false
  flow : Bool := false
  headComment : List String := []
  line : Nat := 0
  column : Nat := 0
  target : Nat := 0
  content : List Node := []
  deriving Inhabited

/-- A document: its root node and its anchored nodes by number. -/
structure Document where
  root : Node
  anchors : Array Node
  deriving Inhabited

/-- Why a text could not be read or decoded. -/
inductive YamlError where
  /-- The text is not YAML. -/
  | malformed (e : SyntaxError)
  /-- The text holds no document. -/
  | endOfInput
  /-- A document that cannot be read or decoded, and why. -/
  | failed (reason : String)
  /-- Values that do not fit their places. -/
  | mismatches (lines : List String)
  /-- A value that its type refused, with the type's own message. -/
  | refused (message : String)
  deriving Inhabited

/-- The message of a YAML problem. -/
def YamlError.message : YamlError → String
  | .malformed e => e.message
  | .endOfInput => "EOF"
  | .failed reason => "yaml: " ++ reason
  | .mismatches lines => "yaml: unmarshal errors:\n  " ++ "\n  ".intercalate lines
  | .refused message => message

/-- The state of building a tree: the parser, the event looked at and not yet
taken, the anchored nodes so far and the latest number of each anchor. -/
structure Builder where
  parser : Parser
  pending : Option Event := none
  anchors : Array Node := #[]
  names : List (String × Nat) := []

/-- Building a tree, which may fail. -/
abbrev BuildM := StateT Builder (Except YamlError)

/-- The next event, read when needed. -/
def peekEvent : BuildM Event := do
  let b ← get
  match b.pending with
  | some e => return e
  | none =>
    match nextEvent.run b.parser with
    | .ok (e, p) =>
      set { b with parser := p, pending := some e }
      return e
    | .error err => throw (.malformed err)

/-- Takes the event looked at. -/
def takeEvent : BuildM Unit := do
  let e ← peekEvent
  if let .streamEnd := e.kind then
    throw (.failed "attempted to go past the end of stream; corrupted value?")
  modify fun b => { b with pending := none }

/-- A node of an event, with the tag it gets: an explicit tag in its short
spelling, or the default tag, or for a scalar the tag its text resolves to. -/
def nodeOf (kind : NodeKind) (defaultTag tag value : String) (e : Event) : Node :=
  let base : Node := { kind, value, line := e.start.line + 1, column := e.start.column + 1,
                       headComment := e.headComment }
  if tag != "" && tag != "!" then { base with tag := shortTag tag, tagged := true }
  else if defaultTag != "" then { base with tag := defaultTag }
  else if kind == .scalar then { base with tag := resolveTag value }
  else base

/-- Reserves the number of an anchored node, before its content is read. -/
def reserveAnchor (anchor : String) : BuildM (Option Nat) := do
  if anchor.isEmpty then return none
  let b ← get
  let i := b.anchors.size
  set { b with anchors := b.anchors.push default, names := (anchor, i) :: b.names }
  return some i

/-- Records an anchored node under its reserved number. -/
def recordAnchor (slot : Option Nat) (n : Node) : BuildM Unit :=
  match slot with
  | some i => modify fun b => { b with anchors := b.anchors.set! i n }
  | none => pure ()

/-- Reads a node and everything in it; `fuel` bounds the depth. -/
def readNode : Nat → BuildM Node
  | 0 => throw (.failed "document nested too deeply")
  | fuel + 1 => do
    let e ← peekEvent
    match e.kind with
    | .alias name =>
      let n := nodeOf .alias "" "" name e
      match (← get).names.lookup name with
      | some i =>
        takeEvent
        return { n with target := i }
      | none => throw (.failed ("unknown anchor '" ++ name ++ "' referenced"))
    | .scalar anchor tag value _ _ style =>
      let defaultTag := if style != .plain then strTag else if value == "<<" then mergeTag else ""
      let n := { nodeOf .scalar defaultTag tag value e with style, anchor }
      let slot ← reserveAnchor anchor
      recordAnchor slot n
      takeEvent
      return n
    | .sequenceStart anchor tag _ flow =>
      let n := { nodeOf .sequence seqTag tag "" e with flow, anchor }
      let slot ← reserveAnchor anchor
      takeEvent
      let mut items : Array Node := #[]
      for _ in [0:fuel] do
        let e ← peekEvent
        if let .sequenceEnd := e.kind then break
        items := items.push (← readNode fuel)
      takeEvent
      let n := { n with content := items.toList }
      recordAnchor slot n
      return n
    | .mappingStart anchor tag _ flow =>
      let n := { nodeOf .mapping mapTag tag "" e with flow, anchor }
      let slot ← reserveAnchor anchor
      takeEvent
      let mut items : Array Node := #[]
      for _ in [0:fuel] do
        let e ← peekEvent
        if let .mappingEnd := e.kind then break
        items := items.push (← readNode fuel)
        items := items.push (← readNode fuel)
      takeEvent
      let n := { n with content := items.toList }
      recordAnchor slot n
      return n
    | _ => throw (.failed "attempted to parse unknown event")

/-- Reads the first document of a parsed stream, or `none` when the stream
holds no document. -/
def readFirstDocument (fuel : Nat) : BuildM (Option Node) := do
  takeEvent
  let e ← peekEvent
  match e.kind with
  | .streamEnd => return none
  | .documentStart _ =>
    let doc := nodeOf .document "" "" "" e
    takeEvent
    let root ← readNode fuel
    takeEvent
    return some { doc with content := [root] }
  | _ => throw (.failed "attempted to parse unknown event")

/-- Whether text holds a character that YAML does not allow. -/
def hasForbiddenChar (text : String) : Bool := text.any fun c => !isAllowedChar c

/-- The first document of a text, with its anchored nodes; `endOfInput` when
it holds none. -/
def readDocument (text : String) : Except YamlError Document :=
  if hasForbiddenChar text then .error (.failed "control characters are not allowed")
  else
    let fuel := text.length + 8
    match (readFirstDocument fuel).run { parser := Parser.ofText text } with
    | .ok (some root, b) => .ok { root, anchors := b.anchors }
    | .ok (none, _) => .error .endOfInput
    | .error e => .error e

end CriticalCss.Yaml

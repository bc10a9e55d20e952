import CriticalCss.Yaml.Node
import CriticalCss.Text.Quote
import CriticalCss.Text.Duration
import CriticalCss.Text.Encoding.Basic
/-!
# Decoding documents into values

A decoder reads a node into a value of its type, starting from the value
already there, and tells whether it stored anything. Values that do not fit
are collected as mismatches, each naming its line, and decoding goes on;
the decoded value is refused at the end when there were any.

* A null scalar leaves scalars and records as they are, and empties lists
  and maps.
* A string takes the text of any scalar; an integer takes integers, and
  floats toward zero; a duration takes the text of a duration only; a
  boolean also takes `y`, `yes`, `on` and `n`, `no`, `off` in three cases;
  a float takes integers and floats.
* A list is replaced by the sequence's items that decode; a map gains the
  mapping's pairs whose keys decode, a null value included.
* A record takes a mapping's keys as field names; an unknown name is a
  mismatch. A mapping with two equal keys is a mismatch and is not decoded.
* `<<` merges a mapping, or a sequence of mappings, into the one holding it,
  without overriding its keys.
* An alias decodes the node it refers to.

## Main definitions

* `Decoder`: how to decode a node into a type.
* `stringDecoder`, `intDecoder`, `boolDecoder`, `floatDecoder`,
  `textDecoder`, `listDecoder`, `mapDecoder`, `recordDecoder`.
* `decodeDocument`: a document decoded into a value.
-/

namespace CriticalCss.Yaml

/-- The state of decoding: the document's anchored nodes, the mismatches so
far, the aliases being decoded, and the keys of a mapping being merged
into. -/
structure DecodeState where
  anchors : Array Node
  mismatches : Array String := #[]
  visiting : List (Nat × Nat) := []
  merged : Option (List String) := none

/-- Decoding, which may fail. -/
abbrev DecodeM := StateT DecodeState (Except YamlError)

/-- How to decode a node that is not an alias into a value of a type, from
the value already there: the new value and whether anything was stored. -/
structure Decoder (α : Type) where
  typeName : String
  zero : α
  run : Node → α → DecodeM (α × Bool)

/-- Records a mismatch. -/
def addMismatch (line : String) : DecodeM Unit :=
  modify fun s => { s with mismatches := s.mismatches.push line }

/-- The node an alias refers to. -/
def aliasTarget (n : Node) : DecodeM Node := do
  return (← get).anchors.getD n.target default

/-- Decodes a node, following an alias to the node it refers to. -/
def unmarshalNode {α : Type} (d : Decoder α) (n : Node) (out : α) : DecodeM (α × Bool) := do
  if n.kind == .alias then
    let key := (n.line, n.column)
    if (← get).visiting.contains key then
      throw (.failed ("anchor '" ++ n.value ++ "' value contains itself"))
    modify fun s => { s with visiting := key :: s.visiting }
    let r ← d.run (← aliasTarget n) out
    modify fun s => { s with visiting := s.visiting.erase key }
    return r
  else d.run n out

/-- Decodes a node; a document decodes its content. -/
def unmarshal {α : Type} (d : Decoder α) (n : Node) (out : α) : DecodeM (α × Bool) := do
  if n.kind == .document then
    match n.content with
    | [c] =>
      let (v, _) ← unmarshalNode d c out
      return (v, true)
    | _ => return (out, false)
  else unmarshalNode d n out

/-- Whether a node is a scalar meant as a string: tagged as one, or quoted or
written as a block without a tag. -/
def Node.indicatedString (n : Node) : Bool :=
  n.kind == .scalar &&
    (shortTag n.tag == strTag || ((n.tag == "" || n.tag == "!") && n.style != .plain))

/-- The short tag of a node, implied by its kind or text when not given. -/
def nodeShortTag (n : Node) : DecodeM String := do
  if n.indicatedString then return strTag
  if n.tag == "" || n.tag == "!" then
    match n.kind with
    | .mapping => return mapTag
    | .sequence => return seqTag
    | .alias =>
      let t ← aliasTarget n
      if t.indicatedString then return strTag
      if t.tag == "" || t.tag == "!" then
        return match t.kind with
          | .mapping => mapTag
          | .sequence => seqTag
          | .scalar => resolveTag t.value
          | _ => ""
      return shortTag t.tag
    | .scalar => return resolveTag n.value
    | _ => return ""
  return shortTag n.tag

/-- Records that a node does not fit a type. -/
def mismatch (n : Node) (tag typeName : String) : DecodeM Unit := do
  let tag := if n.tag != "" then n.tag else tag
  let shown :=
    if tag == seqTag || tag == mapTag then ""
    else
      let bytes := n.value.toUTF8
      if bytes.size > 10 then
        " `" ++ Text.decodeWith Text.utf8Step (bytes.extract 0 7).toList ++ "...`"
      else " `" ++ n.value ++ "`"
  addMismatch ("line " ++ toString n.line ++ ": cannot unmarshal " ++ shortTag tag ++ shown ++ " into " ++ typeName)

/-- The tag and value of a scalar node. -/
def scalarOf (n : Node) : DecodeM (String × Resolved) := do
  if n.indicatedString then return (strTag, .str n.value)
  match resolve n.tag n.value with
  | .ok r => return r
  | .error reason => throw (.failed reason)

/-- Records the keys a mapping holds twice; whether there were any. -/
def duplicateKeys (n : Node) : DecodeM Bool := do
  let keys := ((n.content.zipIdx.filter (·.2 % 2 == 0)).map (·.1)).toArray
  let mut found := false
  for i in [0:keys.size] do
    for j in [i+1:keys.size] do
      let ki := keys[i]!
      let kj := keys[j]!
      if ki.kind == kj.kind && ki.value == kj.value then
        found := true
        addMismatch ("line " ++ toString kj.line ++ ": mapping key " ++ Text.quote kj.value ++
            " already defined at line " ++ toString ki.line)
  return found

/-- A mapping or sequence where a scalar belongs. -/
def collectionMismatch {α : Type} (n : Node) (typeName : String) (out : α) : DecodeM (α × Bool) := do
  if n.kind == .mapping then
    if ← duplicateKeys n then return (out, false)
    mismatch n mapTag typeName
  else mismatch n seqTag typeName
  return (out, false)

/-- Strings: the text of any scalar. -/
def stringDecoder (typeName : String) : Decoder String where
  typeName := typeName
  zero := ""
  run n out := do
    if n.kind != .scalar then return ← collectionMismatch n typeName out
    match (← scalarOf n).2 with
    | .null => return (out, false)
    | _ => return (n.value, true)

/-- The value of a float toward zero, as a conversion to 64 bits gives it:
the smallest integer when out of range. -/
def floatToInt64 (x : Float) : Int :=
  match Text.truncateFloat x with
  | some i => if i < -(Int.pow 2 63) || i ≥ Int.pow 2 63 then -(Int.pow 2 63) else i
  | none => -(Int.pow 2 63)

/-- 64-bit integers, or durations in nanoseconds, which take duration texts
instead of numbers. -/
def intDecoder (typeName : String) (isDuration : Bool) : Decoder Int where
  typeName := typeName
  zero := 0
  run n out := do
    if n.kind != .scalar then return ← collectionMismatch n typeName out
    let (tag, v) ← scalarOf n
    match v with
    | .null => return (out, false)
    | .int i => if !isDuration then return (i, true)
    | .float x =>
      if !isDuration && x ≤ 9223372036854775807.0 then return (floatToInt64 x, true)
    | .str s =>
      if isDuration then
        if let some d := Text.parseDuration s then return (d, true)
    | _ => pure ()
    mismatch n tag typeName
    return (out, false)

/-- The words taken for true and for false besides `true` and `false`. -/
def truthWords : List String := ["y", "Y", "yes", "Yes", "YES", "on", "On", "ON"]
def falsityWords : List String := ["n", "N", "no", "No", "NO", "off", "Off", "OFF"]

/-- Booleans. -/
def boolDecoder : Decoder Bool where
  typeName := "bool"
  zero := false
  run n out := do
    if n.kind != .scalar then return ← collectionMismatch n "bool" out
    let (tag, v) ← scalarOf n
    match v with
    | .null => return (out, false)
    | .bool b => return (b, true)
    | .str s =>
      if truthWords.contains s then return (true, true)
      if falsityWords.contains s then return (false, true)
    | _ => pure ()
    mismatch n tag "bool"
    return (out, false)

/-- Floats. -/
def floatDecoder : Decoder Float where
  typeName := "float64"
  zero := 0
  run n out := do
    if n.kind != .scalar then return ← collectionMismatch n "float64" out
    let (tag, v) ← scalarOf n
    match v with
    | .null => return (out, false)
    | .int i => return (Float.ofInt i, true)
    | .uint u => return (Float.ofNat u, true)
    | .float x => return (x, true)
    | _ =>
      mismatch n tag "float64"
      return (out, false)

/-- Values read from the text of any scalar by their own reader, whose
refusal ends decoding with its message. -/
def textDecoder {α : Type} (typeName : String) (zero : α) (read : String → Except String α) : Decoder α where
  typeName := typeName
  zero := zero
  run n out := do
    if n.kind != .scalar then return ← collectionMismatch n typeName out
    match (← scalarOf n).2 with
    | .null => return (out, false)
    | _ =>
      match read n.value with
      | .ok v => return (v, true)
      | .error message => throw (.refused message)

/-- Lists: the items of a sequence that decode. -/
def listDecoder {β : Type} (elem : Decoder β) : Decoder (List β) where
  typeName := "[]" ++ elem.typeName
  zero := []
  run n out := do
    match n.kind with
    | .sequence =>
      let mut items : Array β := #[]
      for c in n.content do
        let (v, good) ← unmarshal elem c elem.zero
        if good then items := items.push v
      return (items.toList, true)
    | .scalar =>
      let (tag, v) ← scalarOf n
      match v with
      | .null => return ([], true)
      | _ =>
        mismatch n tag ("[]" ++ elem.typeName)
        return (out, false)
    | _ => collectionMismatch n ("[]" ++ elem.typeName) out

/-- Whether a key merges a mapping into the one holding it. -/
def Node.isMergeKey (n : Node) : Bool :=
  n.kind == .scalar && n.value == "<<" && (n.tag == "" || n.tag == "!" || shortTag n.tag == mergeTag)

/-- The keys of a mapping that read as strings. -/
def stringKeys (n : Node) : DecodeM (List String) := do
  let mut keys : List String := []
  for (k, i) in n.content.zipIdx do
    if i % 2 == 0 then
      let k ← if k.kind == .alias then aliasTarget k else pure k
      if k.kind == .scalar then
        if k.indicatedString || (resolve k.tag k.value).toOption.any (·.1 == strTag) then
          keys := keys ++ [k.value]
  return keys

/-- Merges the mappings a `<<` key names into a value, by a decoder of the
mapping holding the key; the holder's keys are not overridden. -/
def mergeInto {α : Type} (run : Node → α → DecodeM (α × Bool)) (parent source : Node) (out : α) :
    DecodeM α := do
  let saved := (← get).merged
  if saved.isNone then
    let keys ← stringKeys parent
    modify fun s => { s with merged := some keys }
  let wantMap : DecodeM α := throw (.failed "map merge requires map or sequence of maps as the value")
  let runOne (m : Node) (out : α) : DecodeM α := do
    if m.kind == .alias then
      let key := (m.line, m.column)
      if (← get).visiting.contains key then
        throw (.failed ("anchor '" ++ m.value ++ "' value contains itself"))
      modify fun s => { s with visiting := key :: s.visiting }
      let (v, _) ← run (← aliasTarget m) out
      modify fun s => { s with visiting := s.visiting.erase key }
      return v
    else return (← run m out).1
  let result ← match source.kind with
    | .mapping => runOne source out
    | .alias =>
      if (← aliasTarget source).kind != .mapping then wantMap else runOne source out
    | .sequence => do
      let mut v := out
      for m in source.content do
        if m.kind == .alias then
          if (← aliasTarget m).kind != .mapping then return ← wantMap
        else if m.kind != .mapping then return ← wantMap
        v ← runOne m v
      pure v
    | _ => wantMap
  modify fun s => { s with merged := saved }
  return result

/-- The key and value nodes of a mapping. -/
def Node.pairs (n : Node) : List (Node × Node) :=
  (n.content.zipIdx.filter (·.2 % 2 == 0)).map fun (k, i) => (k, n.content.getD (i + 1) default)

/-- How deep merges within merged mappings are followed. -/
def mergeDepth : Nat := 8

/-- The pairs of a mapping added to a map; a `<<` key merges its mappings,
following merges `fuel` levels deep. -/
def mapPairs {β : Type} (elem : Decoder β) : Nat → Node → List (String × β) → DecodeM (List (String × β))
  | 0, _, out => return out
  | fuel + 1, n, out => do
    let merged := (← get).merged
    modify fun s => { s with merged := none }
    let isNew := out.isEmpty
    let mut m := out
    let mut mergedKeys := merged
    let mut mergeSource : Option Node := none
    for (k, v) in n.pairs do
      if k.isMergeKey then
        mergeSource := some v
        continue
      let (key, ok) ← unmarshal (stringDecoder "string") k ""
      if !ok then continue
      if let some keys := mergedKeys then
        if keys.contains key then continue
        mergedKeys := some (keys ++ [key])
      let (ev, good) ← unmarshal elem v elem.zero
      let isNull := (← nodeShortTag v) == nullTag
      if good || (isNull && (isNew || (m.lookup key).isNone)) then
        m := if (m.lookup key).isSome then m.map (fun (a, b) => if a == key then (a, ev) else (a, b))
          else m ++ [(key, ev)]
    modify fun s => { s with merged := mergedKeys }
    if let some src := mergeSource then
      m ← mergeInto (fun node acc => do
        if node.kind != .mapping then return (acc, false)
        if ← duplicateKeys node then return (acc, false)
        return (← mapPairs elem fuel node acc, true)) n src m
    return m

/-- Maps with string keys: the pairs of a mapping added to the map. -/
def mapDecoder {β : Type} (elem : Decoder β) : Decoder (List (String × β)) where
  typeName := "map[string]" ++ elem.typeName
  zero := []
  run n out := do
    let typeName := "map[string]" ++ elem.typeName
    match n.kind with
    | .mapping =>
      if ← duplicateKeys n then return (out, false)
      return (← mapPairs elem mergeDepth n out, true)
    | .scalar =>
      let (tag, v) ← scalarOf n
      match v with
      | .null => return ([], true)
      | _ =>
        mismatch n tag typeName
        return (out, false)
    | _ => collectionMismatch n typeName out

/-- A field of a record: its name and how its value decodes into the record. -/
structure Field (σ : Type) where
  name : String
  decode : Node → σ → DecodeM σ

/-- A field decoded by a decoder and stored through a getter and a setter. -/
def field {σ β : Type} (name : String) (d : Decoder β) (get : σ → β) (put : σ → β → σ) : Field σ where
  name := name
  decode n r := do
    let (v, _) ← unmarshal d n (get r)
    return put r v

/-- The fields of a mapping decoded into a record, in the mapping's order; a
`<<` key merges its mappings, following merges `fuel` levels deep. -/
def recordFields {σ : Type} (typeName : String) (fields : List (Field σ)) : Nat → Node → σ → DecodeM σ
  | 0, _, out => return out
  | fuel + 1, n, out => do
    let mut r := out
    let mut done : List String := []
    for (k, v) in n.pairs do
      if k.isMergeKey then
        r ← mergeInto (fun node acc => do
          if node.kind != .mapping then return (acc, false)
          if ← duplicateKeys node then return (acc, false)
          return (← recordFields typeName fields fuel node acc, true)) n v r
        continue
      let (name, ok) ← unmarshal (stringDecoder "string") k ""
      if !ok then continue
      if let some keys := (← get).merged then
        if keys.contains name then continue
        modify fun s => { s with merged := some (keys ++ [name]) }
      match fields.find? (·.name == name) with
      | some f =>
        if done.contains name then
          addMismatch ("line " ++ toString k.line ++ ": field " ++ name ++ " already set in type " ++ typeName)
          continue
        done := name :: done
        r ← f.decode v r
      | none =>
        addMismatch ("line " ++ toString k.line ++ ": field " ++ name ++ " not found in type " ++ typeName)
    modify fun s => { s with merged := none }
    return r

/-- Records whose fields are named by a mapping's keys; unknown names are
mismatches. -/
def recordDecoder {σ : Type} (typeName : String) (zero : σ) (fields : List (Field σ)) : Decoder σ where
  typeName := typeName
  zero := zero
  run n out := do
    match n.kind with
    | .mapping =>
      if ← duplicateKeys n then return (out, false)
      return (← recordFields typeName fields mergeDepth n out, true)
    | .scalar =>
      let (tag, v) ← scalarOf n
      match v with
      | .null => return (out, false)
      | _ =>
        mismatch n tag typeName
        return (out, false)
    | _ => collectionMismatch n typeName out

/-- A document decoded into a value, from the value already there; refused
with the mismatches when there are any. -/
def decodeDocument {α : Type} (doc : Document) (d : Decoder α) (out : α) : Except YamlError α :=
  match (unmarshal d doc.root out).run { anchors := doc.anchors } with
  | .ok ((v, _), s) => if s.mismatches.isEmpty then .ok v else .error (.mismatches s.mismatches.toList)
  | .error e => .error e

end CriticalCss.Yaml

import CriticalCss.Template.Function
import CriticalCss.Text.Encoding.Basic
import CriticalCss.Text.Base64
/-!
# JSON of template values

Values written as JSON and JSON read back as values.

Writing: nothing and lists or maps never made are `null`; numbers are
written as the shortest decimal that reads back, positional from `1e-6` up
to `1e21` and with an exponent outside; texts in double quotes with control
characters, the line and paragraph separators and (unless raw) `<`, `>`
and `&` escaped as `\u00XX`; maps with their keys in order; records by
their fields in order, moments as their RFC 3339 text; lists of bytes as
base 64. Numbers that are not finite and complex numbers cannot be written,
nor moments outside the years 0 to 9999.

Reading checks the whole text first, byte by byte, and names the first
byte that cannot stand where it is and what was expected there
(`invalid character 'x' looking for beginning of value`), or reports
`unexpected end of JSON input`. Objects read as maps of any values, arrays
as lists of any values, numbers as binary64 numbers (one too large reads as
nothing and is reported after the whole document is read).

## Main definitions

* `JsonNode`: a JSON document.
* `JsonNode.read`: a text read as a document, or the syntax error.
* `encodeJson`: a value as compact JSON; `encodeJsonIndented` spreads it
  over lines.
* `decodeJson`: a text read as a value in the store.
-/

namespace CriticalCss.Template

open CriticalCss.Text

/-- A JSON document. Numbers keep their text. -/
inductive JsonNode where
  | null
  | bool (b : Bool)
  | number (text : String)
  | string (s : String)
  | array (items : List JsonNode)
  | object (fields : List (String × JsonNode))
  deriving Inhabited

/-- A byte as the reader's errors name it: in single quotes, as the code
point of the same number, escaped like a quoted text. -/
def quoteByte (b : UInt8) : String :=
  if b == 0x27 then "'\\''"
  else if b == 0x22 then "'\"'"
  else "'" ++ escapeChar '"' false (Char.ofNat b.toNat) ++ "'"

/-- The error for a byte that cannot stand where it is. -/
def badByte (b : UInt8) (context : String) : String :=
  "invalid character " ++ quoteByte b ++ " " ++ context

/-- The error at the end of a text that stops too early. -/
def unexpectedEnd : String := "unexpected end of JSON input"

/-- Whether a byte is white space between JSON tokens. -/
def isJsonSpace (b : UInt8) : Bool := b == 0x20 || b == 0x09 || b == 0x0a || b == 0x0d

/-- Bytes with leading white space dropped. -/
def skipSpace (bs : List UInt8) : List UInt8 := bs.dropWhile isJsonSpace

/-- Whether a byte is a decimal digit. -/
def isDigitByte (b : UInt8) : Bool := 0x30 ≤ b && b ≤ 0x39

/-- Whether a byte is a hexadecimal digit. -/
def isHexByte (b : UInt8) : Bool :=
  isDigitByte b || (0x61 ≤ b && b ≤ 0x66) || (0x41 ≤ b && b ≤ 0x46)

/-- The value of a hexadecimal digit byte. -/
def hexByteDigit (b : UInt8) : Nat :=
  if isDigitByte b then b.toNat - 0x30 else if b ≥ 0x61 then b.toNat - 0x61 + 10 else b.toNat - 0x41 + 10

/-- A run of decimal digit bytes and the bytes after it. -/
def digitRun (bs : List UInt8) : List UInt8 × List UInt8 :=
  (bs.takeWhile isDigitByte, bs.dropWhile isDigitByte)

/-- The rest of a number after its integer part: an optional fraction and
exponent, each needing a digit. Returns the bytes read and the rest. -/
def readNumberTail (bs : List UInt8) : Except String (List UInt8 × List UInt8) := do
  let (frac, bs) ← match bs with
    | 0x2e :: rest =>
      match rest with
      | [] => throw unexpectedEnd
      | b :: _ =>
        if isDigitByte b then
          let (ds, rest) := digitRun rest
          pure (0x2e :: ds, rest)
        else throw (badByte b "after decimal point in numeric literal")
    | _ => pure ([], bs)
  match bs with
  | e :: rest =>
    if e == 0x65 || e == 0x45 then
      let (sign, rest) := match rest with
        | s :: r => if s == 0x2b || s == 0x2d then ([s], r) else ([], rest)
        | [] => ([], rest)
      match rest with
      | [] => throw unexpectedEnd
      | b :: _ =>
        if isDigitByte b then
          let (ds, rest) := digitRun rest
          pure (frac ++ e :: sign ++ ds, rest)
        else throw (badByte b "in exponent of numeric literal")
    else pure (frac, bs)
  | [] => pure (frac, bs)

/-- A number: an optional minus, `0` or digits not starting with `0`, then
the tail. -/
def readNumber (bs : List UInt8) : Except String (List UInt8 × List UInt8) := do
  let (neg, bs) := match bs with
    | 0x2d :: rest => ([(0x2d : UInt8)], rest)
    | _ => ([], bs)
  match bs with
  | [] => throw unexpectedEnd
  | b :: rest =>
    if b == 0x30 then
      let (tail, rest) ← readNumberTail rest
      pure (neg ++ 0x30 :: tail, rest)
    else if isDigitByte b then
      let (ds, rest) := digitRun rest
      let (tail, rest) ← readNumberTail rest
      pure (neg ++ b :: ds ++ tail, rest)
    else throw (badByte b "in numeric literal")

/-- A literal word after its first byte: each further byte must follow. -/
def readWord (word : String) (bs : List UInt8) : Except String (List UInt8) :=
  let rec go : List Char → List UInt8 → Except String (List UInt8)
    | [], bs => .ok bs
    | _ :: _, [] => .error unexpectedEnd
    | c :: cs, b :: rest =>
      if b.toNat == c.toNat then go cs rest
      else .error (badByte b ("in literal " ++ word ++ " (expecting " ++ quoteByte c.toNat.toUInt8 ++ ")"))
  go (word.toList.drop 1) bs

/-- The code unit of four hexadecimal digits at the start of bytes after
`\u`, if they are there. -/
def unitAt (bs : List UInt8) : Option Nat :=
  let ds := bs.take 4
  if ds.length == 4 && ds.all isHexByte then some (ds.foldl (fun a b => a * 16 + hexByteDigit b) 0)
  else none

/-- The bytes of a string's body up to its closing quote, escapes decoded,
and the rest after the quote; at most `fuel` bytes. -/
def readStringBody : Nat → List UInt8 → Array UInt8 → Except String (Array UInt8 × List UInt8)
  | 0, _, _ => .error unexpectedEnd
  | _ + 1, [], _ => .error unexpectedEnd
  | fuel + 1, b :: rest, acc =>
    if b == 0x22 then .ok (acc, rest)
    else if b < 0x20 then .error (badByte b "in string literal")
    else if b != 0x5c then readStringBody fuel rest (acc.push b)
    else match rest with
      | [] => .error unexpectedEnd
      | e :: more =>
        let simple : Option UInt8 := match e with
          | 0x62 => some 0x08 | 0x66 => some 0x0c | 0x6e => some 0x0a | 0x72 => some 0x0d
          | 0x74 => some 0x09 | 0x5c => some 0x5c | 0x2f => some 0x2f | 0x22 => some 0x22
          | _ => none
        match simple with
        | some x => readStringBody fuel more (acc.push x)
        | none =>
          if e != 0x75 then .error (badByte e "in string escape code")
          else
            match (more.take 4).find? (fun x => !isHexByte x) with
            | some x => .error (badByte x "in \\u hexadecimal character escape")
            | none =>
              if more.length < 4 then .error unexpectedEnd
              else
                let u := (unitAt more).getD 0
                let after := more.drop 4
                let (c, after) :=
                  if 0xd800 ≤ u && u < 0xe000 then
                    match after with
                    | 0x5c :: 0x75 :: tail =>
                      match unitAt tail with
                      | some v =>
                        if u < 0xdc00 && 0xdc00 ≤ v && v < 0xe000 then
                          (Char.ofNat (0x10000 + (u - 0xd800) * 1024 + (v - 0xdc00)), tail.drop 4)
                        else ('�', after)
                      | none => ('�', after)
                    | _ => ('�', after)
                  else (Char.ofNat u, after)
                readStringBody fuel after (c.toString.toUTF8.toList.foldl Array.push acc)

mutual

/-- A value at the start of bytes (after white space), and the rest. -/
def readValue : Nat → Nat → List UInt8 → Except String (JsonNode × List UInt8)
  | 0, _, _ => .error unexpectedEnd
  | fuel + 1, depth, bs =>
    match skipSpace bs with
    | [] => .error unexpectedEnd
    | b :: rest =>
      if b == 0x7b then
        if depth ≥ 10000 then .error (badByte b "exceeded max depth")
        else readObject fuel (depth + 1) rest
      else if b == 0x5b then
        if depth ≥ 10000 then .error (badByte b "exceeded max depth")
        else readArray fuel (depth + 1) rest
      else if b == 0x22 then
        (readStringBody (rest.length + 1) rest #[]).map fun (body, rest) =>
          (.string (Encoding.utf8.decode body.toList), rest)
      else if b == 0x2d || isDigitByte b then
        (readNumber (b :: rest)).map fun (ds, rest) =>
          (.number (String.ofList (ds.map fun d => Char.ofNat d.toNat)), rest)
      else if b == 0x74 then (readWord "true" rest).map ((.bool true, ·))
      else if b == 0x66 then (readWord "false" rest).map ((.bool false, ·))
      else if b == 0x6e then (readWord "null" rest).map ((.null, ·))
      else .error (badByte b "looking for beginning of value")

/-- The elements of an array after its `[`, and the rest after its `]`. -/
def readArray : Nat → Nat → List UInt8 → Except String (JsonNode × List UInt8)
  | 0, _, _ => .error unexpectedEnd
  | fuel + 1, depth, bs =>
    match skipSpace bs with
    | 0x5d :: rest => .ok (.array [], rest)
    | bs => readElements fuel depth bs #[]

/-- Elements separated by commas up to the closing `]`. -/
def readElements : Nat → Nat → List UInt8 → Array JsonNode → Except String (JsonNode × List UInt8)
  | 0, _, _, _ => .error unexpectedEnd
  | fuel + 1, depth, bs, acc => do
    let (v, rest) ← readValue fuel depth bs
    match skipSpace rest with
    | [] => .error unexpectedEnd
    | b :: rest =>
      if b == 0x2c then readElements fuel depth rest (acc.push v)
      else if b == 0x5d then .ok (.array (acc.push v).toList, rest)
      else .error (badByte b "after array element")

/-- The members of an object after its `{`, and the rest after its `}`. -/
def readObject : Nat → Nat → List UInt8 → Except String (JsonNode × List UInt8)
  | 0, _, _ => .error unexpectedEnd
  | fuel + 1, depth, bs =>
    match skipSpace bs with
    | 0x7d :: rest => .ok (.object [], rest)
    | bs => readMembers fuel depth bs #[]

/-- Members `"key": value` separated by commas up to the closing `}`. -/
def readMembers : Nat → Nat → List UInt8 → Array (String × JsonNode) →
    Except String (JsonNode × List UInt8)
  | 0, _, _, _ => .error unexpectedEnd
  | fuel + 1, depth, bs, acc => do
    match skipSpace bs with
    | [] => .error unexpectedEnd
    | b :: rest =>
      if b != 0x22 then .error (badByte b "looking for beginning of object key string")
      else
        let (key, rest) ← readStringBody (rest.length + 1) rest #[]
        match skipSpace rest with
        | [] => .error unexpectedEnd
        | c :: rest =>
          if c != 0x3a then .error (badByte c "after object key")
          else
            let (v, rest) ← readValue fuel depth rest
            let acc := acc.push (Encoding.utf8.decode key.toList, v)
            match skipSpace rest with
            | [] => .error unexpectedEnd
            | d :: rest =>
              if d == 0x2c then readMembers fuel depth rest acc
              else if d == 0x7d then .ok (.object acc.toList, rest)
              else .error (badByte d "after object key:value pair")

end

/-- A whole text read as one JSON document, with nothing but white space
after it. -/
def JsonNode.read (text : String) : Except String JsonNode := do
  let bs := text.toUTF8.toList
  let (v, rest) ← readValue (2 * bs.length + 2) 0 bs
  match skipSpace rest with
  | [] => pure v
  | b :: _ => throw (badByte b "after top-level value")

/-- The monad of reading documents as values: maps are made in the store,
and the first number too large is kept. -/
abbrev DecodeM := StateT (Option String) CallM

mutual

/-- The value a document reads as; a number too large gives nothing. -/
def JsonNode.toValue : JsonNode → DecodeM Value
  | .null => pure .none
  | .bool b => pure (.bool b)
  | .string s => pure (.str s)
  | .number t =>
    match parseGoFloat t with
    | some x => pure (.float x)
    | none => do
      modify fun e => e <|> some ("json: cannot unmarshal number " ++ t ++ " into Go value of type float64")
      pure .none
  | .array items => do return Value.appendedList .any 0 (← JsonNode.listToValue items)
  | .object fields => do StateT.lift (newMap .any (← JsonNode.fieldsToValue fields))

/-- The values of the elements of an array. -/
def JsonNode.listToValue : List JsonNode → DecodeM (List Value)
  | [] => pure []
  | x :: rest => do return (← x.toValue) :: (← JsonNode.listToValue rest)

/-- The values of the members of an object. -/
def JsonNode.fieldsToValue : List (String × JsonNode) → DecodeM (List (String × Value))
  | [] => pure []
  | (k, x) :: rest => do return (k, ← x.toValue) :: (← JsonNode.fieldsToValue rest)

end

/-- A text read as a value, maps made in the store: the value (nothing when
the text is not JSON) and the first error. -/
def decodeJson (text : String) : CallM (Value × Option String) :=
  match JsonNode.read text with
  | .error e => pure (.none, some e)
  | .ok node => node.toValue.run none

/-- Hexadecimal digits for escapes. -/
def jsonHex (n : Nat) : Char := "0123456789abcdef".toList.getD n '0'

/-- A text as a JSON string; with `html`, `<`, `>` and `&` escaped too. -/
def jsonString (html : Bool) (s : String) : String :=
  "\"" ++ String.join (s.toList.map fun c =>
    match c with
    | '"' => "\\\""
    | '\\' => "\\\\"
    | '\n' => "\\n"
    | '\r' => "\\r"
    | '\t' => "\\t"
    | '\x08' => "\\b"
    | '\x0c' => "\\f"
    | '\u2028' => "\\u2028"
    | '\u2029' => "\\u2029"
    | c =>
      if c.toNat < 0x20 || (html && (c == '<' || c == '>' || c == '&')) then
        String.ofList ['\\', 'u', '0', '0', jsonHex (c.toNat / 16), jsonHex (c.toNat % 16)]
      else c.toString) ++ "\""

/-- A finite binary64 number as JSON writes it: positional from `1e-6` up to
`1e21`, with a short exponent outside. -/
def jsonFloat (x : Float) : Except String String :=
  let text := formatFloat x 'g' none
  if text == "NaN" || text == "+Inf" || text == "-Inf" then .error ("json: unsupported value: " ++ text)
  else
    let a := x.abs
    if a != 0 && (a < 1e-6 || a ≥ 1e21) then
      let e := formatFloat x 'e' none
      let cs := e.toList
      let n := cs.length
      if n ≥ 4 && cs[n - 4]? == some 'e' && cs[n - 3]? == some '-' && cs[n - 2]? == some '0' then
        .ok (String.ofList (cs.take (n - 2) ++ cs.drop (n - 1)))
      else .ok e
    else .ok (formatFloat x 'f' none)

/-- The RFC 3339 text of a moment as JSON writes it, or the error for a
moment that has none. -/
def momentJson (t : Clock.Moment) : Except String String :=
  match t.rfc3339 with
  | .ok s => .ok ("\"" ++ s ++ "\"")
  | .error e => .error ("json: error calling MarshalJSON for type time.Time: Time.MarshalJSON: " ++ e)

/-- The layout of JSON: compact, or spread over lines with an indent per
level. -/
structure JsonLayout where
  html : Bool := true
  indent : Option String := none

/-- A line break and the indent of a level, or nothing when compact. -/
def JsonLayout.newline (l : JsonLayout) (level : Nat) : String :=
  match l.indent with
  | some unit => "\n" ++ String.join (List.replicate level unit)
  | none => ""

/-- Parts joined as the members of an array or object at a level. -/
def JsonLayout.block (l : JsonLayout) (level : Nat) (open_ close : String) (parts : List String) : String :=
  if parts.isEmpty then open_ ++ close
  else open_ ++ String.join ((parts.map fun p => l.newline (level + 1) ++ p).intersperse ",") ++
    l.newline level ++ close

/-- A value as JSON at a nesting level; at most `fuel` levels deep. -/
def encodeJsonAt (st : Store) (l : JsonLayout) : Nat → Nat → Value → Except String String
  | 0, _, _ => .error "json: unsupported value: encountered a cycle"
  | fuel + 1, level, v =>
    let sep := if l.indent.isSome then ": " else ":"
    match v with
    | .none => .ok "null"
    | .bool b => .ok (if b then "true" else "false")
    | .int n | .int64 n | .duration n => .ok (toString n)
    | .uint8 n | .month n | .weekday n => .ok (toString n)
    | .float x => jsonFloat x
    | .complex .. => .error "json: unsupported type: complex128"
    | .str s => .ok (jsonString l.html s)
    | .bytes data => .ok (jsonString l.html (Text.decodeLossy data))
    | .moment t => momentJson t
    | .location _ => .ok "\x7b\x7d"
    | .list .uint8 items isNil _ =>
      if isNil then .ok "null"
      else
        let bytes := items.map fun | .uint8 n => n.toUInt8 | _ => 0
        .ok ("\"" ++ String.ofList (encodeBase64 bytes) ++ "\"")
    | .list _ items isNil _ =>
      if isNil then .ok "null"
      else do
        let parts ← items.mapM (encodeJsonAt st l fuel (level + 1))
        pure (l.block level "[" "]" parts)
    | .map _ ref =>
      if ref.isNone then .ok "null"
      else do
        let parts ← (st.entries ref).mapM fun (k, x) => do
          return jsonString l.html k ++ sep ++ (← encodeJsonAt st l fuel (level + 1) x)
        pure (l.block level "\x7b" "\x7d" parts)
    | .record _ fields => do
      let parts ← fields.mapM fun (k, x) => do
        return jsonString l.html k ++ sep ++ (← encodeJsonAt st l fuel (level + 1) x)
      pure (l.block level "\x7b" "\x7d" parts)

/-- A value as compact JSON; with `html`, `<`, `>` and `&` in texts escaped. -/
def encodeJson (st : Store) (html : Bool) (v : Value) : Except String String :=
  encodeJsonAt st { html } 1000 0 v

/-- A value as JSON over lines, each level indented by two blanks. -/
def encodeJsonIndented (st : Store) (v : Value) : Except String String :=
  encodeJsonAt st { indent := some "  " } 1000 0 v

end CriticalCss.Template

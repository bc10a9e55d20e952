import CriticalCss.Text.Encoding.Names
import CriticalCss.Content.CharacterReference
/-!
# The encoding a markup document declares

Before falling back to guessing, the reading of bytes of unknown encoding
looks for an HTML `meta` element that declares one, the way the HTML
standard prescans a document. The bytes are read as markup tokens:

* text runs up to a `<` that starts a tag, a comment or a declaration;
* a start tag is a letter after `<`, its name up to a blank, `/` or `>`,
  then attributes up to `>`; names and keys are read in lower case;
* an end tag is `</` and a letter, read like a start tag; `</>` is
  nothing, and `</` before anything else runs to the next `>`;
* `<!--` opens a comment, closed by `-->`, by `--!>`, or at once by `>` or
  `->`; any other `<!` and `<?` run to the next `>`;
* after the start tag of `iframe`, `noembed`, `noframes`, `noscript`,
  `script`, `style`, `textarea`, `title` or `xmp` its content is raw text up
  to its own end tag, and after `plaintext` everything is.

A tag, comment or declaration cut off by the end of the bytes ends the
reading. An attribute value is quoted with `"` or `'`, or runs to a blank or
`>`; its line breaks read as line feeds and its character references are
read. A key that starts with `=` keeps it.

A `meta` element declares an encoding with a `charset` attribute, or with a
`content` attribute such as `text/html; charset=koi8-r` when it also has
`http-equiv="content-type"`. Only the first of repeated keys counts, values
are compared in lower case. A `charset` that names no encoding leaves the
element without one, unless a `content` after it names one, which then
needs the `http-equiv` too. A declared UTF-16 is read as UTF-8. The first
element that declares a known encoding decides.

## Main definitions

* `MarkupTag`: a tag's name and attributes.
* `readTag`: a tag at the start of bytes.
* `MarkupTag.declaredEncoding`: the encoding a `meta` element declares.
* `metaCharset`: the encoding the first declaring element of bytes names.
-/

namespace CriticalCss.Content

open CriticalCss.Text

/-- The blanks of markup: tab, line feed, form feed, carriage return and
space. -/
def isMarkupBlank (b : UInt8) : Bool :=
  b == 0x09 || b == 0x0a || b == 0x0c || b == 0x0d || b == 0x20

/-- Whether a byte is an ASCII letter. -/
def isAsciiLetter (b : UInt8) : Bool :=
  (0x41 ≤ b && b ≤ 0x5a) || (0x61 ≤ b && b ≤ 0x7a)

/-- An ASCII letter in lower case; other bytes as they are. -/
def lowerByte (b : UInt8) : UInt8 :=
  if 0x41 ≤ b && b ≤ 0x5a then b + 0x20 else b

/-- A tag: its name and its attributes in order, name and keys in lower
case. -/
structure MarkupTag where
  name : List UInt8
  attributes : List (List UInt8 × List UInt8)

/-- Whether a byte ends an attribute key. -/
def endsKey (b : UInt8) : Bool :=
  b == 0x3d || isMarkupBlank b || b == 0x2f || b == 0x3e

/-- An attribute key at the start of bytes and the bytes after it; a first
`=` belongs to the key. -/
def attributeKey (cs : List UInt8) : List UInt8 × List UInt8 :=
  match cs with
  | 0x3d :: rest =>
    let key := rest.takeWhile (!endsKey ·)
    (0x3d :: key, rest.drop key.length)
  | _ =>
    let key := cs.takeWhile (!endsKey ·)
    (key, cs.drop key.length)

/-- Line breaks as line feeds: a carriage return, with the line feed after
it if there is one, becomes a line feed. -/
def lineFeeds : List UInt8 → List UInt8
  | [] => []
  | 0x0d :: 0x0a :: rest => 0x0a :: lineFeeds rest
  | 0x0d :: rest => 0x0a :: lineFeeds rest
  | b :: rest => b :: lineFeeds rest

/-- An attribute value after a key, and the bytes after it: nothing unless
an `=` follows; then a quoted value, or one running to a blank or `>`.
A `/` in place of the `=` is passed over. -/
def attributeValue (cs : List UInt8) : List UInt8 × List UInt8 :=
  match cs.dropWhile isMarkupBlank with
  | [] => ([], [])
  | 0x2f :: rest => ([], rest)
  | 0x3d :: rest =>
    match rest.dropWhile isMarkupBlank with
    | [] => ([], [])
    | 0x3e :: after => ([], 0x3e :: after)
    | q :: after =>
      if q == 0x22 || q == 0x27 then
        let value := after.takeWhile (· != q)
        match after.drop value.length with
        | [] => (value, [])
        | _ :: tail => (value, tail)
      else
        let value := (q :: after).takeWhile fun b => !isMarkupBlank b && b != 0x3e
        (value, (q :: after).drop value.length)
  | other => ([], other)

/-- The attributes of a tag up to its `>`, and the bytes after it; `none`
when the bytes end first. Attributes with an empty key are left out. Each
round takes at least one byte. -/
def attributesFrom : Nat → List UInt8 → List (List UInt8 × List UInt8) →
    Option (List (List UInt8 × List UInt8) × List UInt8)
  | 0, _, _ => none
  | _ + 1, [], _ => none
  | _ + 1, 0x3e :: rest, acc => some (acc, rest)
  | fuel + 1, cs, acc =>
    let (key, afterKey) := attributeKey cs
    let (value, afterValue) := attributeValue afterKey
    let acc := if key.isEmpty then acc else acc ++ [(key.map lowerByte, unescapeReferences (lineFeeds value))]
    match afterValue.dropWhile isMarkupBlank with
    | [] => none
    | rest => attributesFrom fuel rest acc

/-- A tag whose name starts the bytes, and the bytes after its `>`; `none`
when the bytes end inside it. -/
def readTag (cs : List UInt8) : Option (MarkupTag × List UInt8) :=
  let name := cs.takeWhile fun b => !isMarkupBlank b && b != 0x2f && b != 0x3e
  match cs.drop name.length with
  | [] => none
  | b :: rest =>
    let afterName := if isMarkupBlank b then rest else b :: rest
    match afterName.dropWhile isMarkupBlank with
    | [] => none
    | body =>
      (attributesFrom (body.length + 1) body []).map fun (attributes, after) =>
        ({ name := name.map lowerByte, attributes }, after)

/-- The bytes after the next `>`, or none left. -/
def afterCloseAngle (cs : List UInt8) : List UInt8 :=
  (cs.dropWhile (· != 0x3e)).drop 1

/-- The bytes after a comment whose `<!--` was read: it ends at `-->`, at
`--!>`, or at a `>` or `->` right at its start. -/
def afterComment (cs : List UInt8) : List UInt8 :=
  go cs 0 true
where
  /-- Reads on with the number of dashes just passed and whether nothing
  else was read yet. -/
  go : List UInt8 → Nat → Bool → List UInt8
    | [], _, _ => []
    | 0x2d :: rest, dashes, start => go rest (dashes + 1) start
    | 0x3e :: rest, dashes, start =>
      if 2 ≤ dashes || start then rest else go rest 0 false
    | 0x21 :: rest, dashes, _ =>
      if 2 ≤ dashes then
        match rest with
        | [] => []
        | 0x3e :: after => after
        | 0x2d :: after => go after 1 false
        | _ :: after => go after 0 false
      else go rest 0 false
    | _ :: rest, _, _ => go rest 0 false

/-- The elements whose content is raw text. -/
def rawTextElements : List String :=
  ["iframe", "noembed", "noframes", "noscript", "plaintext", "script", "style", "textarea", "title",
   "xmp"]

/-- The bytes of an ASCII text. -/
def textBytes (s : String) : List UInt8 := s.toList.map fun c => c.toNat.toUInt8

/-- Whether bytes start with the end tag of an element, in any case,
followed by a blank, `/` or `>`. -/
def startsEndTag (name : List UInt8) (cs : List UInt8) : Bool :=
  match cs with
  | 0x3c :: 0x2f :: rest =>
    (name.length < rest.length) && (rest.take name.length).map lowerByte == name &&
      (match rest.drop name.length with
       | b :: _ => isMarkupBlank b || b == 0x2f || b == 0x3e
       | [] => false)
  | _ => false

/-- The bytes from the end tag of a raw text element on, if it has one. -/
def rawTextEnd (name : List UInt8) : List UInt8 → Option (List UInt8)
  | [] => none
  | b :: rest => if startsEndTag name (b :: rest) then some (b :: rest) else rawTextEnd name rest

/-- The encoding of a label, when it names one. -/
def labelled (label : List UInt8) : Option Encoding :=
  labelEncoding (Encoding.utf8.decode label)

/-- The charset a `content` attribute names after `charset=`, unquoted or in
quotes; empty when it names none. -/
def contentCharset (value : List UInt8) : List UInt8 :=
  go (value.length + 1) value
where
  /-- Looks for `charset` from the start of the bytes on. -/
  go : Nat → List UInt8 → List UInt8
    | 0, _ => []
    | fuel + 1, s =>
      match findAfter (textBytes "charset") s with
      | none => []
      | some after =>
        match after.dropWhile isMarkupBlank with
        | 0x3d :: rest =>
          match rest.dropWhile isMarkupBlank with
          | [] => []
          | q :: more =>
            if q == 0x22 || q == 0x27 then
              let inner := more.takeWhile (· != q)
              if inner.length < more.length then inner else []
            else (q :: more).takeWhile fun b => b != 0x3b && !isMarkupBlank b
        | other => go fuel other
  /-- The bytes after the first place a word stands in bytes. -/
  findAfter (word : List UInt8) : List UInt8 → Option (List UInt8)
    | [] => if word.isEmpty then some [] else none
    | b :: rest =>
      if word.isPrefixOf (b :: rest) then some ((b :: rest).drop word.length) else findAfter word rest

/-- Whether a `meta` element must also say `http-equiv="content-type"`,
must not, or has not said how it declares an encoding. -/
inductive PragmaNeed where
  | unknown
  | needed
  | notNeeded
  deriving DecidableEq

/-- What the attributes of a `meta` element say so far: the keys seen, a
content-type pragma, how the encoding was declared, and the encoding. -/
structure MetaReading where
  seen : List (List UInt8) := []
  pragma : Bool := false
  need : PragmaNeed := .unknown
  encoding : Option Encoding := none

/-- Takes one attribute of a `meta` element; a repeated key is passed over. -/
def MetaReading.take (r : MetaReading) (pair : List UInt8 × List UInt8) : MetaReading :=
  let (key, value) := pair
  if r.seen.contains key then r
  else
    let r := { r with seen := r.seen ++ [key] }
    let value := value.map lowerByte
    if key == textBytes "http-equiv" then
      if value == textBytes "content-type" then { r with pragma := true } else r
    else if key == textBytes "content" then
      if r.encoding.isSome then r
      else
        let name := contentCharset value
        if name.isEmpty then r
        else match labelled name with
          | some e => { r with encoding := some e, need := .needed }
          | none => { r with encoding := none }
    else if key == textBytes "charset" then
      { r with encoding := labelled value, need := .notNeeded }
    else r

/-- The encoding a tag declares: only a `meta` element does, as the module
header says. -/
def MarkupTag.declaredEncoding (t : MarkupTag) : Option Encoding :=
  if t.name != textBytes "meta" then none
  else
    let r := t.attributes.foldl MetaReading.take {}
    if r.need == .unknown || (r.need == .needed && !r.pragma) then none
    else r.encoding.map fun
      | .utf16 _ _ => .utf8
      | e => e

/-- The raw text element a start tag opens, if any. -/
def rawTextOf (t : MarkupTag) : Option (List UInt8) :=
  if rawTextElements.any (fun n => textBytes n == t.name) then some t.name else none

/-- Reads markup for the first `meta` element that declares an encoding;
`raw` is the raw text element being read, if any. Each round takes at least
one byte. -/
def metaScan : Nat → Option (List UInt8) → List UInt8 → Option Encoding
  | 0, _, _ => none
  | fuel + 1, some raw, cs =>
    if raw == textBytes "plaintext" then none
    else match rawTextEnd raw cs with
      | some rest => metaScan fuel none rest
      | none => none
  | fuel + 1, none, cs =>
    match cs.dropWhile (· != 0x3c) with
    | [] | [_] => none
    | _ :: c :: more =>
      if isAsciiLetter c then
        match readTag (c :: more) with
        | none => none
        | some (tag, rest) =>
          match tag.declaredEncoding with
          | some e => some e
          | none => metaScan fuel (rawTextOf tag) rest
      else if c == 0x2f then
        match more with
        | [] => none
        | 0x3e :: rest => metaScan fuel none rest
        | d :: rest =>
          if isAsciiLetter d then
            match readTag (d :: rest) with
            | none => none
            | some (_, after) => metaScan fuel none after
          else metaScan fuel none (afterCloseAngle (d :: rest))
      else if c == 0x21 then
        match more with
        | 0x2d :: 0x2d :: rest => metaScan fuel none (afterComment rest)
        | _ => metaScan fuel none (afterCloseAngle more)
      else if c == 0x3f then metaScan fuel none (afterCloseAngle more)
      else metaScan fuel none (c :: more)

/-- The encoding the first `meta` element of bytes declares, if any. -/
def metaCharset (data : List UInt8) : Option Encoding :=
  metaScan (2 * data.length + 2) none data

end CriticalCss.Content

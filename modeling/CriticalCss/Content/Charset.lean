import CriticalCss.Content.Sniff
import CriticalCss.Content.MetaCharset
import CriticalCss.Text.Encoding.Names
/-!
# The encoding of a stylesheet

A stylesheet's bytes are read as text in the first encoding that one of
these names, in order:

1. a byte order mark among its first bytes: `FE FF` for UTF-16 big-endian,
   `FF FE` for UTF-16 little-endian, `EF BB BF` for UTF-8;
2. the charset parameter of its media type, as a web label;
3. an `@charset "name";` rule at its very start (after a UTF-8 byte order
   mark), when the media type has no charset: the rule is read into the
   media type as its charset, so it goes through the same reading as in 2;
4. the encoding an HTML `meta` element among the first 1024 bytes declares;
5. UTF-8, when the first 1024 bytes, less a character cut off at their end,
   hold a byte from 0x80 and are well-formed UTF-8;
6. windows-1252 otherwise.

An encoding chosen for all stylesheets takes the place of all of these. A
byte order mark left at the start of the text is dropped.

## Main definitions

* `declaredCharset`: the name an `@charset` rule declares.
* `withCharsetRule`: a media type with the declared charset added.
* `determineEncoding`: the encoding of a stylesheet.
* `decodeSheet`: the text of a stylesheet.
-/

namespace CriticalCss.Content

open CriticalCss.Text

/-- The blanks of the `@charset` rule: tab, line feed, form feed, carriage
return and space. -/
def isRuleBlank (b : UInt8) : Bool :=
  b == 0x09 || b == 0x0a || b == 0x0c || b == 0x0d || b == 0x20

/-- The name an `@charset "name";` rule at the very start of bytes declares:
`@charset`, one or more blanks, a name in double quotes that holds at least
one byte, blanks and a semicolon. -/
def declaredCharset (data : List UInt8) : Option (List UInt8) :=
  let data := if holdsPrefix data then data.drop 3 else data
  let keyword := asciiBytes "@charset"
  if !keyword.isPrefixOf data then none
  else
    let rest := data.drop keyword.length
    let afterBlanks := rest.dropWhile isRuleBlank
    if afterBlanks.length == rest.length then none
    else match afterBlanks with
      | 0x22 :: rest =>
        let name := rest.takeWhile (· != 0x22)
        match rest.drop name.length with
        | 0x22 :: after =>
          if !name.isEmpty && (after.dropWhile isRuleBlank).head? == some 0x3b then some name else none
        | _ => none
      | _ => none
where
  /-- Whether bytes start with the UTF-8 byte order mark. -/
  holdsPrefix (data : List UInt8) : Bool := [0xef, 0xbb, 0xbf].isPrefixOf data

/-- A media type with the charset an `@charset` rule declares, when it
names no charset of its own and the stylesheet declares one. -/
def withCharsetRule (data : List UInt8) (contentType : String) : String :=
  match charsetOf contentType with
  | some cs => if cs.isEmpty then fromRule else contentType
  | none => fromRule
where
  /-- The media type the rule gives, or the one served. -/
  fromRule : String :=
    match declaredCharset data with
    | some name => "text/css; charset=" ++ Encoding.utf8.decode name
    | none => contentType

/-- Bytes less a UTF-8 character that their last three bytes start but do
not finish. -/
def dropCutCharacter (bs : List UInt8) : List UInt8 :=
  let n := bs.length
  let positions := (List.range (min 3 n)).map fun k => n - 1 - k
  match positions.find? (fun i => bs.getD i 0 < 0x80 || bs.getD i 0 &&& 0xc0 != 0x80) with
  | some i => if bs.getD i 0 < 0x80 then bs else bs.take i
  | none => bs

/-- The number of leading bytes that decide the encoding. -/
def encodingWindow : Nat := 1024

/-- The encoding of a stylesheet's bytes served with a media type. -/
def determineEncoding (data : List UInt8) (contentType : String) : Encoding :=
  let content := data.take encodingWindow
  if [0xfe, 0xff].isPrefixOf content then .utf16 true false
  else if [0xff, 0xfe].isPrefixOf content then .utf16 false false
  else if [0xef, 0xbb, 0xbf].isPrefixOf content then .utf8
  else
    match (charsetOf contentType).bind labelEncoding with
    | some e => e
    | none =>
      match metaCharset content with
      | some e => e
      | none =>
        let content := dropCutCharacter content
        if content.any (· ≥ 0x80) && utf8Valid content then .utf8 else .charmap .windows1252

/-- The text of a stylesheet's bytes, served with a media type, in the
encoding chosen for all stylesheets or else in its own; a leading byte order
mark is dropped. -/
def decodeSheet (forced : Option Encoding) (data : List UInt8) (contentType : String) : String :=
  let enc := forced.getD (determineEncoding data (withCharsetRule data contentType))
  let text := enc.decode data
  if text.startsWith "\uFEFF" then (text.drop 1).toString else text

end CriticalCss.Content

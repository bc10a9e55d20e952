import CriticalCss.Text.Base64

/-!
# Data addresses

A `data:` address carries its content in itself: `data:` and a media type
with parameters, an optional `;base64`, a comma, and the content, in base 64
or percent-encoded. It is written again in its shorter form.

Reading: the media type and its parameters are the parts before the comma,
split at `;` and `=` with the blanks around each part dropped; a part
`base64` before a `;` or the comma marks the content as base 64 and takes
the last byte of the media type so far away: the separator before it. A media type that is empty or starts with `;` is
`text/plain`. Percent-encoded content decodes `%` and two hexadecimal digits
to a character below 128, and `+` to a blank; other escapes stay as they are.
An address without a comma, or whose base 64 does not read, is kept.

Writing: content of type `text/css` is compacted first. Then the content is
written in base 64 when that is strictly shorter than percent-encoding it,
and percent-encoded otherwise; when the address as written is strictly
shorter than both, it is kept. A leading `text/plain` is dropped from the
media type, and so is the first parameter `charset=us-ascii` (in any case)
that ends the type or is followed by another `;`.

## Main definitions

* `parseDataUri`: the media type and content of an address.
* `isDataEscaped`: the bytes that percent-encoding escapes.
* `minifyDataUri`: the shorter form of an address.
-/

namespace CriticalCss.Css

open CriticalCss.Text

/-- The UTF-8 bytes of a text. -/
def textBytes (s : String) : List UInt8 := s.toUTF8.toList

/-- Whether a byte is a blank that is trimmed: space, tab, line feed,
carriage return or form feed. -/
def isBlankByte (b : UInt8) : Bool :=
  b == 0x20 || b == 0x09 || b == 0x0a || b == 0x0d || b == 0x0c

/-- Bytes without blanks at either end. -/
def trimBlankBytes (bs : List UInt8) : List UInt8 :=
  ((bs.dropWhile isBlankByte).reverse.dropWhile isBlankByte).reverse

/-- ASCII lower case of a byte. -/
def lowerByte (b : UInt8) : UInt8 :=
  if 0x41 ≤ b && b ≤ 0x5a then b + 0x20 else b

/-- Whether two byte strings are equal ignoring ASCII case. -/
def equalFoldBytes (a b : List UInt8) : Bool :=
  a.map lowerByte == b.map lowerByte

/-- The value of a hexadecimal digit byte. -/
def hexByteValue (b : UInt8) : Option Nat :=
  if 0x30 ≤ b && b ≤ 0x39 then some (b.toNat - 0x30)
  else if 0x41 ≤ b && b ≤ 0x46 then some (b.toNat - 0x41 + 10)
  else if 0x61 ≤ b && b ≤ 0x66 then some (b.toNat - 0x61 + 10)
  else none

/-- Percent-encoded bytes decoded: `%` and two hexadecimal digits of a value
below 128 become that byte, `+` becomes a blank, and everything else stays.
A decoded byte is not read again. -/
def decodePercent : List UInt8 → List UInt8
  | [] => []
  | [b] => [if b == 0x2b then 0x20 else b]
  | [b, c] => [if b == 0x2b then 0x20 else b, if c == 0x2b then 0x20 else c]
  | b :: h :: l :: rest =>
    let escaped : Option Nat := if b == 0x25 then
        match hexByteValue h, hexByteValue l with
        | some x, some y => if x * 16 + y < 128 then some (x * 16 + y) else none
        | _, _ => none
      else none
    match escaped with
    | some v => v.toUInt8 :: decodePercent rest
    | none => (if b == 0x2b then 0x20 else b) :: decodePercent (h :: l :: rest)

/-- The bytes that percent-encoding escapes: control bytes, the blank, `"`,
`#`, `%`, `&`, `<`, `>`, `[`, `\`, `]`, `^`, a backquote, `{`, `|`, `}`, DEL
and every byte of a character beyond ASCII. -/
def isDataEscaped (b : UInt8) : Bool :=
  b.toNat ≤ 0x20 || 0x7f ≤ b.toNat ||
    [0x22, 0x23, 0x25, 0x26, 0x3c, 0x3e, 0x5b, 0x5c, 0x5d, 0x5e, 0x60, 0x7b, 0x7c, 0x7d].contains b.toNat

/-- An upper-case hexadecimal digit as a byte. -/
def upperHexByte (n : Nat) : UInt8 :=
  if n < 10 then (0x30 + n).toUInt8 else (0x41 + n - 10).toUInt8

/-- Bytes percent-encoded: each escaped byte as `%` and two upper-case
hexadecimal digits. -/
def encodePercent (bs : List UInt8) : List UInt8 :=
  bs.flatMap fun b =>
    if isDataEscaped b then [0x25, upperHexByte (b.toNat / 16), upperHexByte (b.toNat % 16)] else [b]

/-- The media type built so far and whether the content is base 64, after
the parts of `rest` up to the comma; `none` when no comma comes. `part` is
the part being read. -/
def dataHeader : List UInt8 → List UInt8 → List UInt8 → Bool →
    Option (List UInt8 × Bool × List UInt8)
  | [], _, _, _ => none
  | b :: rest, part, media, base64 =>
    if b == 0x3d || b == 0x3b || b == 0x2c then
      let trimmed := trimBlankBytes part.reverse
      if b != 0x3d && trimmed == textBytes "base64" then
        let media := media.dropLast
        -- the separator stays at the front of the next part
        if b == 0x2c then some (media, true, rest)
        else dataHeader rest [b] media true
      else if b != 0x2c then dataHeader rest [] (media ++ trimmed ++ [b]) base64
      else some (media ++ trimmed, base64, rest)
    else dataHeader rest (b :: part) media base64

/-- The media type and content of a `data:` address, the content decoded;
`none` when the address has no comma or its base 64 does not read. -/
def parseDataUri (uri : List UInt8) : Option (List UInt8 × List UInt8) :=
  if uri.length ≤ 5 || uri.take 5 != textBytes "data:" then none
  else
    match dataHeader (uri.drop 5) [] [] false with
    | none => none
    | some (media, base64, content) =>
      let media := if media.isEmpty || media.head? == some 0x3b then textBytes "text/plain" else media
      if base64 then
        match decodeBase64 content with
        | .ok bs => some (media, bs)
        | .error _ => none
      else some (media, decodePercent content)

/-- The type of a media type without its parameters, in lower case: up to
the first `;` or blank from its fourth byte on, leading blanks skipped. -/
def mimeType (media : List UInt8) : List UInt8 :=
  let bs := media.dropWhile (· == 0x20)
  let cut := ((bs.drop 3).findIdx? fun b => b == 0x3b || b == 0x20).map (· + 3)
  (match cut with
    | some k => bs.take k
    | none => bs).map lowerByte

/-- The media type without the first parameter `charset=us-ascii`, in any
case, that ends the type or is followed by another `;`. -/
def dropAsciiCharset (media : List UInt8) : List UInt8 :=
  let param := textBytes ";charset=us-ascii"
  let n := param.length
  let at? := (List.range (media.length + 1 - n)).find? fun i =>
    let rest := media.drop i
    rest.head? == some 0x3b && equalFoldBytes (rest.take n) param &&
      (rest.length == n || (rest.drop n).head? == some 0x3b)
  match at? with
  | some i => media.take i ++ media.drop (i + n)
  | none => media

/-- The media type without a leading `text/plain`, in any case. -/
def dropPlainText (media : List UInt8) : List UInt8 :=
  let plain := textBytes "text/plain"
  if equalFoldBytes (media.take plain.length) plain && plain.length ≤ media.length then
    media.drop plain.length
  else media

/-- The shorter form of a `data:` address. `sheet` compacts the content of
a style sheet; content that is not valid text is kept. -/
def minifyDataUri (sheet : String → String) (uri : List UInt8) : List UInt8 :=
  match parseDataUri uri with
  | none => uri
  | some (media, content) =>
    let content :=
      if mimeType media == textBytes "text/css" then
        match String.fromUTF8? (ByteArray.mk content.toArray) with
        | some text => textBytes (sheet text)
        | none => content
      else content
    let base64Len := 7 + 4 * ((content.length + 2) / 3)
    let percentLen := content.length + 2 * (content.filter isDataEscaped).length
    if uri.length < base64Len && uri.length < percentLen then uri
    else
      let (media, body) :=
        if base64Len < percentLen then
          (media ++ textBytes ";base64", (encodeBase64 content).map fun c => c.toNat.toUInt8)
        else (media, encodePercent content)
      let media := dropAsciiCharset (dropPlainText media)
      textBytes "data:" ++ media ++ [0x2c] ++ body

end CriticalCss.Css

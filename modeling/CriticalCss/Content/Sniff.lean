import CriticalCss.Content.MediaType
/-!
# Content sniffing

The media type of content served without one is read from its first 512
bytes by the web's sniffing rules, tried in order; the first rule that
matches decides.

* Markup: after leading blanks (tab, line feed, form feed, carriage return,
  space), one of the HTML tag openings such as `<!DOCTYPE HTML`, `<HTML`,
  `<P` or `<!--`, compared without case for letters and followed by a space
  or `>`, gives HTML; `<?xml` after blanks gives XML.
* Fixed signatures at the start: PDF, PostScript, the byte order marks of
  UTF-16 and UTF-8 (as plain text in that charset), icons, bitmaps, GIF,
  WebP, PNG, JPEG, audio and video formats, fonts, archives and WebAssembly.
  Some compare only the bytes a mask selects.
* An MP4 box: a `ftyp` box whose size fits the content and is a multiple of
  four, with a brand starting `mp4`.
* Plain text: no control byte other than tab, line feed, form feed,
  carriage return and escape after the leading blanks.
* Anything else is `application/octet-stream`.

## Main definitions

* `sniffContentType`: the media type of content.
-/

namespace CriticalCss.Content

/-- The bytes of an ASCII text. -/
def asciiBytes (s : String) : List UInt8 := s.toList.map fun c => c.toNat.toUInt8

/-- The blanks that sniffing skips. -/
def isSniffBlank (b : UInt8) : Bool :=
  b == 0x09 || b == 0x0a || b == 0x0c || b == 0x0d || b == 0x20

/-- A rule of content sniffing. -/
inductive SniffRule where
  /-- An HTML tag opening after blanks, letters compared without case, then
  a space or `>`. -/
  | markup (tag : String)
  /-- Bytes at the start, each compared under a mask, after blanks when
  `skipBlanks`. -/
  | masked (pattern mask : List UInt8) (skipBlanks : Bool) (type : String)
  /-- Bytes at the start. -/
  | exact (pattern : List UInt8) (type : String)
  /-- An MP4 file-type box. -/
  | mp4
  /-- Text without binary control bytes. -/
  | plainText

/-- Whether content starts with bytes, each compared under a mask. -/
def matchesMasked : List UInt8 → List UInt8 → List UInt8 → Bool
  | [], _, _ => true
  | p :: ps, m :: ms, d :: ds => (d &&& m) == p && matchesMasked ps ms ds
  | _ :: _, [], _ => false
  | _ :: _, _ :: _, [] => false

/-- Whether content starts with an HTML tag opening followed by a space or
`>`; letters of the tag match either case. -/
def matchesMarkup (tag : List UInt8) (data : List UInt8) : Bool :=
  data.length ≥ tag.length + 1 &&
    (tag.zip data).all (fun (t, d) =>
      if 0x41 ≤ t && t ≤ 0x5a then (d &&& 0xdf) == t else d == t) &&
    (match data[tag.length]? with
     | some b => b == 0x20 || b == 0x3e
     | none => false)

/-- A big-endian number of four bytes. -/
def bigEndian32 (bs : List UInt8) : Nat :=
  bs.foldl (fun n b => n * 256 + b.toNat) 0

/-- Whether content starts with an MP4 file-type box with a brand that starts
`mp4`; the brand's version field is skipped. -/
def matchesMp4 (data : List UInt8) : Bool :=
  let boxSize := bigEndian32 (data.take 4)
  data.length ≥ 12 && data.length ≥ boxSize && boxSize % 4 == 0 &&
    (data.drop 4).take 4 == asciiBytes "ftyp" &&
    ((List.range ((boxSize - 8 + 3) / 4)).map (fun i => 8 + 4 * i)).any fun st =>
      st != 12 && (data.drop st).take 3 == asciiBytes "mp4"

/-- Whether bytes hold no control byte other than tab, line feed, form feed,
carriage return and escape. -/
def isPlainText (data : List UInt8) : Bool :=
  data.all fun b => !(b ≤ 0x08 || b == 0x0b || (0x0e ≤ b && b ≤ 0x1a) || (0x1c ≤ b && b ≤ 0x1f))

/-- The media type a rule gives content, after its leading blanks are known. -/
def SniffRule.apply (rule : SniffRule) (data afterBlanks : List UInt8) : Option String :=
  match rule with
  | .markup tag => if matchesMarkup (asciiBytes tag) afterBlanks then some "text/html; charset=utf-8" else none
  | .masked pattern mask skip type =>
    if pattern.length == mask.length && matchesMasked pattern mask (if skip then afterBlanks else data)
    then some type else none
  | .exact pattern type => if pattern.isPrefixOf data then some type else none
  | .mp4 => if matchesMp4 data then some "video/mp4" else none
  | .plainText => if isPlainText afterBlanks then some "text/plain; charset=utf-8" else none

/-- A mask of `n` full bytes. -/
def fullMask (n : Nat) : List UInt8 := List.replicate n 0xff

/-- The mask of a RIFF container: the tag, the size left out, the form. -/
def riffMask (formLength : Nat) : List UInt8 := fullMask 4 ++ List.replicate 4 0 ++ fullMask formLength

/-- The sniffing rules, in the order they are tried. -/
def sniffRules : List SniffRule :=
  ["<!DOCTYPE HTML", "<HTML", "<HEAD", "<SCRIPT", "<IFRAME", "<H1", "<DIV", "<FONT", "<TABLE", "<A",
    "<STYLE", "<TITLE", "<B", "<BODY", "<BR", "<P", "<!--"].map .markup ++
  [.masked (asciiBytes "<?xml") (fullMask 5) true "text/xml; charset=utf-8",
   .exact (asciiBytes "%PDF-") "application/pdf",
   .exact (asciiBytes "%!PS-Adobe-") "application/postscript",
   .masked [0xfe, 0xff, 0, 0] [0xff, 0xff, 0, 0] false "text/plain; charset=utf-16be",
   .masked [0xff, 0xfe, 0, 0] [0xff, 0xff, 0, 0] false "text/plain; charset=utf-16le",
   .masked [0xef, 0xbb, 0xbf, 0] [0xff, 0xff, 0xff, 0] false "text/plain; charset=utf-8",
   .exact [0, 0, 1, 0] "image/x-icon",
   .exact [0, 0, 2, 0] "image/x-icon",
   .exact (asciiBytes "BM") "image/bmp",
   .exact (asciiBytes "GIF87a") "image/gif",
   .exact (asciiBytes "GIF89a") "image/gif",
   .masked (asciiBytes "RIFF" ++ [0, 0, 0, 0] ++ asciiBytes "WEBPVP") (riffMask 6) false "image/webp",
   .exact [0x89, 0x50, 0x4e, 0x47, 0x0d, 0x0a, 0x1a, 0x0a] "image/png",
   .exact [0xff, 0xd8, 0xff] "image/jpeg",
   .masked (asciiBytes ".snd") (fullMask 4) false "audio/basic",
   .masked (asciiBytes "FORM" ++ [0, 0, 0, 0] ++ asciiBytes "AIFF") (riffMask 4) false "audio/aiff",
   .masked (asciiBytes "ID3") (fullMask 3) false "audio/mpeg",
   .masked (asciiBytes "OggS" ++ [0]) (fullMask 5) false "application/ogg",
   .masked (asciiBytes "MThd" ++ [0, 0, 0, 6]) (fullMask 8) false "audio/midi",
   .masked (asciiBytes "RIFF" ++ [0, 0, 0, 0] ++ asciiBytes "AVI ") (riffMask 4) false "video/avi",
   .masked (asciiBytes "RIFF" ++ [0, 0, 0, 0] ++ asciiBytes "WAVE") (riffMask 4) false "audio/wave",
   .mp4,
   .exact [0x1a, 0x45, 0xdf, 0xa3] "video/webm",
   .masked (List.replicate 34 0 ++ asciiBytes "LP") (List.replicate 34 0 ++ fullMask 2) false
     "application/vnd.ms-fontobject",
   .exact [0, 1, 0, 0] "font/ttf",
   .exact (asciiBytes "OTTO") "font/otf",
   .exact (asciiBytes "ttcf") "font/collection",
   .exact (asciiBytes "wOFF") "font/woff",
   .exact (asciiBytes "wOF2") "font/woff2",
   .exact [0x1f, 0x8b, 0x08] "application/x-gzip",
   .exact (asciiBytes "PK" ++ [3, 4]) "application/zip",
   .exact (asciiBytes "Rar!" ++ [0x1a, 0x07, 0x00]) "application/x-rar-compressed",
   .exact (asciiBytes "Rar!" ++ [0x1a, 0x07, 0x01, 0x00]) "application/x-rar-compressed",
   .exact [0x00, 0x61, 0x73, 0x6d] "application/wasm",
   .plainText]

/-- The number of leading bytes that sniffing reads. -/
def sniffLength : Nat := 512

/-- The media type of content by the sniffing rules. -/
def sniffContentType (content : List UInt8) : String :=
  let data := content.take sniffLength
  let afterBlanks := data.dropWhile isSniffBlank
  (sniffRules.findSome? (·.apply data afterBlanks)).getD "application/octet-stream"

end CriticalCss.Content

import CriticalCss.Content.Sniff
/-!
# Kinds of binary files

A binary file is told by its signature: bytes at fixed offsets, mostly at
the start. Kinds are tried by family: images, video, audio, fonts, office
documents, applications and last archives, since several document formats
are archives with a known first member. The first kind whose signature
matches names the content; empty content has no kind.

A few signatures need more than fixed bytes:

* Office Open XML documents are ZIP archives whose first member, or the
  third or fourth, lies under `word/`, `ppt/` or `xl/`.
* HEIF and AVIF images are ISO media files (a `ftyp` box that fits the
  content) whose major brand, or a compatible brand after `mif1` or `msf1`,
  is `heic` or `avif`.
* Matroska and WebM files carry their document type as an EBML string of
  tag `42 82` within the first 4096 bytes.
* Zstandard data may start with skippable frames, which are passed over.

## Main definitions

* `FileKind`: a kind of file, with its extension and media type.
* `FileKind.detect`: the kind of content, if it is binary.
-/

namespace CriticalCss.Content

/-- A kind of file: its usual extension and its media type. -/
structure FileKind where
  extension : String
  mediaType : String
  deriving DecidableEq, Repr

/-- Whether bytes hold a pattern at an offset. -/
def holdsAt (data : List UInt8) (offset : Nat) (pattern : List UInt8) : Bool :=
  pattern.isPrefixOf (data.drop offset)

/-- Whether bytes hold an ASCII text at an offset. -/
def holdsTextAt (data : List UInt8) (offset : Nat) (text : String) : Bool :=
  holdsAt data offset (asciiBytes text)

/-- The byte at an offset, or zero past the end. -/
def byteAt (data : List UInt8) (i : Nat) : UInt8 := data.getD i 0

/-- A little-endian number of four bytes at an offset. -/
def littleEndian32At (data : List UInt8) (offset : Nat) : Nat :=
  ((data.drop offset).take 4).foldr (fun b n => n * 256 + b.toNat) 0

/-- The first offset from `start` and before `start + span` where a ZIP
member header starts, counted from `start`. -/
def findMemberHeader (data : List UInt8) (start span : Nat) : Option Nat :=
  let window := (data.drop start).take span
  let sig : List UInt8 := [0x50, 0x4b, 0x03, 0x04]
  (List.range window.length).find? fun i => holdsAt window i sig

/-- The kind of Office Open XML document whose member name is at an offset. -/
def officeMemberAt (data : List UInt8) (offset : Nat) : Option String :=
  if holdsTextAt data offset "word/" then some "docx"
  else if holdsTextAt data offset "ppt/" then some "pptx"
  else if holdsTextAt data offset "xl/" then some "xlsx"
  else none

/-- The kind of Office Open XML document a ZIP archive holds: `docx`, `pptx`
or `xlsx` by the folder of its first, third or fourth member, `ooxml` when
the members are there but name no folder. -/
def officeDocument (data : List UInt8) : Option String :=
  if !holdsAt data 0 [0x50, 0x4b, 0x03, 0x04] then none
  else match officeMemberAt data 0x1e with
    | some k => some k
    | none =>
      if !(holdsTextAt data 0x1e "[Content_Types].xml" || holdsTextAt data 0x1e "_rels/.rels" ||
          holdsTextAt data 0x1e "docProps") then none
      else
        let start := littleEndian32At data 18 + 49
        match findMemberHeader data start 6000 with
        | none => none
        | some i =>
          let start := start + i + 4 + 26
          match findMemberHeader data start 6000 with
          | none => none
          | some i =>
            let start := start + i + 4 + 26
            match officeMemberAt data start with
            | some k => some k
            | none =>
              let start := start + 26
              match findMemberHeader data start 6000 with
              | none => some "ooxml"
              | some i => (officeMemberAt data (start + i + 4 + 26)).getD "ooxml" |> some

/-- Whether content is an ISO media file: a `ftyp` box that fits it. -/
def isIsoMedia (data : List UInt8) : Bool :=
  data.length ≥ 16 && holdsTextAt data 4 "ftyp" && data.length ≥ bigEndian32 (data.take 4)

/-- The major brand and the compatible brands of an ISO media file. -/
def isoBrands (data : List UInt8) : List UInt8 × List (List UInt8) :=
  if data.length < 17 then ([], [])
  else
    let boxSize := bigEndian32 (data.take 4)
    let compatible := ((List.range ((boxSize - 16 + 3) / 4)).map fun i => 16 + 4 * i).filterMap fun i =>
      if data.length ≥ i + 4 then some ((data.drop i).take 4) else none
    ((data.drop 8).take 4, compatible)

/-- Whether an ISO media file has a brand, as its major brand or as a
compatible brand after the image brands `mif1` or `msf1`. -/
def hasImageBrand (data : List UInt8) (brand : String) : Bool :=
  isIsoMedia data &&
    let (major, compatible) := isoBrands data
    major == asciiBytes brand ||
      ((major == asciiBytes "mif1" || major == asciiBytes "msf1") && compatible.contains (asciiBytes brand))

/-- Whether a Matroska file names its document type within its first 4096
bytes, as an EBML string of tag `42 82`. -/
def hasMatroskaType (data : List UInt8) (docType : String) : Bool :=
  let window := data.take 4096
  match (List.range window.length).find? (fun i => holdsTextAt window i docType) with
  | some i => i ≥ 3 && byteAt window (i - 3) == 0x42 && byteAt window (i - 2) == 0x82
  | none => false

/-- Whether content is Zstandard data, after skippable frames; at most
`fuel` frames are passed over. -/
def isZstandard : Nat → List UInt8 → Bool
  | 0, _ => false
  | fuel + 1, data =>
    if holdsAt data 0 [0x28, 0xb5, 0x2f, 0xfd] then true
    else if data.length < 8 then false
    else if littleEndian32At data 0 &&& 0xfffffff0 == 0x184d2a50 then
      let size := littleEndian32At data 4
      if data.length < 8 + size then false else isZstandard fuel (data.drop (8 + size))
    else false

/-- Whether content starts with a Mach-O header in either byte order. -/
def isMachO (data : List UInt8) : Bool :=
  [[0xfe, 0xed, 0xfa, 0xcf], [0xfe, 0xed, 0xfa, 0xce], [0xbe, 0xba, 0xfe, 0xca],
   [0xcf, 0xfa, 0xed, 0xfe], [0xce, 0xfa, 0xed, 0xfe], [0xca, 0xfe, 0xba, 0xbe]].any
    fun sig => holdsAt data 0 sig

/-- Whether content starts with a TIFF header in either byte order. -/
def hasTiffHeader (data : List UInt8) : Bool :=
  holdsAt data 0 [0x49, 0x49, 0x2a, 0x00] || holdsAt data 0 [0x4d, 0x4d, 0x00, 0x2a]

/-- Whether content is a Canon raw image: a TIFF header with `CR` and major
version 2 at offset 8. -/
def isCanonRaw (data : List UInt8) : Bool :=
  data.length > 10 && hasTiffHeader data && holdsAt data 8 [0x43, 0x52, 0x02]

/-- Whether content is a Dalvik executable. -/
def isDex (data : List UInt8) : Bool :=
  data.length > 36 && holdsAt data 0 [0x64, 0x65, 0x78, 0x0a] && byteAt data 36 == 0x70

/-- Whether an MP4 file-type box names one of the MP4 brands. -/
def hasMp4Brand (data : List UInt8) : Bool :=
  data.length > 11 && holdsTextAt data 4 "ftyp" &&
    ["avc1", "dash", "iso2", "iso3", "iso4", "iso5", "iso6", "isom", "mmp4", "mp41", "mp42", "mp4v",
     "mp71", "MSNV", "NDAS", "NDSC", "NSDC", "NDSH", "NDSM", "NDSP", "NDSS", "NDXC", "NDXH", "NDXM",
     "NDXP", "NDXS", "F4V ", "F4P "].any fun b => holdsTextAt data 8 b

/-- Whether content is an OLE compound file of an office format, told by the
bytes at offset 512 when there are more than 513 bytes. -/
def isOleDocument (data : List UInt8) (marker : List UInt8) : Bool :=
  holdsAt data 0 [0xd0, 0xcf, 0x11, 0xe0] && (data.length ≤ 513 || holdsAt data 512 marker)

/-- Whether a ZIP archive holds an OpenDocument file of a media type. -/
def isOpenDocument (data : List UInt8) (mediaType : String) : Bool :=
  holdsAt data 0 [0x50, 0x4b, 0x03, 0x04] && holdsTextAt data 30 ("mimetype" ++ mediaType)

/-- The kinds of binary files with their signatures, in the order they are
tried. -/
def fileKinds : List (FileKind × (List UInt8 → Bool)) :=
  -- images
  [(⟨"jpg", "image/jpeg"⟩, fun d => holdsAt d 0 [0xff, 0xd8, 0xff]),
   (⟨"jp2", "image/jp2"⟩, fun d =>
     d.length > 12 && holdsAt d 0 [0x00, 0x00, 0x00, 0x0c, 0x6a, 0x50, 0x20, 0x20, 0x0d, 0x0a, 0x87, 0x0a, 0x00]),
   (⟨"png", "image/png"⟩, fun d => holdsAt d 0 [0x89, 0x50, 0x4e, 0x47]),
   (⟨"gif", "image/gif"⟩, fun d => holdsAt d 0 [0x47, 0x49, 0x46]),
   (⟨"webp", "image/webp"⟩, fun d => holdsTextAt d 8 "WEBP"),
   (⟨"cr2", "image/x-canon-cr2"⟩, isCanonRaw),
   (⟨"tif", "image/tiff"⟩, fun d => d.length > 10 && hasTiffHeader d && !isCanonRaw d),
   (⟨"bmp", "image/bmp"⟩, fun d => holdsAt d 0 [0x42, 0x4d]),
   (⟨"jxr", "image/vnd.ms-photo"⟩, fun d => holdsAt d 0 [0x49, 0x49, 0xbc]),
   (⟨"psd", "image/vnd.adobe.photoshop"⟩, fun d => holdsTextAt d 0 "8BPS"),
   (⟨"ico", "image/vnd.microsoft.icon"⟩, fun d => holdsAt d 0 [0x00, 0x00, 0x01, 0x00]),
   (⟨"heif", "image/heif"⟩, fun d => hasImageBrand d "heic"),
   (⟨"dwg", "image/vnd.dwg"⟩, fun d => holdsTextAt d 0 "AC10"),
   (⟨"exr", "image/x-exr"⟩, fun d => holdsAt d 0 [0x76, 0x2f, 0x31, 0x01]),
   (⟨"avif", "image/avif"⟩, fun d => hasImageBrand d "avif"),
   -- video
   (⟨"mp4", "video/mp4"⟩, hasMp4Brand),
   (⟨"m4v", "video/x-m4v"⟩, fun d => d.length > 10 && holdsTextAt d 4 "ftypM4V"),
   (⟨"mkv", "video/x-matroska"⟩, fun d =>
     holdsAt d 0 [0x1a, 0x45, 0xdf, 0xa3] && hasMatroskaType d "matroska"),
   (⟨"webm", "video/webm"⟩, fun d => holdsAt d 0 [0x1a, 0x45, 0xdf, 0xa3] && hasMatroskaType d "webm"),
   (⟨"mov", "video/quicktime"⟩, fun d =>
     d.length > 15 &&
       (holdsAt d 0 [0x00, 0x00, 0x00, 0x14, 0x66, 0x74, 0x79, 0x70] || holdsTextAt d 4 "moov" ||
         holdsTextAt d 4 "mdat" || holdsTextAt d 12 "mdat")),
   (⟨"avi", "video/x-msvideo"⟩, fun d => d.length > 10 && holdsTextAt d 0 "RIFF" && holdsTextAt d 8 "AVI"),
   (⟨"wmv", "video/x-ms-wmv"⟩, fun d => holdsAt d 0 [0x30, 0x26, 0xb2, 0x75, 0x8e, 0x66, 0xcf, 0x11, 0xa6, 0xd9]),
   (⟨"mpg", "video/mpeg"⟩, fun d => holdsAt d 0 [0x00, 0x00, 0x01] && d.length > 3 &&
     0xb0 ≤ byteAt d 3 && byteAt d 3 ≤ 0xbf),
   (⟨"flv", "video/x-flv"⟩, fun d => holdsAt d 0 [0x46, 0x4c, 0x56, 0x01]),
   (⟨"3gp", "video/3gpp"⟩, fun d => d.length > 10 && holdsTextAt d 4 "ftyp3gp"),
   -- audio
   (⟨"mid", "audio/midi"⟩, fun d => holdsTextAt d 0 "MThd"),
   (⟨"mp3", "audio/mpeg"⟩, fun d => holdsTextAt d 0 "ID3" || (d.length > 2 && holdsAt d 0 [0xff, 0xfb])),
   (⟨"m4a", "audio/mp4"⟩, fun d => d.length > 10 && (holdsTextAt d 4 "ftypM4A" || holdsTextAt d 0 "M4A ")),
   (⟨"ogg", "audio/ogg"⟩, fun d => holdsTextAt d 0 "OggS"),
   (⟨"flac", "audio/x-flac"⟩, fun d => holdsTextAt d 0 "fLaC"),
   (⟨"wav", "audio/x-wav"⟩, fun d => d.length > 11 && holdsTextAt d 0 "RIFF" && holdsTextAt d 8 "WAVE"),
   (⟨"amr", "audio/amr"⟩, fun d => d.length > 11 && holdsAt d 0 [0x23, 0x21, 0x41, 0x4d, 0x52, 0x0a]),
   (⟨"aac", "audio/aac"⟩, fun d => holdsAt d 0 [0xff, 0xf1] || holdsAt d 0 [0xff, 0xf9]),
   (⟨"aiff", "audio/x-aiff"⟩, fun d => d.length > 11 && holdsTextAt d 0 "FORM" && holdsTextAt d 8 "AIFF"),
   -- fonts
   (⟨"woff", "application/font-woff"⟩, fun d => holdsAt d 0 [0x77, 0x4f, 0x46, 0x46, 0x00, 0x01, 0x00, 0x00]),
   (⟨"woff2", "application/font-woff"⟩, fun d => holdsAt d 0 [0x77, 0x4f, 0x46, 0x32, 0x00, 0x01, 0x00, 0x00]),
   (⟨"ttf", "application/font-sfnt"⟩, fun d => holdsAt d 0 [0x00, 0x01, 0x00, 0x00, 0x00]),
   (⟨"otf", "application/font-sfnt"⟩, fun d => holdsAt d 0 [0x4f, 0x54, 0x54, 0x4f, 0x00]),
   -- documents
   (⟨"doc", "application/msword"⟩, fun d => isOleDocument d [0xec, 0xa5]),
   (⟨"docx", "application/vnd.openxmlformats-officedocument.wordprocessingml.document"⟩,
     fun d => officeDocument d == some "docx"),
   (⟨"xls", "application/vnd.ms-excel"⟩, fun d => isOleDocument d [0x09, 0x08]),
   (⟨"xlsx", "application/vnd.openxmlformats-officedocument.spreadsheetml.sheet"⟩,
     fun d => officeDocument d == some "xlsx"),
   (⟨"ppt", "application/vnd.ms-powerpoint"⟩, fun d => isOleDocument d [0xa0, 0x46]),
   (⟨"pptx", "application/vnd.openxmlformats-officedocument.presentationml.presentation"⟩,
     fun d => officeDocument d == some "pptx"),
   (⟨"odp", "application/vnd.oasis.opendocument.presentation"⟩,
     fun d => isOpenDocument d "application/vnd.oasis.opendocument.presentation"),
   (⟨"ods", "application/vnd.oasis.opendocument.spreadsheet"⟩,
     fun d => isOpenDocument d "application/vnd.oasis.opendocument.spreadsheet"),
   (⟨"odt", "application/vnd.oasis.opendocument.text"⟩,
     fun d => isOpenDocument d "application/vnd.oasis.opendocument.text"),
   -- applications
   (⟨"wasm", "application/wasm"⟩, fun d => holdsAt d 0 [0x00, 0x61, 0x73, 0x6d, 0x01, 0x00, 0x00, 0x00]),
   (⟨"dex", "application/vnd.android.dex"⟩, isDex),
   (⟨"dey", "application/vnd.android.dey"⟩, fun d =>
     d.length > 100 && holdsAt d 0 [0x64, 0x65, 0x79, 0x0a, 0x30, 0x33, 0x36, 0x00] &&
       isDex ((d.drop 40).take 60)),
   -- archives
   (⟨"epub", "application/epub+zip"⟩, fun d =>
     holdsAt d 0 [0x50, 0x4b, 0x03, 0x04] && holdsTextAt d 4 "mimetypeapplication/epub+zip"),
   (⟨"zip", "application/zip"⟩, fun d =>
     d.length > 3 && holdsAt d 0 [0x50, 0x4b] && [3, 5, 7].contains (byteAt d 2) &&
       [4, 6, 8].contains (byteAt d 3)),
   (⟨"tar", "application/x-tar"⟩, fun d => d.length > 261 && holdsTextAt d 257 "ustar"),
   (⟨"rar", "application/vnd.rar"⟩, fun d =>
     d.length > 6 && holdsAt d 0 [0x52, 0x61, 0x72, 0x21, 0x1a, 0x07] && byteAt d 6 ≤ 1),
   (⟨"gz", "application/gzip"⟩, fun d => holdsAt d 0 [0x1f, 0x8b, 0x08]),
   (⟨"bz2", "application/x-bzip2"⟩, fun d => holdsTextAt d 0 "BZh"),
   (⟨"7z", "application/x-7z-compressed"⟩, fun d => holdsAt d 0 [0x37, 0x7a, 0xbc, 0xaf, 0x27, 0x1c]),
   (⟨"xz", "application/x-xz"⟩, fun d => holdsAt d 0 [0xfd, 0x37, 0x7a, 0x58, 0x5a, 0x00]),
   (⟨"zst", "application/zstd"⟩, fun d => isZstandard (d.length + 1) d),
   (⟨"pdf", "application/pdf"⟩, fun d => holdsTextAt d 0 "%PDF"),
   (⟨"exe", "application/vnd.microsoft.portable-executable"⟩, fun d => holdsTextAt d 0 "MZ"),
   (⟨"swf", "application/x-shockwave-flash"⟩, fun d =>
     d.length > 2 && (byteAt d 0 == 0x43 || byteAt d 0 == 0x46) && holdsTextAt d 1 "WS"),
   (⟨"rtf", "application/rtf"⟩, fun d => holdsTextAt d 0 "\x7b\\rtf"),
   (⟨"eot", "application/octet-stream"⟩, fun d =>
     d.length > 35 && holdsTextAt d 34 "LP" &&
       (holdsAt d 8 [0x02, 0x00, 0x01] || holdsAt d 8 [0x01, 0x00, 0x00] || holdsAt d 8 [0x02, 0x00, 0x02])),
   (⟨"ps", "application/postscript"⟩, fun d => holdsTextAt d 0 "%!"),
   (⟨"sqlite", "application/vnd.sqlite3"⟩, fun d => holdsTextAt d 0 "SQLi"),
   (⟨"nes", "application/x-nintendo-nes-rom"⟩, fun d => holdsAt d 0 [0x4e, 0x45, 0x53, 0x1a]),
   (⟨"crx", "application/x-google-chrome-extension"⟩, fun d => holdsTextAt d 0 "Cr24"),
   (⟨"cab", "application/vnd.ms-cab-compressed"⟩, fun d => holdsTextAt d 0 "MSCF" || holdsTextAt d 0 "ISc("),
   (⟨"deb", "application/vnd.debian.binary-package"⟩, fun d => holdsTextAt d 0 "!<arch>\ndebian-binary"),
   (⟨"ar", "application/x-unix-archive"⟩, fun d => holdsTextAt d 0 "!<arch>"),
   (⟨"Z", "application/x-compress"⟩, fun d => holdsAt d 0 [0x1f, 0xa0] || holdsAt d 0 [0x1f, 0x9d]),
   (⟨"lz", "application/x-lzip"⟩, fun d => holdsTextAt d 0 "LZIP"),
   (⟨"rpm", "application/x-rpm"⟩, fun d => d.length > 96 && holdsAt d 0 [0xed, 0xab, 0xee, 0xdb]),
   (⟨"elf", "application/x-executable"⟩, fun d => d.length > 52 && holdsAt d 0 [0x7f, 0x45, 0x4c, 0x46]),
   (⟨"dcm", "application/dicom"⟩, fun d => d.length > 131 && holdsTextAt d 128 "DICM"),
   (⟨"iso", "application/x-iso9660-image"⟩, fun d => d.length > 32773 && holdsTextAt d 32769 "CD001"),
   (⟨"macho", "application/x-mach-binary"⟩, isMachO)]

/-- The kind of content, if a binary signature matches; empty content has
none. -/
def FileKind.detect (data : List UInt8) : Option FileKind :=
  if data.isEmpty then none
  else (fileKinds.find? fun (_, test) => test data).map (·.1)

end CriticalCss.Content

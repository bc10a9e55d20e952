/-!
# Writing archives

An archive is written as a ZIP file with its members stored as they are,
uncompressed: for each member a local record (its header, name and bytes),
then the central directory with one record per member pointing back at its
local record, then the end record with the member count and the directory's
size and place. Numbers are little-endian; each member carries the CRC-32 of
its bytes, and the names are marked as UTF-8.

## Main definitions

* `crc32`: the checksum of bytes.
* `zipArchive`: the bytes of an archive of named members.
-/

namespace CriticalCss.Files

/-- A number as `width` bytes, least significant first. -/
def littleEndian (width value : Nat) : List UInt8 :=
  (List.range width).map fun i => (value / Nat.pow 256 i % 256).toUInt8

/-- One byte folded into a CRC-32 register, bit by bit, with the reflected
polynomial `0xEDB88320`. -/
def crcStep (crc : UInt32) (b : UInt8) : UInt32 :=
  (List.range 8).foldl (fun c _ => if c &&& 1 == 1 then (c >>> 1) ^^^ 0xEDB88320 else c >>> 1)
    (crc ^^^ b.toUInt32)

/-- The CRC-32 of bytes, as ZIP files carry it. -/
def crc32 (data : List UInt8) : UInt32 :=
  (data.foldl crcStep 0xFFFFFFFF) ^^^ 0xFFFFFFFF

/-- The fields a local record and a directory record share: version,
flags (UTF-8 names), method (stored), time and date, checksum, sizes and
name length. -/
def sharedFields (name data : List UInt8) : List UInt8 :=
  littleEndian 2 20 ++ littleEndian 2 0x0800 ++ littleEndian 2 0 ++ littleEndian 2 0 ++
    littleEndian 2 0x21 ++ littleEndian 4 (crc32 data).toNat ++ littleEndian 4 data.length ++
    littleEndian 4 data.length ++ littleEndian 2 name.length

/-- The local record of a member. -/
def localRecord (name data : List UInt8) : List UInt8 :=
  littleEndian 4 0x04034b50 ++ sharedFields name data ++ littleEndian 2 0 ++ name ++ data

/-- The directory record of a member whose local record starts at `offset`. -/
def directoryRecord (name data : List UInt8) (offset : Nat) : List UInt8 :=
  littleEndian 4 0x02014b50 ++ littleEndian 2 20 ++ sharedFields name data ++ littleEndian 2 0 ++
    littleEndian 2 0 ++ littleEndian 2 0 ++ littleEndian 2 0 ++ littleEndian 4 0 ++
    littleEndian 4 offset ++ name

/-- The end record: the member count, the directory's size and place. -/
def endRecord (count size offset : Nat) : List UInt8 :=
  littleEndian 4 0x06054b50 ++ littleEndian 2 0 ++ littleEndian 2 0 ++ littleEndian 2 count ++
    littleEndian 2 count ++ littleEndian 4 size ++ littleEndian 4 offset ++ littleEndian 2 0

/-- The bytes of an archive of named members, in order. -/
def zipArchive (members : List (String × List UInt8)) : List UInt8 :=
  let named := members.map fun (n, d) => (n.toUTF8.toList, d)
  let (locals, directory) := named.foldl (fun (locals, dir) (n, d) =>
    (locals ++ localRecord n d, dir ++ directoryRecord n d locals.length)) ([], [])
  locals ++ directory ++ endRecord named.length directory.length locals.length

end CriticalCss.Files

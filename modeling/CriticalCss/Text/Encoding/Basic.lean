import CriticalCss.Text.Utf8
import CriticalCss.Text.Encoding.SingleByte
import CriticalCss.Text.Encoding.Multibyte
/-!
# Character encodings

An encoding reads bytes as text. Malformed input never stops reading: each
byte that does not start a well-formed sequence reads as the replacement
character U+FFFD.

* UTF-8 accepts only shortest forms of scalar values; a bad byte reads as
  U+FFFD and reading goes on at the next byte.
* UTF-16 reads pairs of bytes in the given order, joins a lead surrogate
  with the trail surrogate after it, and reads any other surrogate and an
  odd last byte as U+FFFD. With `useBom` a leading byte order mark chooses
  the order and is dropped; otherwise a mark reads as U+FEFF.
* ASCII reads bytes from 0x80 as U+FFFD.
* The single-byte sets read each byte by their table.
* The multibyte encodings of Chinese, Japanese and Korean read by their
  tables, each by its own rules for malformed codes.
* The replacement encoding reads any input as one U+FFFD.
* x-user-defined reads bytes from 0x80 as U+F780 onwards.

## Main definitions

* `Encoding`: the encodings.
* `Encoding.decode`: bytes read as text.
* `utf8Valid`: whether bytes are well-formed UTF-8.
-/

namespace CriticalCss.Text

/-- The encodings. -/
inductive Encoding where
  | utf8
  | utf16 (bigEndian useBom : Bool)
  | ascii
  | charmap (c : Charmap)
  | latin1
  | shiftJis
  | eucJp
  | iso2022Jp
  | eucKr
  | gbk
  | gb18030
  | hzGb2312
  | big5
  | replacement
  | userDefined
  deriving BEq, Repr

/-- The sixteen-bit unit of two bytes in an order. -/
def unitOf (bigEndian : Bool) (a b : UInt8) : Nat :=
  if bigEndian then a.toNat * 256 + b.toNat else b.toNat * 256 + a.toNat

/-- The character at the start of UTF-16 bytes and how many bytes it takes. -/
def utf16Step (bigEndian : Bool) : List UInt8 → Char × Nat
  | a :: b :: rest =>
    let u := unitOf bigEndian a b
    if 0xd800 ≤ u && u < 0xe000 then
      match rest with
      | c :: d :: _ =>
        let v := unitOf bigEndian c d
        if 0xdc00 ≤ v && v < 0xe000 then
          if u < 0xdc00 then (Char.ofNat (0x10000 + (u - 0xd800) * 1024 + (v - 0xdc00)), 4)
          else ('�', 4)
        else ('�', 2)
      | _ => ('�', 2)
    else (Char.ofNat u, 2)
  | _ => ('�', 1)

/-- Bytes read by a reader that keeps a mode, at most `fuel` steps, after
the characters already read. Each step takes at least one byte. -/
def decodeModal {σ : Type} (step : σ → List UInt8 → σ × List Char × Nat) :
    σ → Nat → List UInt8 → Array Char → Array Char
  | _, 0, _, acc => acc
  | _, _ + 1, [], acc => acc
  | mode, fuel + 1, bs, acc =>
    let (mode, cs, n) := step mode bs
    decodeModal step mode fuel (bs.drop (max n 1)) (cs.foldl Array.push acc)

/-- Bytes read by a reader with a mode, starting in `start`. -/
def decodeFrom {σ : Type} (step : σ → List UInt8 → σ × List Char × Nat) (start : σ) (bs : List UInt8) : String :=
  String.ofList (decodeModal step start bs.length bs #[]).toList

/-- Bytes read by a reader without a mode. -/
def decodeMulti (step : List UInt8 → List Char × Nat) (bs : List UInt8) : String :=
  decodeFrom (fun (_ : Unit) bs => ((), step bs)) () bs

/-- Bytes read by a step function. -/
def decodeWith (step : List UInt8 → Char × Nat) (bs : List UInt8) : String :=
  decodeMulti (fun bs => let (c, n) := step bs; ([c], n)) bs

/-- Bytes read in an encoding. -/
def Encoding.decode (e : Encoding) (bs : List UInt8) : String :=
  match e with
  | .utf8 => decodeWith utf8Step bs
  | .utf16 big useBom =>
    match useBom, bs with
    | true, 0xfe :: 0xff :: rest => decodeWith (utf16Step true) rest
    | true, 0xff :: 0xfe :: rest => decodeWith (utf16Step false) rest
    | _, _ => decodeWith (utf16Step big) bs
  | .ascii => String.ofList (bs.map fun b => if b.toNat < 0x80 then Char.ofNat b.toNat else '�')
  | .latin1 => String.ofList (bs.map fun b => Char.ofNat b.toNat)
  | .charmap c => c.decode bs
  | .shiftJis => decodeMulti shiftJisStep bs
  | .eucJp => decodeMulti eucJpStep bs
  | .iso2022Jp => decodeFrom iso2022JpStep JisMode.ascii bs
  | .eucKr => decodeMulti eucKrStep bs
  | .gbk => decodeMulti (gbStep false) bs
  | .gb18030 => decodeMulti (gbStep true) bs
  | .hzGb2312 => decodeFrom hzStep HzMode.ascii bs
  | .big5 => decodeMulti big5Step bs
  | .replacement => "�"
  | .userDefined =>
    String.ofList (bs.map fun b => if b.toNat < 0x80 then Char.ofNat b.toNat else Char.ofNat (0xf780 + b.toNat - 0x80))

end CriticalCss.Text

import CriticalCss.Text.Encoding.Jis
import CriticalCss.Text.Encoding.Jis0212
import CriticalCss.Text.Encoding.Gbk
import CriticalCss.Text.Encoding.Big5
import CriticalCss.Text.Encoding.Hangul
/-!
# Reading multibyte encodings

Each reader takes the characters at the front of the bytes and says how many
bytes they took. Bytes below 0x80 are ASCII, except inside the shifted
modes of ISO-2022-JP and HZ-GB-2312. A malformed code reads as U+FFFD; when
its second byte is ASCII, that byte is left to be read on its own, so that
no ASCII character is lost to a broken code.

* GBK reads 0x80 as the euro sign and two-byte codes by the GBK table;
  GB18030 also reads four-byte codes, by the ranges below the supplementary
  planes and by counting from U+10000 above them.
* HZ-GB-2312 switches into GB mode with `~{` and out with `~}`; `~~` is a
  tilde, `~` before a line feed is dropped, and in GB mode a pair of bytes
  is read as the GBK code with both high bits set.
* Big5 reads two-byte codes by the Big5 table.
* EUC-KR reads two-byte codes by the Hangul table.
* EUC-JP reads JIS X 0208 codes, half-width katakana after 0x8E and JIS X
  0212 codes after 0x8F.
* ISO-2022-JP switches with escape sequences between ASCII (and JIS Roman,
  read as ASCII), half-width katakana, JIS X 0208 and JIS X 0212; a line
  feed ends a two-byte mode.
* Shift_JIS reads single-byte katakana from 0xA1 to 0xDF and two-byte codes
  by the JIS X 0208 table.

## Main definitions

* `gbStep`, `big5Step`, `eucKrStep`, `eucJpStep`, `shiftJisStep`: stateless
  readers.
* `HzMode`, `hzStep`, `JisMode`, `iso2022JpStep`: readers with a mode.
-/

namespace CriticalCss.Text

/-- The replacement character U+FFFD. -/
def replacementChar : Char := '�'

/-- A malformed code whose second byte is `b`: U+FFFD, taking `b` with it
unless `b` is ASCII. -/
def badPair (b : UInt8) : List Char × Nat :=
  ([replacementChar], if b.toNat < 0x80 then 1 else 2)

/-- The character of a table at a pointer, U+FFFD past its end. -/
def tableChar (table : Array Char) (pointer : Nat) : Char :=
  table.getD pointer replacementChar

/-- The characters at the front of GBK bytes, or GB18030 bytes when
`fourByte` holds, and how many bytes they take. -/
def gbStep (fourByte : Bool) : List UInt8 → List Char × Nat
  | [] => ([replacementChar], 1)
  | b0 :: rest =>
    let c0 := b0.toNat
    if c0 < 0x80 then ([Char.ofNat c0], 1)
    else if c0 == 0x80 then (['€'], 1)
    else if c0 == 0xff then ([replacementChar], 1)
    else match rest with
      | [] => ([replacementChar], 1)
      | b1 :: more =>
        let c1 := b1.toNat
        let two (trail : Nat) := ([tableChar gbkTable ((c0 - 0x81) * 190 + trail)], 2)
        if 0x40 ≤ c1 && c1 < 0x7f then two (c1 - 0x40)
        else if 0x80 ≤ c1 && c1 < 0xff then two (c1 - 0x41)
        else if fourByte && 0x30 ≤ c1 && c1 < 0x40 then
          match more with
          | b2 :: b3 :: _ =>
            let c2 := b2.toNat
            let c3 := b3.toNat
            if c2 < 0x81 || 0xff ≤ c2 || c3 < 0x30 || 0x3a ≤ c3 then ([replacementChar], 1)
            else
              let pointer := (((c0 - 0x81) * 10 + (c1 - 0x30)) * 126 + (c2 - 0x81)) * 10 + (c3 - 0x30)
              if pointer < 39420 then ([gbRangeChar pointer], 4)
              else if 189000 ≤ pointer && pointer < 189000 + 0x100000 then
                ([Char.ofNat (pointer - 189000 + 0x10000)], 4)
              else ([replacementChar], 1)
          | _ => ([replacementChar], 1)
        else ([replacementChar], 1)

/-- The modes of HZ-GB-2312. -/
inductive HzMode where
  | ascii
  | gb
  deriving DecidableEq

/-- The characters at the front of HZ-GB-2312 bytes in a mode, the mode
after them and how many bytes they take. -/
def hzStep (mode : HzMode) : List UInt8 → HzMode × List Char × Nat
  | [] => (mode, [replacementChar], 1)
  | b0 :: rest =>
    let c0 := b0.toNat
    if c0 ≥ 0x80 then (mode, [replacementChar], 1)
    else if c0 == 0x7e then
      match rest with
      | [] => (mode, [replacementChar], 1)
      | b1 :: _ =>
        match b1.toNat with
        | 0x7b => (.gb, [], 2)
        | 0x7d => (.ascii, [], 2)
        | 0x7e => (mode, ['~'], 2)
        | 0x0a => (mode, [], 2)
        | _ => (mode, [replacementChar], 2)
    else if mode == .ascii then (mode, [Char.ofNat c0], 1)
    else match rest with
      | [] => (mode, [replacementChar], 1)
      | b1 :: _ =>
        let c1 := b1.toNat
        let bad := (mode, [replacementChar], if c1 > 0x80 then 1 else 2)
        if c0 < 0x21 || 0x7e ≤ c0 || c1 < 0x21 || 0x7f ≤ c1 then bad
        else
          let ch := tableChar gbkTable ((c0 - 1) * 190 + (c1 + 0x3f))
          if ch == replacementChar then bad else (mode, [ch], 2)

/-- The four Big5 pointers that stand for a letter with two marks. -/
def big5Pairs (pointer : Nat) : Option (List Char) :=
  match pointer with
  | 1133 => some ['Ê', '̄']
  | 1135 => some ['Ê', '̌']
  | 1164 => some ['ê', '̄']
  | 1166 => some ['ê', '̌']
  | _ => none

/-- The characters at the front of Big5 bytes and how many bytes they take.
A trail byte below 0x40 is left to be read on its own; one from 0x7F to 0xA0
is taken with the lead byte. -/
def big5Step : List UInt8 → List Char × Nat
  | [] => ([replacementChar], 1)
  | b0 :: rest =>
    let c0 := b0.toNat
    if c0 < 0x80 then ([Char.ofNat c0], 1)
    else if c0 == 0x80 || c0 == 0xff then ([replacementChar], 1)
    else match rest with
      | [] => ([replacementChar], 1)
      | b1 :: _ =>
        let c1 := b1.toNat
        let two (trail : Nat) :=
          let pointer := (c0 - 0x81) * 157 + trail
          match big5Pairs pointer with
          | some cs => (cs, 2)
          | none => ([tableChar big5Table pointer], 2)
        if 0x40 ≤ c1 && c1 < 0x7f then two (c1 - 0x40)
        else if 0xa1 ≤ c1 && c1 < 0xff then two (c1 - 0x62)
        else if c1 < 0x40 then ([replacementChar], 1)
        else ([replacementChar], 2)

/-- The characters at the front of EUC-KR bytes and how many bytes they
take. Below the lead byte 0xC7 trail bytes run over the letters and from
0x81; from 0xC7 on they start at 0xA1. -/
def eucKrStep : List UInt8 → List Char × Nat
  | [] => ([replacementChar], 1)
  | b0 :: rest =>
    let c0 := b0.toNat
    if c0 < 0x80 then ([Char.ofNat c0], 1)
    else if c0 == 0x80 || c0 == 0xff then ([replacementChar], 1)
    else match rest with
      | [] => ([replacementChar], 1)
      | b1 :: _ =>
        let c1 := b1.toNat
        let valid :=
          if c0 < 0xc7 then (0x41 ≤ c1 && c1 ≤ 0x5a) || (0x61 ≤ c1 && c1 ≤ 0x7a) || (0x81 ≤ c1 && c1 ≤ 0xfe)
          else 0xa1 ≤ c1 && c1 ≤ 0xfe
        if !valid then badPair b1
        else
          let ch := tableChar hangulTable ((c0 - 0x81) * 190 + (c1 - 0x41))
          if ch == replacementChar then badPair b1 else ([ch], 2)

/-- The characters at the front of EUC-JP bytes and how many bytes they
take. -/
def eucJpStep : List UInt8 → List Char × Nat
  | [] => ([replacementChar], 1)
  | b0 :: rest =>
    let c0 := b0.toNat
    let isTrail (b : UInt8) := 0xa1 ≤ b.toNat && b.toNat ≤ 0xfe
    if c0 < 0x80 then ([Char.ofNat c0], 1)
    else if c0 == 0x8e then
      match rest with
      | [] => ([replacementChar], 1)
      | b1 :: _ =>
        let c1 := b1.toNat
        if c1 < 0xa1 then ([replacementChar], 1)
        else if c1 > 0xdf then ([replacementChar], if c1 == 0xff then 1 else 2)
        else ([Char.ofNat (c1 + 0xff61 - 0xa1)], 2)
    else if c0 == 0x8f then
      match rest with
      | b1 :: b2 :: _ =>
        if !isTrail b1 then ([replacementChar], 1)
        else if !isTrail b2 then ([replacementChar], 2)
        else ([tableChar jis0212Table ((b1.toNat - 0xa1) * 94 + (b2.toNat - 0xa1))], 3)
      | [b1] => ([replacementChar], if 0xa1 ≤ b1.toNat && b1.toNat < 0xfe then 2 else 1)
      | [] => ([replacementChar], 1)
    else if 0xa1 ≤ c0 && c0 ≤ 0xfe then
      match rest with
      | [] => ([replacementChar], 1)
      | b1 :: _ =>
        if !isTrail b1 then ([replacementChar], 1)
        else ([tableChar jisTable ((c0 - 0xa1) * 94 + (b1.toNat - 0xa1))], 2)
    else ([replacementChar], 1)

/-- The characters at the front of Shift_JIS bytes and how many bytes they
take. -/
def shiftJisStep : List UInt8 → List Char × Nat
  | [] => ([replacementChar], 1)
  | b0 :: rest =>
    let c0 := b0.toNat
    if c0 < 0x80 then ([Char.ofNat c0], 1)
    else if 0xa1 ≤ c0 && c0 < 0xe0 then ([Char.ofNat (c0 + 0xff61 - 0xa1)], 1)
    else if (0x81 ≤ c0 && c0 < 0xa0) || (0xe0 ≤ c0 && c0 < 0xfd) then
      let lead := if c0 < 0xa0 then c0 - 0x81 else c0 - 0xc1
      match rest with
      | [] => ([replacementChar], 1)
      | b1 :: _ =>
        let c1 := b1.toNat
        if c1 < 0x40 || c1 == 0x7f then ([replacementChar], 1)
        else if c1 ≥ 0xfd then ([replacementChar], 2)
        else
          let trail := if c1 < 0x7f then c1 - 0x40 else c1 - 0x41
          ([tableChar jisTable (lead * 188 + trail)], 2)
    else if c0 == 0x80 then ([Char.ofNat 0x80], 1)
    else ([replacementChar], 1)

/-- The modes of ISO-2022-JP. -/
inductive JisMode where
  | ascii
  | katakana
  | jis0208
  | jis0212
  deriving DecidableEq

/-- The distance of a byte above 0x21, counted in bytes that wrap around. -/
def jisOffset (b : Nat) : Nat := (b + 256 - 0x21) % 256

/-- The characters at the front of ISO-2022-JP bytes in a mode, the mode
after them and how many bytes they take. An escape sequence that names no
mode reads as U+FFFD and takes only the escape byte. -/
def iso2022JpStep (mode : JisMode) : List UInt8 → JisMode × List Char × Nat
  | [] => (mode, [replacementChar], 1)
  | b0 :: rest =>
    let c0 := b0.toNat
    if c0 ≥ 0x80 then (mode, [replacementChar], 1)
    else if c0 == 0x1b then
      match rest with
      | b1 :: b2 :: more =>
        match b1.toNat, b2.toNat with
        | 0x24, 0x40 | 0x24, 0x42 => (.jis0208, [], 3)
        | 0x24, 0x28 =>
          match more with
          | b3 :: _ => if b3.toNat == 0x44 then (.jis0212, [], 4) else (mode, [replacementChar], 1)
          | [] => (mode, [replacementChar], 1)
        | 0x28, 0x42 | 0x28, 0x4a => (.ascii, [], 3)
        | 0x28, 0x49 => (.katakana, [], 3)
        | _, _ => (mode, [replacementChar], 1)
      | _ => (mode, [replacementChar], 1)
    else match mode with
      | .ascii => (mode, [Char.ofNat c0], 1)
      | .katakana =>
        if c0 < 0x21 || 0x60 ≤ c0 then (mode, [replacementChar], 1)
        else (mode, [Char.ofNat (c0 + 0xff61 - 0x21)], 1)
      | _ =>
        if c0 == 0x0a then (.ascii, ['\n'], 1)
        else match rest with
          | [] => (mode, [replacementChar], 1)
          | b1 :: _ =>
            let pointer := jisOffset c0 * 94 + jisOffset b1.toNat
            let table := if mode == .jis0208 then jisTable else jis0212Table
            (mode, [tableChar table pointer], 2)

end CriticalCss.Text

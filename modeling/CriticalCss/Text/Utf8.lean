import CriticalCss.Text.Quote
/-!
# UTF-8 bytes

A text held as bytes need not be well-formed UTF-8. Read as characters, each
shortest-form sequence of a scalar value is its character, and every other
byte is a stray byte: it reads as U+FFFD, one byte wide, and is kept as it
is wherever the text is only copied.

## Main definitions

* `utf8Step`: the character at the start of bytes and its width.
* `utf8Valid`: whether bytes are well-formed UTF-8.
* `utf8Runes`: the characters of bytes, each with the bytes it came from.
* `decodeLossy`: bytes read as text, each stray byte as U+FFFD.
* `quoteBytes`: bytes in double quotes, stray bytes as `\x` escapes.
* `bytesLess`: the byte order of texts.
-/

namespace CriticalCss.Text

/-- The character at the start of UTF-8 bytes and how many bytes it takes;
a malformed start reads as U+FFFD of one byte. -/
def utf8Step : List UInt8 → Char × Nat
  | [] => ('�', 1)
  | b0 :: rest =>
    let n0 := b0.toNat
    let bad := ('�', 1)
    let cont (i : Nat) (lo hi : Nat) : Option Nat :=
      match rest[i]? with
      | some b => if lo ≤ b.toNat && b.toNat ≤ hi then some (b.toNat &&& 0x3f) else none
      | none => none
    if n0 < 0x80 then (Char.ofNat n0, 1)
    else if 0xc2 ≤ n0 && n0 ≤ 0xdf then
      match cont 0 0x80 0xbf with
      | some c1 => (Char.ofNat ((n0 &&& 0x1f) * 64 + c1), 2)
      | none => bad
    else if 0xe0 ≤ n0 && n0 ≤ 0xef then
      let (lo, hi) := if n0 == 0xe0 then (0xa0, 0xbf) else if n0 == 0xed then (0x80, 0x9f) else (0x80, 0xbf)
      match cont 0 lo hi, cont 1 0x80 0xbf with
      | some c1, some c2 => (Char.ofNat ((n0 &&& 0x0f) * 4096 + c1 * 64 + c2), 3)
      | _, _ => bad
    else if 0xf0 ≤ n0 && n0 ≤ 0xf4 then
      let (lo, hi) := if n0 == 0xf0 then (0x90, 0xbf) else if n0 == 0xf4 then (0x80, 0x8f) else (0x80, 0xbf)
      match cont 0 lo hi, cont 1 0x80 0xbf, cont 2 0x80 0xbf with
      | some c1, some c2, some c3 => (Char.ofNat ((n0 &&& 0x07) * 262144 + c1 * 4096 + c2 * 64 + c3), 4)
      | _, _, _ => bad
    else bad

/-- Whether bytes are well-formed UTF-8; at most `fuel` characters are read. -/
def utf8ValidFor : Nat → List UInt8 → Bool
  | 0, bs => bs.isEmpty
  | _ + 1, [] => true
  | fuel + 1, b :: rest =>
    let (_, n) := utf8Step (b :: rest)
    if n == 1 && b.toNat ≥ 0x80 then false else utf8ValidFor fuel ((b :: rest).drop n)

/-- Whether bytes are well-formed UTF-8. -/
def utf8Valid (bs : List UInt8) : Bool := utf8ValidFor bs.length bs

/-- The characters of bytes, each with the bytes it came from; at most
`fuel` of them. A stray byte is U+FFFD with that one byte. -/
def utf8RunesFor : Nat → List UInt8 → List (Char × List UInt8)
  | 0, _ => []
  | _ + 1, [] => []
  | fuel + 1, b :: rest =>
    let (c, n) := utf8Step (b :: rest)
    (c, (b :: rest).take n) :: utf8RunesFor fuel ((b :: rest).drop n)

/-- The characters of bytes, each with the bytes it came from. Every step
takes at least one byte, so as many steps as bytes read them all. -/
def utf8Runes (bs : List UInt8) : List (Char × List UInt8) := utf8RunesFor bs.length bs

/-- Whether a character read from bytes is a stray byte. -/
def isStray (r : Char × List UInt8) : Bool :=
  r.2.length == 1 && r.2.all (·.toNat ≥ 0x80)

/-- Bytes read as text, each stray byte as U+FFFD. -/
def decodeLossy (bs : List UInt8) : String := String.ofList ((utf8Runes bs).map (·.1))

/-- Bytes in double quotes with escapes, so that they read back exactly:
characters as `quote` writes them, stray bytes as `\x` and two digits.
With `asciiOnly` every character beyond ASCII is escaped. -/
def quoteBytes (asciiOnly : Bool) (bs : List UInt8) : String :=
  "\"" ++ String.join ((utf8Runes bs).map fun r =>
    if isStray r then "\\x" ++ hexDigits 2 (r.2.headD 0).toNat
    else escapeChar '"' asciiOnly r.1) ++ "\""

/-- Whether one text comes before another in byte order. -/
def bytesLess : List UInt8 → List UInt8 → Bool
  | [], [] => false
  | [], _ :: _ => true
  | _ :: _, [] => false
  | a :: as, b :: bs => a < b || (a == b && bytesLess as bs)

end CriticalCss.Text

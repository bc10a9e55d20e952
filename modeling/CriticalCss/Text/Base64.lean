/-!
# Base 64

Bytes written with the sixty-four digits `A`–`Z`, `a`–`z`, `0`–`9`, `+`
and `/`, three bytes to four digits, and a last group of one or two bytes
padded with `=` to four digits.

Reading back skips line breaks anywhere and takes groups of four digits. A
group may end in `==` after two digits or `=` after three, and then only
line breaks may follow; bits that a short group leaves over are ignored. The
first byte that cannot stand where it is ends the reading with its
position: a byte outside the digits, padding too early, a missing second
`=`, or text after the padding. A last group of one digit, or one of two or
three digits without its padding, is reported at its first digit.

## Main definitions

* `encodeBase64`: the digits of bytes.
* `decodeBase64`: the bytes of digits, or the position of the first byte
  that cannot stand where it is.
-/

namespace CriticalCss.Text

/-- The digits, in the order of their values. -/
def base64Alphabet : List Char :=
  "ABCDEFGHIJKLMNOPQRSTUVWXYZabcdefghijklmnopqrstuvwxyz0123456789+/".toList

/-- Bytes in base 64 with padding. -/
def encodeBase64 : List UInt8 → List Char
  | a :: b :: c :: rest =>
    let n := a.toNat * 65536 + b.toNat * 256 + c.toNat
    [n / 262144, n / 4096 % 64, n / 64 % 64, n % 64].map (base64Alphabet.getD · 'A') ++ encodeBase64 rest
  | [a, b] =>
    let n := a.toNat * 65536 + b.toNat * 256
    [n / 262144, n / 4096 % 64, n / 64 % 64].map (base64Alphabet.getD · 'A') ++ ['=']
  | [a] =>
    let n := a.toNat * 65536
    [n / 262144, n / 4096 % 64].map (base64Alphabet.getD · 'A') ++ ['=', '=']
  | [] => []

/-- The value of a digit. -/
def base64Digit (b : UInt8) : Option Nat :=
  if b.toNat < 0x80 then base64Alphabet.idxOf? (Char.ofNat b.toNat) else none

/-- Whether a byte is a line break, which reading skips. -/
def isLineByte (b : UInt8) : Bool := b == 0x0a || b == 0x0d

/-- The position after the line breaks from `si` on. -/
def skipLines (src : Array UInt8) : Nat → Nat → Nat
  | 0, si => si
  | fuel + 1, si => if si < src.size && isLineByte src[si]! then skipLines src fuel (si + 1) else si

/-- The bytes of up to four digits: one fewer than there are digits. -/
def base64Bytes (digits : List Nat) : List UInt8 :=
  let ds := digits ++ List.replicate (4 - digits.length) 0
  let v := ds.foldl (fun a d => a * 64 + d) 0
  ((List.range 3).map fun i => (v / Nat.pow 2 (16 - 8 * i) % 256).toUInt8).take (digits.length - 1)

/-- One group of digits from `si`: the position after it, its bytes and
whether reading is done; or the position of the byte that cannot stand. -/
def base64Group (src : Array UInt8) (si : Nat) : Except Nat (Nat × List UInt8 × Bool) :=
  let n := src.size
  let rec go : Nat → Nat → List Nat → Except Nat (Nat × List UInt8 × Bool)
    | 0, si, _ => .error si
    | fuel + 1, si, digits =>
      let j := digits.length
      if j == 4 then .ok (si, base64Bytes digits, si ≥ n)
      else if si ≥ n then
        if j == 0 then .ok (si, [], true) else .error (si - j)
      else
        let b := src[si]!
        match base64Digit b with
        | some d => go fuel (si + 1) (digits ++ [d])
        | none =>
          if isLineByte b then go fuel (si + 1) digits
          else if b != 0x3d then .error si
          else if j < 2 then .error si
          else
            let second : Except Nat Nat :=
              if j == 2 then
                let s := skipLines src n (si + 1)
                if s == n then .error n
                else if src[s]! != 0x3d then .error (s - 1)
                else .ok (s + 1)
              else .ok (si + 1)
            match second with
            | .error p => .error p
            | .ok si2 =>
              let s := skipLines src n si2
              if s < n then .error s
              else .ok (s, base64Bytes digits, true)
  go (n + 1) si []

/-- Bytes read back from base 64 with padding, or the position of the first
byte that cannot stand where it is. -/
def decodeBase64 (input : List UInt8) : Except Nat (List UInt8) :=
  let src := input.toArray
  let rec go : Nat → Nat → List UInt8 → Except Nat (List UInt8)
    | 0, _, acc => .ok acc
    | fuel + 1, si, acc =>
      if si ≥ src.size then .ok acc
      else match base64Group src si with
        | .error p => .error p
        | .ok (si', bytes, done) => if done then .ok (acc ++ bytes) else go fuel si' (acc ++ bytes)
  go (src.size + 1) 0 []

end CriticalCss.Text

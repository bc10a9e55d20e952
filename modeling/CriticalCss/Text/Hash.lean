/-!
# Checksums and digests

Three fingerprints of a byte string:

* Adler-32: two sums modulo 65521, the running sum of the bytes (from 1)
  and the sum of those running sums, packed as `b * 65536 + a`.
* SHA-1 and SHA-256: the message is padded with a one bit, zeros and its
  length in bits to a whole number of 64-byte blocks, and each block is
  mixed into the working words by the compression function of the digest;
  the digest is the final words, big-endian.

## Main definitions

* `adler32`: the Adler-32 checksum.
* `sha1`, `sha256`: the digests, as bytes.
* `hexBytes`: bytes as lower-case hexadecimal.
-/

namespace CriticalCss.Text

/-- The Adler-32 checksum of bytes. -/
def adler32 (bs : List UInt8) : Nat :=
  let (a, b) := bs.foldl (fun (a, b) x => let a := (a + x.toNat) % 65521; (a, (b + a) % 65521)) (1, 0)
  b * 65536 + a

/-- The message padded to whole 64-byte blocks: a one bit, zeros, and the
length in bits as a big-endian 64-bit number. -/
def padMessage (bs : List UInt8) : Array UInt8 :=
  let len := bs.length
  let zeros := (119 - len % 64) % 64
  let bits := 8 * len
  let tail : List UInt8 := (List.range 8).map fun i => (bits / Nat.pow 2 (8 * (7 - i)) % 256).toUInt8
  (bs ++ [(0x80 : UInt8)] ++ List.replicate zeros (0 : UInt8) ++ tail).toArray

/-- The big-endian word at a byte offset. -/
def wordAt (bs : Array UInt8) (i : Nat) : UInt32 :=
  (bs.getD i 0).toUInt32 <<< 24 ||| (bs.getD (i + 1) 0).toUInt32 <<< 16 |||
    (bs.getD (i + 2) 0).toUInt32 <<< 8 ||| (bs.getD (i + 3) 0).toUInt32

/-- A word rotated left. -/
def rotl (x : UInt32) (n : UInt32) : UInt32 := (x <<< n) ||| (x >>> (32 - n))

/-- A word rotated right. -/
def rotr (x : UInt32) (n : UInt32) : UInt32 := (x >>> n) ||| (x <<< (32 - n))

/-- Words as big-endian bytes. -/
def wordsBytes (ws : List UInt32) : List UInt8 :=
  ws.flatMap fun (w : UInt32) => [(w >>> 24).toUInt8, (w >>> 16).toUInt8, (w >>> 8).toUInt8, w.toUInt8]

/-- The words of a block extended by a rule to `n` words. -/
def extendWords (block : Array UInt32) (n : Nat) (rule : Array UInt32 → Nat → UInt32) : Array UInt32 :=
  (List.range (n - block.size)).foldl (fun w i => w.push (rule w (block.size + i))) block

/-- The sixteen words of the block at a byte offset. -/
def blockWords (msg : Array UInt8) (offset : Nat) : Array UInt32 :=
  ((List.range 16).map fun i => wordAt msg (offset + 4 * i)).toArray

/-- The SHA-1 compression of one block into the working words. -/
def sha1Block (h : Array UInt32) (w : Array UInt32) : Array UInt32 :=
  let w := extendWords w 80 fun w t => rotl (w[t - 3]! ^^^ w[t - 8]! ^^^ w[t - 14]! ^^^ w[t - 16]!) 1
  let (a, b, c, d, e) := (List.range 80).foldl (fun (a, b, c, d, e) t =>
    let (f, k) : UInt32 × UInt32 :=
      if t < 20 then ((b &&& c) ||| (~~~b &&& d), 0x5A827999)
      else if t < 40 then (b ^^^ c ^^^ d, 0x6ED9EBA1)
      else if t < 60 then ((b &&& c) ||| (b &&& d) ||| (c &&& d), 0x8F1BBCDC)
      else (b ^^^ c ^^^ d, 0xCA62C1D6)
    let temp := rotl a 5 + f + e + k + w[t]!
    (temp, a, rotl b 30, c, d)) (h[0]!, h[1]!, h[2]!, h[3]!, h[4]!)
  #[h[0]! + a, h[1]! + b, h[2]! + c, h[3]! + d, h[4]! + e]

/-- The SHA-1 digest of bytes. -/
def sha1 (bs : List UInt8) : List UInt8 :=
  let msg := padMessage bs
  let h := (List.range (msg.size / 64)).foldl (fun h i => sha1Block h (blockWords msg (64 * i)))
    #[0x67452301, 0xEFCDAB89, 0x98BADCFE, 0x10325476, 0xC3D2E1F0]
  wordsBytes h.toList

/-- The round constants of SHA-256. -/
def sha256Constants : Array UInt32 :=
  #[0x428a2f98, 0x71374491, 0xb5c0fbcf, 0xe9b5dba5, 0x3956c25b, 0x59f111f1, 0x923f82a4, 0xab1c5ed5,
    0xd807aa98, 0x12835b01, 0x243185be, 0x550c7dc3, 0x72be5d74, 0x80deb1fe, 0x9bdc06a7, 0xc19bf174,
    0xe49b69c1, 0xefbe4786, 0x0fc19dc6, 0x240ca1cc, 0x2de92c6f, 0x4a7484aa, 0x5cb0a9dc, 0x76f988da,
    0x983e5152, 0xa831c66d, 0xb00327c8, 0xbf597fc7, 0xc6e00bf3, 0xd5a79147, 0x06ca6351, 0x14292967,
    0x27b70a85, 0x2e1b2138, 0x4d2c6dfc, 0x53380d13, 0x650a7354, 0x766a0abb, 0x81c2c92e, 0x92722c85,
    0xa2bfe8a1, 0xa81a664b, 0xc24b8b70, 0xc76c51a3, 0xd192e819, 0xd6990624, 0xf40e3585, 0x106aa070,
    0x19a4c116, 0x1e376c08, 0x2748774c, 0x34b0bcb5, 0x391c0cb3, 0x4ed8aa4a, 0x5b9cca4f, 0x682e6ff3,
    0x748f82ee, 0x78a5636f, 0x84c87814, 0x8cc70208, 0x90befffa, 0xa4506ceb, 0xbef9a3f7, 0xc67178f2]

/-- The SHA-256 compression of one block into the working words. -/
def sha256Block (h : Array UInt32) (w : Array UInt32) : Array UInt32 :=
  let w := extendWords w 64 fun w t =>
    let x := w[t - 15]!
    let y := w[t - 2]!
    let s0 := rotr x 7 ^^^ rotr x 18 ^^^ (x >>> 3)
    let s1 := rotr y 17 ^^^ rotr y 19 ^^^ (y >>> 10)
    w[t - 16]! + s0 + w[t - 7]! + s1
  let init := (h[0]!, h[1]!, h[2]!, h[3]!, h[4]!, h[5]!, h[6]!, h[7]!)
  let (a, b, c, d, e, f, g, hh) := (List.range 64).foldl (fun (a, b, c, d, e, f, g, hh) t =>
    let s1 := rotr e 6 ^^^ rotr e 11 ^^^ rotr e 25
    let ch := (e &&& f) ^^^ (~~~e &&& g)
    let t1 := hh + s1 + ch + sha256Constants[t]! + w[t]!
    let s0 := rotr a 2 ^^^ rotr a 13 ^^^ rotr a 22
    let maj := (a &&& b) ^^^ (a &&& c) ^^^ (b &&& c)
    let t2 := s0 + maj
    (t1 + t2, a, b, c, d + t1, e, f, g)) init
  #[h[0]! + a, h[1]! + b, h[2]! + c, h[3]! + d, h[4]! + e, h[5]! + f, h[6]! + g, h[7]! + hh]

/-- The SHA-256 digest of bytes. -/
def sha256 (bs : List UInt8) : List UInt8 :=
  let msg := padMessage bs
  let h := (List.range (msg.size / 64)).foldl (fun h i => sha256Block h (blockWords msg (64 * i)))
    #[0x6a09e667, 0xbb67ae85, 0x3c6ef372, 0xa54ff53a, 0x510e527f, 0x9b05688c, 0x1f83d9ab, 0x5be0cd19]
  wordsBytes h.toList

/-- Bytes as lower-case hexadecimal, two digits each. -/
def hexBytes (bs : List UInt8) : String :=
  String.join (bs.map fun b =>
    String.ofList [Nat.digitChar (b.toNat / 16), Nat.digitChar (b.toNat % 16)])

end CriticalCss.Text

/-!
# Packed texts

Long tables of text that repeat themselves are stored packed: each repeated
stretch is written once and later replaced by a reference back to it. A
packed text is read from the left. A character other than `~` stands for
itself, and `~~` for one `~`; otherwise `~` starts a reference, written in
base 62 digits (`0`–`9`, `A`–`Z`, `a`–`z`). A reference whose first digit is
below 40 has five digits: the first three how far back from the end of what
was read the copy starts, the last two how many characters it copies. A
short reference has three: the first two, less 40 times 62 and plus one, how
far back the copy starts, and the third, plus four, how many characters it
copies. A copy may run into the characters it produces, so a short stretch
can be repeated many times.

Tables of characters in near order of code point are also stored delta
coded, each character by its distance from the one before it. An ASCII
character of such a text is a digit of `deltaDigits`, in base 90: a digit
`d` below a bound `single` stands for the character `d` code points after
the one before it, and any other digit `d` with the digit `e` after it for
the character `(d - single) * 90 + e - offset` code points after it, which
may lie before it. Any other character stands for itself.

The longest packed texts, all ASCII, are further range coded: a text is read as a number in
the base 90 digits of `deltaDigits` and split, character by character, in proportion to counts
that a model of the text keeps. The model counts, after each ASCII character, how often each one
has followed it so far: every count starts at one and grows by 7 each time its character is
read. The range of the number kept stays between `90 ^ 4` and `90 ^ 5` by reading one more digit
whenever it falls below. A packed text with a few characters outside ASCII is range coded with
`\x7f` in place of each, and they are kept apart, in order. A sequence of symbols from a larger
alphabet is range coded the same way, its model counting how often each symbol has been read.

A table whose pointers of one area hold, in order of code point, the characters of a range that
no other pointer holds is stored without them: they are found again as the gaps the rest leaves.

## Main definitions

* `unpack`: the text a packed text stands for.
* `unpackAfter`: the same, for a text packed after another one, which its
  references may copy from.
* `undelta`: the text a delta coded text stands for.
* `unrange`: the text a range coded text stands for.
* `unrangeIn`: the symbols a range coded text stands for.
* `unrangeWide`: the same, with its characters outside ASCII kept apart.
* `unrangeCodePoints`: characters range coded by their code points.
* `missingChars`, `fillArea`: a table completed from its gaps.
-/

namespace CriticalCss.Text

/-- The value of a base 62 digit. -/
def packedDigit (c : Char) : Nat :=
  let n := c.toNat
  if n < 58 then n - 48 else if n < 91 then n - 55 else n - 61

/-- Appends `n` characters, each copied from `d` places before the end. -/
def copyBack (d : Nat) : Nat → Array Char → Array Char
  | 0, out => out
  | n + 1, out => copyBack d n (out.push (out.getD (out.size - d) ' '))

/-- Reads the characters of a packed text after `out`. -/
def unpackChars : List Char → Array Char → Array Char
  | '~' :: '~' :: rest, out => unpackChars rest (out.push '~')
  | '~' :: a :: b :: c :: rest, out =>
    if packedDigit a < 40 then
      match rest with
      | x :: y :: rest =>
        let d := (packedDigit a * 62 + packedDigit b) * 62 + packedDigit c
        unpackChars rest (copyBack d (packedDigit x * 62 + packedDigit y) out)
      | _ => out
    else
      let d := (packedDigit a - 40) * 62 + packedDigit b + 1
      unpackChars rest (copyBack d (packedDigit c + 4) out)
  | ch :: rest, out => unpackChars rest (out.push ch)
  | [], out => out

/-- The text a packed text stands for. -/
def unpack (packed : String) : String :=
  String.ofList (unpackChars packed.toList #[]).toList

/-- The text a packed text stands for when read after the text `base`, whose characters its
references may copy. -/
def unpackAfter (base packed : String) : String :=
  String.ofList ((unpackChars packed.toList base.toList.toArray).toList.drop base.length)

/-- The digits of a delta coded text, by value: the printable ASCII characters, in order, but the
quote, the backslash, the braces and `~`. -/
def deltaDigits : List Char :=
  ((List.range 95).map fun i => Char.ofNat (32 + i)).filter fun c => !"\"\\\x7b\x7d~".contains c

/-- Reads the characters of a delta coded text after `out`, the last one read being `prev`. -/
def undeltaChars (single offset : Nat) : Char → List Char → Array Char → Array Char
  | _, [], out => out
  | prev, c :: rest, out =>
    if c.toNat < 0x80 then
      let d := deltaDigits.idxOf c
      if d < single then
        let ch := Char.ofNat (prev.toNat + d)
        undeltaChars single offset ch rest (out.push ch)
      else
        match rest with
        | e :: rest =>
          let ch := Char.ofNat (prev.toNat + (d - single) * 90 + deltaDigits.idxOf e - offset)
          undeltaChars single offset ch rest (out.push ch)
        | [] => out
    else undeltaChars single offset c rest (out.push c)

/-- The text a delta coded text stands for, with one-digit distances below `single` and two-digit
distances shifted by `offset`. -/
def undelta (single offset : Nat) (coded : String) : String :=
  String.ofList (undeltaChars single offset ' ' coded.toList #[]).toList

/-- The character whose counts hold the position `s`, after the counts before it: the character
and the sum of the counts before it. -/
def countAt (counts : Array Nat) (s : Nat) : Nat → Nat → Nat → Nat × Nat
  | 0, k, c => (k, c)
  | fuel + 1, k, c =>
    let f := counts.getD k 0
    if s < c + f then (k, c) else countAt counts s fuel (k + 1) (c + f)

/-- Reads digits while the range is below `90 ^ 4`; four readings always suffice. -/
def renormalize (range value : Nat) : Nat → List Nat → Nat × Nat × List Nat
  | 0, ds => (range, value, ds)
  | fuel + 1, ds =>
    if range < 65610000 then
      renormalize (range * 90) (value * 90 + ds.headD 0) fuel ds.tail
    else (range, value, ds)

/-- Reads `n` symbols of a range coded text after `out`, from an alphabet of `size` symbols, the
last symbol read being `prev`: `model` holds the counts in each context, `totals` their sums,
and `context` gives the context after a symbol. -/
def rangeChars (size : Nat) (context : Nat → Nat) (model : Array (Array Nat)) (totals : Array Nat)
    (prev range value : Nat) : Nat → List Nat → Array Char → Array Char
  | 0, _, out => out
  | n + 1, ds, out =>
    let x := context prev
    let counts := model.getD x #[]
    let total := totals.getD x size
    let r := range / total
    let (k, c) := countAt counts (min (value / r) (total - 1)) size 0 0
    let f := counts.getD k 1
    let (range, value, ds) :=
      renormalize (if c + f < total then r * f else range - r * c) (value - r * c) 4 ds
    rangeChars size context (model.modify x (·.modify k (· + 7))) (totals.modify x (· + 7)) k
      range value n ds (out.push (Char.ofNat k))

/-- The `n` symbols a range coded text stands for, from an alphabet of `size` symbols, in
`contexts` contexts given by `context`. -/
def unrangeIn (size contexts : Nat) (context : Nat → Nat) (n : Nat) (coded : String) : Array Char :=
  let ds := coded.toList.map deltaDigits.idxOf
  let value := (ds.take 5).foldl (fun v d => v * 90 + d) 0
  rangeChars size context (Array.replicate contexts (Array.replicate size 1))
    (Array.replicate contexts size) 0 5904900000 value n (ds.drop 5) #[]

/-- The `n` characters a range coded text stands for. -/
def unrange (n : Nat) (coded : String) : String :=
  String.ofList (unrangeIn 128 128 id n coded).toList

/-- A text with each `\x7f` replaced by the next character of `wides`. -/
def fillWide : List Char → List Char → List Char
  | '\x7f' :: cs, w :: ws => w :: fillWide cs ws
  | c :: cs, ws => c :: fillWide cs ws
  | [], _ => []

/-- The `n` characters a range coded text stands for, with `wides` in place of its `\x7f`. -/
def unrangeWide (n : Nat) (coded wides : String) : String :=
  String.ofList (fillWide (unrange n coded).toList wides.toList)

/-- The `n` characters whose code points have as quotient by 256 the symbols of the range coded
text `high`, from an alphabet of `highs` symbols, and as remainder those of `low`. -/
def unrangeCodePoints (n highs : Nat) (high low : String) : String :=
  let quotients := (unrangeIn highs 1 (fun _ => 0) n high).toList
  let remainders := (unrangeIn 256 1 (fun _ => 0) n low).toList
  String.ofList ((quotients.zip remainders).map fun p => Char.ofNat (p.1.toNat * 256 + p.2.toNat))

/-- The characters from code point `lo` to below `hi` that `explicit` does not hold, in order. -/
def missingChars (lo hi : Nat) (explicit : List Char) : List Char :=
  let held := explicit.foldl (fun held c =>
    if lo ≤ c.toNat ∧ c.toNat < hi then held.setIfInBounds (c.toNat - lo) true else held)
    (Array.replicate (hi - lo) false)
  (List.range (hi - lo)).filterMap fun i =>
    if held.getD i true then none else some (Char.ofNat (lo + i))

/-- The characters of a table from pointer `p` on, after `out`: pointers in the area `inArea`
hold the characters of `missing` while they last, and the others those of `explicit`. -/
def fillArea (inArea : Nat → Bool) (p : Nat) (out : Array Char) :
    List Char → List Char → Array Char
  | m :: ms, e :: es =>
    if inArea p then fillArea inArea (p + 1) (out.push m) ms (e :: es)
    else fillArea inArea (p + 1) (out.push e) (m :: ms) es
  | [], es => out ++ es.toArray
  | ms, [] => out ++ ms.toArray
termination_by ms es => ms.length + es.length

end CriticalCss.Text

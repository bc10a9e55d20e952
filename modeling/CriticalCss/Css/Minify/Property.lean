import CriticalCss.Css.Minify.Background
/-!
# Rules of properties

Some properties have rules of their own, applied after every token took its
shortest form; a value of more than a hundred components is left as it is.

* `margin`, `padding` and `border-width` collapse their four sides;
* `font-weight` and `font` use numbers for `normal` and `bold`, `font` drops
  its defaults, and family names are written in lower case and without
  quotes when every word of them is an identifier and none a keyword;
* `border`, `outline`, `column-rule`, `text-decoration` and `text-emphasis`
  drop their defaults, and are `none` when nothing is left;
* `background` is shortened layer by layer;
* `box-shadow` drops zero blur and spread, and `initial` is `none`;
* colors take their shortest spelling, and `currentcolor` and `transparent`
  become the shorter keyword with the same meaning where there is one;
* `flex` and its parts use their short keywords;
* `unicode-range` merges its ranges.

## Main definitions

* `minifyFont`: the shortening of a `font` value.
* `minifyUnicodeRange`: the merging of code point ranges.
* `minifyProperty`: the rules of a property.
-/

namespace CriticalCss.Css

/-! ## Fonts -/

/-- Family names in lower case, and without quotes when every word of the
name is an identifier. -/
def minifyFamily (vs : List Component) : List Component :=
  vs.map fun c =>
    match c with
    | .token t =>
      if t.kind == .string && 2 < t.text.utf8ByteSize then
        let lower := lowerAscii t.text
        let inner := String.ofList (lower.toList.drop 1).dropLast
        if (inner.splitOn " ").all fun w => !w.isEmpty && isIdentText w then
          .token ⟨.string, inner⟩
        else .token ⟨.string, lower⟩
      else c
    | c => c

/-- Keywords that can only be a font size, or stand where one does. -/
def sizeOrWideKeywords : List String :=
  ["xx-small", "x-small", "small", "medium", "large", "x-large", "xx-large", "smaller",
   "larger", "inherit", "initial", "unset"]

/-- Where the font families start, going back from the part before the
last family word: the family ends the value, and names without quotes may
have several words, but a size or line height comes before. -/
def familyStart (vs : Array Component) : Nat → Nat
  | 0 => 0
  | i + 1 =>
    let cur := vs.getD (i + 1) default
    if (vs.getD i default).isSlash then i + 1
    else if !(cur.isKind .ident || cur.isKind .string) then i + 1
    else if cur.isIdentIn sizeOrWideKeywords then i + 1
    else familyStart vs i

/-- A family name starting with `-` in quotes, which older readers need. -/
def quoteLeadingDash (c : Component) : Component :=
  if c.lead.startsWith "-" then
    match c with
    | .token t => .token { t with text := "'" ++ t.text ++ "'" }
    | .function name args => .function ("'" ++ name ++ "'") args
  else c

/-- The style, variant and weight before the size, without `normal` and
`400`, and `bold` as `700`. -/
def fontLeadParts (vs : List Component) : List Component :=
  vs.filterMap fun c =>
    if c.isIdentIn ["normal"] then none
    else if c.isIdentIn ["bold"] then some (numberComponent "700")
    else if c matches .token ⟨.number, "400"⟩ then none
    else some c

/-- The shortening of a `font` value: the families as in `font-family`, a
line height of `normal` dropped, and `normal`, `400` and `bold` in the parts
before the size. -/
def minifyFont (vs : List Component) : List Component :=
  if vs.length ≤ 1 then vs
  else
    let last := match (vs.drop 2).findIdx? (·.isComma) with
      | some k => 2 + k - 1
      | none => vs.length - 1
    let i := familyStart vs.toArray (last - 1)
    let vs := vs.take (i + 1) ++ minifyFamily (vs.drop (i + 1))
    let vs := vs.take (i + 1) ++ (match vs.drop (i + 1) with
      | f :: rest => quoteLeadingDash f :: rest
      | [] => [])
    if i == 0 then vs
    else
      let arr := vs.toArray
      let lineHeight := 1 < i && (arr.getD (i - 1) default).isSlash
      let vs :=
        if lineHeight && (arr.getD i default).isIdentIn ["normal"] then vs.take (i - 1) ++ vs.drop (i + 1)
        else vs
      let size := if lineHeight then i - 2 else i
      fontLeadParts (vs.take size) ++ vs.drop size

/-! ## Lists of defaults -/

/-- Sides of a box collapsed to the fewest values that mean the same. -/
def collapseSides : List Component → List Component
  | [a, b] => if a == b then [a] else [a, b]
  | [a, b, c] => if a == b && a == c then [a] else if a == c then [a, b] else [a, b, c]
  | [a, b, c, d] =>
    if a == b && a == c && a == d then [a]
    else if a == c && b == d then [a, b]
    else if b == d then [a, b, c]
    else [a, b, c, d]
  | vs => vs

/-- A value without the keywords it may leave out, colors shortened, and
`none` when nothing is left. -/
def dropDefaults (defaults : List String) (vs : List Component) : List Component :=
  let kept := (vs.filter fun c => !c.isIdentIn defaults).map minifyColor
  if kept.isEmpty then [identComponent "none"] else kept

/-- The length parts of a shadow without a zero spread, and then without a
zero blur. -/
def shadowLengths (layer : List Component) : List Component :=
  let lengths (l : List Component) := (List.range l.length).filter fun k => (l.getD k default).isLength
  let idx := lengths layer
  let (layer, idx) :=
    match idx with
    | [_, _, _, k] => if (layer.getD k default).isZero then (layer.eraseIdx k, idx.take 3) else (layer, idx)
    | _ => (layer, idx)
  match idx with
  | [_, _, k] => if (layer.getD k default).isZero then layer.eraseIdx k else layer
  | _ => layer

/-- The shortening of one shadow: `initial` is `none`. -/
def minifyShadow : List Component → List Component
  | [] => []
  | [c] => if c.isIdentIn ["initial"] then [identComponent "none"] else shadowLengths [c]
  | layer => shadowLengths layer

/-! ## Colors -/

/-- The first component of a value changed. -/
def mapFirst (f : Component → Component) : List Component → List Component
  | c :: rest => f c :: rest
  | [] => []

/-- A color with `currentcolor` written as another keyword. -/
def currentColorAs (keyword : String) (c : Component) : Component :=
  if c.isIdentIn ["currentcolor"] then identComponent keyword else minifyColor c

/-- Border colors: `currentcolor` as `initial`, and the sides collapsed. -/
def minifyBorderColor (vs : List Component) : List Component :=
  collapseSides (vs.map (currentColorAs "initial"))

/-! ## Flexible boxes -/

/-- A zero dimension as the number zero. -/
def zeroLength (c : Component) : Component :=
  if c.isKind .dimension && c.isZero then numberComponent "0" else c

/-- The shortening of a `flex` value: a zero basis dropped, and the keywords
`initial`, `auto` and `none` for their three-part forms. -/
def minifyFlex : List Component → List Component
  | [a, b] => if a.isKind .number && !b.isKind .number && b.isZero then [a] else [a, b]
  | [a, b, c] =>
    if a.isKind .number && b.isKind .number && a.lead.length == 1 && b.lead.length == 1 then
      if c.isIdentIn ["auto"] then
        if a.lead == "0" && b.lead == "1" then [identComponent "initial"]
        else if a.lead == "1" && b.lead == "1" then [identComponent "auto"]
        else if a.lead == "0" && b.lead == "0" then [identComponent "none"]
        else [a, b, c]
      else if b.lead == "1" && c.isZero then [a]
      else if c.isZero then [a, b]
      else [a, b, zeroLength c]
    else [a, b, c]
  | vs => vs

/-- The first component, when it is `initial`, replaced by a value. -/
def initialAs (value : Component) : List Component → List Component
  | c :: rest => (if c.isIdentIn ["initial"] then value else c) :: rest
  | [] => []

/-! ## Unicode ranges -/

/-- The value of a hexadecimal digit, zero for any other character. -/
def rangeDigitValue (c : Char) : Nat :=
  if '0' ≤ c && c ≤ '9' then c.toNat - '0'.toNat
  else
    let l := c.toLower
    if 'a' ≤ l && l ≤ 'f' then l.toNat - 'a'.toNat + 10 else 0

/-- The code points a range token `U+…` stands for: a start, with `?`
standing for every digit from where it is on, or a start and an end; an end
below the start is the start. -/
def codePointRange (text : String) : Nat × Nat :=
  let cs := text.toList.drop 2
  let startText := cs.takeWhile (· != '-')
  let start := startText.foldl (fun acc c => acc * 16 + rangeDigitValue c) 0
  match startText.findIdx? (· == '?') with
  | some k => (start, start + Nat.pow 16 (cs.length - k) - 1)
  | none =>
    if startText.length < cs.length then
      let stop := (cs.drop (startText.length + 1)).foldl (fun acc c => acc * 16 + rangeDigitValue c) 0
      (start, if stop ≤ start then start else stop)
    else (start, start)

/-- Sorted ranges with each range that the one before it covers dropped,
and one that it touches merged into it; the range after a dropped or merged
one is then compared with its own successor. -/
def mergeRanges : List (Nat × Nat) → List (Nat × Nat)
  | a :: b :: rest =>
    if b.2 ≤ a.2 then a :: mergeRanges rest
    else if b.1 ≤ a.2 + 1 then (a.1, b.2) :: mergeRanges rest
    else a :: mergeRanges (b :: rest)
  | l => l

/-- Hexadecimal digits in upper case. -/
def upperHex (n : Nat) : String :=
  String.ofList ((Nat.toDigits 16 n).map Char.toUpper)

/-- The hexadecimal digit of a number at a place, counted from the last. -/
def hexDigitAt (n k : Nat) : Nat := n / Nat.pow 16 k % 16

/-- The number of trailing `?` a range can be written with, looking at the
last six digits: the trailing places where the start has `0` and the end
`F`, when the start and end agree on the other places; zero otherwise. -/
def wildcardDigits (r : Nat × Nat) : Nat :=
  let k := ((List.range 6).takeWhile fun k => hexDigitAt r.1 k == 0 && hexDigitAt r.2 k == 15).length
  if (List.range 6).all fun j => j < k || hexDigitAt r.1 j == hexDigitAt r.2 j then k else 0

/-- The text of a range: one code point, `initial` for all code points, a
start with `?` digits (the start left out when it is zero), or a start and
an end. -/
def rangeComponent (r : Nat × Nat) : Component :=
  if r.1 == r.2 then .token ⟨.unicodeRange, "U+" ++ upperHex r.1⟩
  else if r.1 == 0 && r.2 == 0x10FFFF then identComponent "initial"
  else
    let k := wildcardDigits r
    if 0 < k then
      let lead := r.1 / Nat.pow 16 k
      .token ⟨.unicodeRange, "U+" ++ (if lead == 0 then "" else upperHex lead) ++
        String.ofList (List.replicate k '?')⟩
    else .token ⟨.unicodeRange, "U+" ++ upperHex r.1 ++ "-" ++ upperHex r.2⟩

/-- The merging of a list of code point ranges, sorted by their starts;
anything but ranges and commas leaves the value as it is. -/
def minifyUnicodeRange (vs : List Component) : List Component :=
  let items := vs.filter fun c => !c.isComma
  if !items.all (·.isKind .unicodeRange) then vs
  else
    let ranges := (items.map fun c => codePointRange c.lead).mergeSort fun a b => a.1 ≤ b.1
    joinWithCommas ((mergeRanges ranges).map fun r => [rangeComponent r])

/-! ## Dispatch -/

/-- The prefix of an old opacity filter, and what replaces it. -/
def alphaFilterPrefix : String := "progid:DXImageTransform.Microsoft.Alpha(Opacity="

/-- An old opacity filter in its short form. -/
def minifyFilter : List Component → List Component
  | .token t :: rest =>
    let inner := (t.text.toList.drop 1).dropLast
    if t.kind == .string && 2 < t.text.length && alphaFilterPrefix.toList.isPrefixOf inner then
      .token ⟨.string, String.ofList (t.text.toList.take 1 ++ "alpha(opacity=".toList ++
        t.text.toList.drop (1 + alphaFilterPrefix.length))⟩ :: rest
    else .token t :: rest
  | vs => vs

/-- The components of a property after its own rules. -/
def minifyProperty (prop : String) (vs : List Component) : List Component :=
  if 100 < vs.length then vs
  else match prop with
  | "font" => minifyFont vs
  | "font-family" => minifyFamily vs
  | "font-weight" =>
    mapFirst (fun c => if c.isIdentIn ["normal"] then numberComponent "400"
      else if c.isIdentIn ["bold"] then numberComponent "700" else c) vs
  | "margin" | "padding" | "border-width" => collapseSides vs
  | "border" | "border-top" | "border-right" | "border-bottom" | "border-left" =>
    dropDefaults ["none", "currentcolor", "medium"] vs
  | "outline" => dropDefaults ["invert", "none", "medium"] vs
  | "background" => minifyBackground vs
  | "background-size" => minifySize vs
  | "background-repeat" => minifyRepeat vs
  | "background-position" => minifyPosition vs
  | "box-shadow" => joinWithCommas ((splitAtCommas vs).map minifyShadow)
  | "-ms-filter" => minifyFilter vs
  | "color" => mapFirst minifyColor vs
  | "background-color" =>
    mapFirst (fun c => let c := minifyColor c
      if c.isIdentIn ["transparent"] then identComponent "initial" else c) vs
  | "border-color" => minifyBorderColor vs
  | "border-left-color" | "border-right-color" | "border-top-color" | "border-bottom-color"
  | "text-decoration-color" | "text-emphasis-color" => mapFirst (currentColorAs "initial") vs
  | "caret-color" | "outline-color" | "fill" | "stroke" => mapFirst minifyColor vs
  | "column-rule" => dropDefaults ["currentcolor", "none", "medium"] vs
  | "text-shadow" => vs.map minifyColor
  | "text-decoration" => dropDefaults ["currentcolor", "none", "solid"] vs
  | "text-emphasis" => dropDefaults ["currentcolor", "none"] vs
  | "flex" => minifyFlex vs
  | "flex-basis" => mapFirst (fun c => if c.isIdentIn ["initial"] then identComponent "auto" else zeroLength c) vs
  | "order" | "flex-grow" => initialAs (numberComponent "0") vs
  | "flex-shrink" => initialAs (numberComponent "1") vs
  | "unicode-range" => minifyUnicodeRange vs
  | _ => vs

end CriticalCss.Css

import CriticalCss.Css.Minify.Value
import CriticalCss.Text.FloatText
/-!
# Background layers

A `background` value is a list of layers separated by commas, and each layer
is shortened on its own:

* a size after `/` loses a second `auto`, and a size of `auto` alone is
  dropped with its `/`;
* colors take their shortest spelling, and a clear color is dropped;
* two repeat keywords become one (`repeat no-repeat` is `repeat-x`, and a
  pair of `repeat` is dropped as the default);
* `none`, `scroll` and `transparent` are dropped, and so is the default box
  pair `padding-box border-box`;
* a position is rewritten with offsets from the left and top, keywords as
  lengths, and a position of zeros is dropped;
* a layer left empty is written `0 0`.

A position `right 10%` or `bottom 20%` becomes an offset from the other side,
`90%` or `80%`. The texts of these offsets are written one after another into
one growing buffer of four characters, and an offset keeps a view of the
buffer: when a later offset's text still fits the same storage it shows
through in the earlier offset, so `right 10% bottom 20%` is written
`90% 90%`. `Scratch` holds that storage.

## Main definitions

* `Scratch`: storage shared by successive texts of one buffer.
* `minifyPosition`: the shortening of a background position.
* `minifyBackground`: the shortening of a `background` value.
-/

namespace CriticalCss.Css

open CriticalCss.Text

/-! ## A shared buffer -/

/-- Block sizes that a growing buffer is rounded up to. -/
def blockSizes : List Nat :=
  [8, 16, 24, 32, 48, 64, 80, 96, 112, 128, 144, 160, 176, 192, 208, 224, 240, 256]

/-- The capacity that a buffer of capacity `cap` grows to when it must hold
`needed` characters: twice its capacity, or what is needed when that is
more, rounded up to a block size. -/
def grownCapacity (cap needed : Nat) : Nat :=
  let want := if needed > 2 * cap then needed else 2 * cap
  (blockSizes.find? (want ≤ ·)).getD want

/-- Storage for texts written one after another from the start of one
buffer: blocks whose size is their capacity, the block that the buffer
writes into now, and the length of its text. A text kept by reference
reads what its block holds at the end. -/
structure Scratch where
  /-- The blocks, each of its capacity. -/
  blocks : Array (Array Char)
  /-- The block that the buffer writes into. -/
  current : Nat
  /-- The length of the buffer's text. -/
  length : Nat

namespace Scratch

/-- An empty buffer of capacity four. -/
def init : Scratch := ⟨#[Array.replicate 4 ' '], 0, 0⟩

/-- A block by its number. -/
def block (s : Scratch) (i : Nat) : Array Char := s.blocks.getD i #[]

/-- Characters written into a block from a position on. -/
def writeAt (b : Array Char) (pos : Nat) : List Char → Array Char
  | [] => b
  | c :: cs => writeAt (b.setIfInBounds pos c) (pos + 1) cs

/-- A fresh block of a capacity holding a text. -/
def fresh (cap : Nat) (cs : List Char) : Array Char :=
  writeAt (Array.replicate cap ' ') 0 cs

/-- The buffer with characters appended: in place when they fit, otherwise
in a new, larger block that takes a copy of the text so far. -/
def append (s : Scratch) (cs : List Char) : Scratch :=
  let b := s.block s.current
  let needed := s.length + cs.length
  if needed ≤ b.size then
    { s with blocks := s.blocks.setIfInBounds s.current (writeAt b s.length cs), length := needed }
  else
    let nb := fresh (grownCapacity b.size needed) (b.toList.take s.length ++ cs)
    { blocks := s.blocks.push nb, current := s.blocks.size, length := needed }

/-- The buffer with a new text written from its start, piece by piece. -/
def rewrite (s : Scratch) (pieces : List (List Char)) : Scratch :=
  pieces.foldl append { s with length := 0 }

/-- The buffer's text with one more character, as a reference to where it
lies: in the buffer's block when there is room, and otherwise in a block of
its own, the buffer staying where it is. -/
def extend (s : Scratch) (c : Char) : Scratch × (Nat × Nat) :=
  let b := s.block s.current
  if s.length + 1 ≤ b.size then
    ({ s with blocks := s.blocks.setIfInBounds s.current (b.setIfInBounds s.length c) },
      (s.current, s.length + 1))
  else
    let nb := fresh (grownCapacity b.size (s.length + 1)) (b.toList.take s.length ++ [c])
    ({ s with blocks := s.blocks.push nb }, (s.blocks.size, s.length + 1))

/-- The text a reference reads: the first characters of its block. -/
def read (s : Scratch) (ref : Nat × Nat) : String :=
  String.ofList ((s.block ref.1).toList.take ref.2)

end Scratch

/-- The pieces in which a number's shortest `g` text goes into a buffer: the
sign, then the leading digits as one piece, padding zeros one by one, the
point and each digit of the fraction; in the exponent form the first digit,
the point, the other digits, the letter, the exponent's sign and its
digits. -/
def floatPieces (s : String) : List (List Char) :=
  let (sign, body) : List (List Char) × List Char := match s.toList with
    | '-' :: r => ([['-']], r)
    | r => ([], r)
  if body.contains 'e' then
    let mant := body.takeWhile (· != 'e')
    let mantPieces := match mant with
      | d :: '.' :: rest => [[d], ['.'], rest]
      | m => [m]
    let expPieces := match body.drop (mant.length + 1) with
      | c :: ds => [[c], ds]
      | [] => []
    sign ++ mantPieces ++ [['e']] ++ expPieces
  else
    let intPart := body.takeWhile (· != '.')
    let frac := body.drop (intPart.length + 1)
    let lead := (intPart.reverse.dropWhile (· == '0')).reverse
    let intPieces :=
      if !frac.isEmpty || lead.isEmpty then [intPart]
      else lead :: List.replicate (intPart.length - lead.length) ['0']
    sign ++ intPieces ++ (if frac.isEmpty then [] else ['.'] :: frac.map fun c => [c])

/-- The value of a percentage's number, zero when it cannot be read. -/
def percentValue (text : String) : Float :=
  (parseGoFloat (String.ofList (text.toList.filter (· != '%')))).getD 0

/-! ## Positions -/

/-- A component of a background position, with the keyword it counts as
(which a rewrite may change without changing its text) and, for an offset
rewritten into the shared buffer, where its text lies. -/
structure Place where
  /-- The component as it will be written. -/
  comp : Component
  /-- The keyword it counts as. -/
  keyword : Option String
  /-- Where its text lies in the shared buffer, if it does. -/
  shared : Option (Nat × Nat) := none
deriving Inhabited

/-- A place for a component, counting as its own keyword. -/
def Place.of (c : Component) : Place := ⟨c, c.keyword?, none⟩

/-- Whether a place counts as a keyword. -/
def Place.is (p : Place) (k : String) : Bool := p.keyword == some k

/-- The place of a zero. -/
def zeroPlace : Place := Place.of (numberComponent "0")

/-- The place of a percentage. -/
def percentPlace (text : String) : Place := Place.of (.token ⟨.percentage, text⟩)

/-- The place with its text read from the buffer when it lies there. -/
def Place.resolve (s : Scratch) (p : Place) : Place :=
  match p.shared with
  | some ref => { p with comp := .token ⟨.percentage, s.read ref⟩, shared := none }
  | none => p

/-- The offsets found for the two axes. -/
structure Offsets where
  /-- The offset from the left. -/
  x : Option Place := none
  /-- The offset from the top. -/
  y : Option Place := none

/-- Drops a zero at a position while more than two components are left. -/
def dropZeroAt (ps : Array Place) (i : Nat) : Array Place :=
  match ps[i]? with
  | some p => if 2 < ps.size && p.comp.isZero then ps.eraseIdxIfInBounds i else ps
  | none => ps

/-- One keyword of a three or four part position with the offset after it:
a percentage from the right or bottom is turned into one from the left or
top, and the offset is recorded for its axis; a keyword alone records the
offset it stands for. -/
def offsetStep (j : Nat) (st : Array Place × Offsets × Scratch) (i : Nat) :
    Array Place × Offsets × Scratch :=
  let (ps, off, sc) := st
  let cur := ps.getD i default
  if i + 1 < ps.size && i + 1 != j then
    let next := ps.getD (i + 1) default
    let (ps, sc) :=
      if next.comp.isKind .percentage && (cur.is "right" || cur.is "bottom") then
        let sc := sc.rewrite (floatPieces (formatFloat (100 - percentValue next.comp.lead) 'g' none))
        let (sc, ref) := sc.extend '%'
        let side := if cur.is "right" then "left" else "top"
        ((ps.setIfInBounds (i + 1) { next with shared := some ref }).setIfInBounds i
          (Place.of (identComponent side)), sc)
      else (ps, sc)
    let cur := ps.getD i default
    let next := ps.getD (i + 1) default
    let off :=
      if cur.is "left" then { off with x := some next }
      else if cur.is "top" then { off with y := some next } else off
    (ps, off, sc)
  else if cur.is "left" then (ps, { off with x := some zeroPlace }, sc)
  else if cur.is "top" then (ps, { off with y := some zeroPlace }, sc)
  else if cur.is "right" then
    (ps.setIfInBounds i { cur with keyword := some "left" }, { off with x := some (percentPlace "100%") }, sc)
  else if cur.is "bottom" then
    (ps.setIfInBounds i { cur with keyword := some "top" }, { off with y := some (percentPlace "100%") }, sc)
  else (ps, off, sc)

/-- A position of three or four parts: zero offsets dropped, and the whole
written as the two offsets from the left and top when both are known. -/
def collapseOffsets (ps : Array Place) : Array Place :=
  let ps := dropZeroAt ps (ps.size - 1)
  let ps := dropZeroAt ps 1
  let j := if 2 < ps.size && (ps.getD 2 default).comp.isKind .ident then 2 else 1
  let (ps, off, sc) := [j, 0].foldl (offsetStep j) (ps, {}, Scratch.init)
  let p0 := ps.getD 0 default
  let pj := ps.getD j default
  let offs : List (Option Place) :=
    if p0.is "center" || pj.is "center" then
      if p0.is "left" || pj.is "left" then [off.x]
      else if p0.is "top" || pj.is "top" then [some (Place.of (numberComponent "50%")), off.y]
      else [off.x, off.y]
    else [off.x, off.y]
  let ps := match offs with
    | [some a] => #[a]
    | [some a, some b] => #[a, b]
    | _ => ps
  ps.map (Place.resolve sc)

/-- One part of a position of one or two parts with its keyword written as
a length or percentage. -/
def keywordStep (ps : Array Place) (i : Nat) : Array Place :=
  match ps[i]? with
  | none => ps
  | some p =>
    if p.comp.isKind .ident then
      if p.is "left" || p.is "top" then ps.setIfInBounds i zeroPlace
      else if p.is "right" || p.is "bottom" then ps.setIfInBounds i (percentPlace "100%")
      else if p.is "center" then
        if i == 0 then ps.setIfInBounds i (percentPlace "50%") else ps.extract 0 1
      else ps
    else if i == 1 && p.comp.isKind .percentage && p.comp.lead == "50%" then ps.extract 0 1
    else if p.comp.isKind .percentage && p.comp.lead.startsWith "0" then ps.setIfInBounds i zeroPlace
    else ps

/-- A position of one or two parts with keywords as lengths; a vertical
keyword first is moved second, and one alone is kept. -/
def keywordsAsLengths (ps : Array Place) : Array Place :=
  let p0 := ps.getD 0 default
  if p0.is "top" || p0.is "bottom" then
    if ps.size == 1 then ps
    else keywordStep (keywordStep #[ps.getD 1 default, p0] 0) 1
  else keywordStep (keywordStep ps 0) 1

/-- The shortening of a background position. -/
def minifyPosition (vs : List Component) : List Component :=
  let ps := vs.toArray.map Place.of
  let ps := if ps.size == 3 || ps.size == 4 then collapseOffsets ps else ps
  let ps := if ps.size == 1 || ps.size == 2 then keywordsAsLengths ps else ps
  ps.toList.map (·.comp)

/-- The shortening of a background size of two parts: a second `auto` is
dropped. -/
def minifySize : List Component → List Component
  | [a, b] => if b.isIdentIn ["auto"] then [a] else [a, b]
  | vs => vs

/-- The shortening of two repeat keywords: a pair of one keyword is one, and
`repeat no-repeat` and `no-repeat repeat` are `repeat-x` and `repeat-y`. -/
def minifyRepeat : List Component → List Component
  | [a, b] =>
    if a.isKind .ident && b.isKind .ident then
      if a.keyword? == b.keyword? then [a]
      else if a.isIdentIn ["repeat"] && b.isIdentIn ["no-repeat"] then [identComponent "repeat-x"]
      else if a.isIdentIn ["no-repeat"] && b.isIdentIn ["repeat"] then [identComponent "repeat-y"]
      else [a, b]
    else [a, b]
  | vs => vs

/-! ## Layers -/

/-- Whether a component may start a background position: a number, a
length or percentage, or a side keyword. -/
def isPositionStart (c : Component) : Bool :=
  c.isKind .number || c.isLengthPercentage ||
    c.isIdentIn ["left", "top", "right", "bottom", "center"]

/-- Whether a component may go on with a background position: what may
start one, or any function. -/
def isPositionPart (c : Component) : Bool :=
  isPositionStart c || (c matches .function _ _)

/-- Whether a component may be part of a background size. -/
def isSizePart (c : Component) : Bool :=
  c.isKind .number || c.isLengthPercentage || c.isIdentIn ["auto"]

/-- A layer with its sizes shortened: a second `auto` dropped, and a size of
`auto` alone dropped with its `/`. -/
def minifyLayerSizes : List Component → List Component
  | s :: a :: b :: rest =>
    if s.isSlash && isSizePart a && isSizePart b then
      match minifySize [a, b] with
      | [x] => if x.isIdentIn ["auto"] then minifyLayerSizes rest else s :: x :: minifyLayerSizes rest
      | xs => s :: xs ++ minifyLayerSizes rest
    else if s.isSlash && a.isIdentIn ["auto"] then minifyLayerSizes (b :: rest)
    else s :: minifyLayerSizes (a :: b :: rest)
  | [s, a] => if s.isSlash && a.isIdentIn ["auto"] then [] else [s, a]
  | vs => vs

/-- The keywords of a repeat. -/
def repeatKeywords : List String := ["space", "round", "repeat", "no-repeat"]

/-- A position starting at a component: the position rewritten and what
follows it, or the component as it is when it does not start one. A position
of two zeros with no size after it is dropped, or written `0 0` when it is
the whole layer. -/
def positionStep (layerSize : Nat) (done : Array Component) (v : Component)
    (rest : List Component) : Array Component × List Component :=
  if isPositionStart v then
    let run := rest.takeWhile isPositionPart
    let after := rest.drop run.length
    let pv := minifyPosition (v :: run)
    let hasSize := match after with
      | s :: _ => s.isSlash
      | [] => false
    if !hasSize && pv.length == 2 && pv.all (·.isZero) then
      if layerSize == 2 then (done ++ #[numberComponent "0", numberComponent "0"], after)
      else (done, after)
    else (done ++ pv.toArray, after)
  else (done.push v, rest)

/-- What one component of a layer leaves: the components written so far,
the position of a `padding-box` that a later `border-box` drops with itself,
and the components still to read. -/
def layerStep (done : Array Component) (box : Option Nat) (c : Component) (rest : List Component) :
    Array Component × Option Nat × List Component :=
  let v := minifyColor c
  let byPosition := positionStep (done.size + rest.length + 1) done v rest
  let viaPosition := (byPosition.1, box, byPosition.2)
  if v.isKind .ident then
    let repeatPair := match rest with
      | n :: rest' => if n.isKind .ident && c.isIdentIn repeatKeywords then some (n, rest') else none
      | [] => none
    match repeatPair with
    | some (n, rest') =>
      if n.isIdentIn repeatKeywords then
        let rv := minifyRepeat [v, n]
        if rv.length == 1 && rv.all (·.isIdentIn ["repeat"]) then (done, box, rest')
        else (done ++ rv.toArray, box, rest')
      else viaPosition
    | none =>
      if c.isIdentIn ["none", "scroll", "transparent"] then (done, box, rest)
      else if c.isIdentIn ["padding-box"] && box.isNone then (done.push v, some done.size, rest)
      else if c.isIdentIn ["border-box"] then
        match box with
        | some p => (done.eraseIdxIfInBounds p, box, rest)
        | none => (done.push v, box, rest)
      else if c.isIdentIn ["padding-box"] then (done.push v, box, rest)
      else viaPosition
  else if v matches .token ⟨.hash, "#0000"⟩ then (done, box, rest)
  else viaPosition

/-- The components of a layer read one by one; each step reads at least
one, so the length of the layer is enough fuel. -/
def layerParts : Nat → Array Component → Option Nat → List Component → Array Component
  | 0, done, _, rest => done ++ rest.toArray
  | _ + 1, done, _, [] => done
  | fuel + 1, done, box, c :: rest =>
    let (done, box, rest) := layerStep done box c rest
    layerParts fuel done box rest

/-- The shortening of one layer; a layer left empty is `0 0`. -/
def minifyLayer (layer : List Component) : List Component :=
  if layer.isEmpty then layer
  else
    let sized := minifyLayerSizes layer
    let out := (layerParts (sized.length + 1) #[] none sized).toList
    if out.isEmpty then [numberComponent "0", numberComponent "0"] else out

/-- The shortening of a `background` value, layer by layer. -/
def minifyBackground (vs : List Component) : List Component :=
  joinWithCommas ((splitAtCommas vs).map minifyLayer)

end CriticalCss.Css
